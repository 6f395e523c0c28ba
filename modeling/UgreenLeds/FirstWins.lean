import Mathlib.Data.List.Basic
import Mathlib.Logic.Function.Basic

/-!
# The first item wins

A table is filled from a list of items.  Some items have a place in the table, and
an item is stored in its place unless something is there already.  So each entry
of the table comes from the first item with that place, and items with different
values give a table with different entries.

The items, keys and values are parameters.
-/

namespace FirstWins

variable {Item Key Value : Type*} [DecidableEq Key]

/-- Store an item in its place, if it has one that is still empty. -/
def fill
    (place : Item → Option (Key × Value))
    (table : Key → Option Value)
    (item : Item) : Key → Option Value :=
  match place item with
  | none =>
      table
  | some (key, value) =>
      match table key with
      | some _ =>
          table
      | none =>
          Function.update table key (some value)

/-- What an item stores under a key. -/
def valueAt
    (place : Item → Option (Key × Value))
    (key : Key)
    (item : Item) : Option Value :=
  match place item with
  | none =>
      none
  | some (other, value) =>
      if other = key then some value else none

variable
  {place : Item → Option (Key × Value)}
  {key : Key}

/-- An item fills the entry of its place if it is empty. -/
theorem fill_apply
    (table : Key → Option Value)
    (item : Item) :
    fill place table item key =
      (table key).or (valueAt place key item) := by
  unfold fill valueAt
  cases place item with
  | none =>
      simp
  | some placed =>
      obtain ⟨other, value⟩ := placed
      by_cases same : other = key
      · subst same
        cases filled : table other <;> simp [filled]
      · have different : key ≠ other := fun isSame => same isSame.symm
        simp only [same, ↓reduceIte, Option.or_none]
        cases table other with
        | none =>
            exact Function.update_of_ne different _ table
        | some stored =>
            rfl

/-- Each entry of the table comes from the first item with its place. -/
theorem foldl_fill
    (items : List Item)
    (table : Key → Option Value) :
    items.foldl (fill place) table key =
      (table key).or (items.findSome? (valueAt place key)) := by
  induction items generalizing table with
  | nil =>
      simp
  | cons item rest inductionHypothesis =>
      rw [List.foldl_cons, inductionHypothesis, fill_apply,
        Option.or_assoc, List.findSome?_cons]
      cases valueAt place key item <;> rfl

end FirstWins
