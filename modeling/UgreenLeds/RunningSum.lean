import Mathlib.Data.UInt

/-!
# Running sums in a fixed-width type

A loop that adds up items in a machine integer has a value after every step.
If one addition is exact while its result stays below a limit, all values of a
loop whose exact total stays below the limit are exact, so no intermediate sum
wraps around.

The machine type and the items are parameters.
-/

namespace RunningSum

variable {Machine Item : Type*}

/-- The value of an accumulator before the first item and after every one. -/
def running
    (add : Machine → Item → Machine)
    (start : Machine)
    (items : List Item) : List Machine :=
  items.scanl add start

/-- The exact running sums of the items' weights. -/
def exactly
    (weight : Item → Nat)
    (start : Nat)
    (items : List Item) : List Nat :=
  running (fun sum item => sum + weight item) start items

/-- An addition is exact as long as its result stays below a limit. -/
def ExactBelow
    (value : Machine → Int)
    (weight : Item → Nat)
    (limit : Nat)
    (add : Machine → Item → Machine) : Prop :=
  ∀ (sum : Machine) (item : Item) (total : Nat),
    value sum = (total : Int) →
    total + weight item < limit →
    value (add sum item) = ((total + weight item : Nat) : Int)

variable
  {value : Machine → Int}
  {weight : Item → Nat}
  {limit : Nat}
  {add : Machine → Item → Machine}

/-- If the total stays below the limit, the final value is the total. -/
theorem ExactBelow.foldl_eq
    (exact : ExactBelow value weight limit add)
    (start : Machine)
    (total : Nat)
    (starts : value start = (total : Int))
    {items : List Item}
    (fits : total + (items.map weight).sum < limit) :
    value (items.foldl add start) =
      ((total + (items.map weight).sum : Nat) : Int) := by
  induction items generalizing start total with
  | nil =>
      simpa using starts
  | cons item rest inductionHypothesis =>
      simp only [List.map_cons, List.sum_cons] at fits ⊢
      have added :=
        exact start item total starts (by omega)
      rw [List.foldl_cons, inductionHypothesis _ _ added (by omega)]
      omega

/-- If the total stays below the limit, every intermediate sum is exact. -/
theorem ExactBelow.running_eq
    (exact : ExactBelow value weight limit add)
    (start : Machine)
    (total : Nat)
    (starts : value start = (total : Int))
    {items : List Item}
    (fits : total + (items.map weight).sum < limit) :
    (running add start items).map value =
      (exactly weight total items).map (fun sum : Nat => (sum : Int)) := by
  induction items generalizing start total with
  | nil =>
      simp [running, exactly, starts]
  | cons item rest inductionHypothesis =>
      simp only [List.map_cons, List.sum_cons] at fits
      have added :=
        exact start item total starts (by omega)
      have later := inductionHypothesis _ _ added (by omega)
      simp only [running, exactly, List.scanl_cons, List.map_cons,
        starts] at later ⊢
      rw [later]

end RunningSum
