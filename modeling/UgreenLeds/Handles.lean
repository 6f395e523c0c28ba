import UgreenLeds.Holdings
import Mathlib.Data.List.Nodup

/-!
# Numbers that variables hold

A program keeps the numbers of what it has acquired in variables.  The ledger says
that nothing is lost and nothing is given back twice: each number that is in use
since the program started is held by the variable it was acquired for, and the
numbers that were given back are all different.

The names of the variables are a parameter.
-/

namespace Holdings

/--
Variables that hold numbers of an arena, where a value is its variable's name.
-/
structure Handles (Name : Type*) where
  arena : Arena Name
  number : Name → Option Nat
  /-- The numbers that were given back, oldest first. -/
  returned : List Nat

namespace Handles

variable
  {Name : Type*}
  [DecidableEq Name]

/-- Acquire a number for a variable. -/
def acquire
    (handles : Handles Name)
    (name : Name) : Handles Name where
  arena := handles.arena.create name
  number :=
    Function.update handles.number name (some handles.arena.next)
  returned := handles.returned

/-- Give back the number in a variable, if there is one. -/
def giveBack
    (handles : Handles Name)
    (name : Name) : Handles Name :=
  match handles.number name with
  | none =>
      handles
  | some number =>
      { arena := handles.arena.release number
        number := Function.update handles.number name none
        returned := handles.returned ++ [number] }

/-- Every number in use is held, and every other one was given back once. -/
structure Ledger
    (before : Arena Name)
    (handles : Handles Name) : Prop where
  later : before.next ≤ handles.arena.next
  kept :
    ∀ number, number < before.next →
      handles.arena.cells number = before.cells number
  held :
    ∀ name number, handles.number name = some number →
      before.next ≤ number ∧ handles.arena.cells number = some name
  accounted :
    ∀ name number, before.next ≤ number →
      handles.arena.cells number = some name →
      handles.number name = some number
  once : handles.returned.Nodup
  returned :
    ∀ number ∈ handles.returned,
      before.next ≤ number ∧ number < handles.arena.next ∧
        handles.arena.cells number = none

section Numbers

variable
  (handles : Handles Name)
  {name other : Name}

@[simp] theorem acquire_number_self :
    (handles.acquire name).number name = some handles.arena.next :=
  Function.update_self _ _ _

theorem acquire_number_of_ne (different : other ≠ name) :
    (handles.acquire name).number other = handles.number other :=
  Function.update_of_ne different _ _

/-- The other variables hold what they held. -/
theorem giveBack_number :
    (handles.giveBack name).number =
      Function.update handles.number name none := by
  unfold giveBack
  split
  · rename_i empty
    rw [← empty, Function.update_eq_self]
  · rfl

/-- Giving back what was just acquired empties the variable again. -/
theorem giveBack_acquire_number (empty : handles.number name = none) :
    ((handles.acquire name).giveBack name).number = handles.number := by
  rw [giveBack_number, acquire, Function.update_idem, ← empty,
    Function.update_eq_self]

end Numbers

section Ledger

variable
  {before : Arena Name}
  {handles : Handles Name}

omit [DecidableEq Name] in
/-- A program starts with a ledger that is in order. -/
theorem Ledger.start (before : Arena Name) :
    Ledger before ⟨before, fun _ => none, []⟩ where
  later := Nat.le_refl _
  kept := fun _ _ => rfl
  held := fun _ _ held => by cases held
  accounted := by
    intro name number since present
    rw [before.fresh number since] at present
    cases present
  once := List.nodup_nil
  returned := fun _ member => by cases member

/-- Acquiring a number for an empty variable keeps the ledger in order. -/
theorem Ledger.acquire
    (ledger : Ledger before handles)
    {name : Name}
    (empty : handles.number name = none) :
    Ledger before (handles.acquire name) where
  later := ledger.later.trans (Nat.le_succ _)
  kept := by
    intro number earlier
    have different : number ≠ handles.arena.next := by
      have := ledger.later
      omega
    exact
      (Function.update_of_ne different _ _).trans
        (ledger.kept number earlier)
  held := by
    intro other number isHeld
    by_cases same : other = name
    · subst same
      rw [acquire_number_self] at isHeld
      cases isHeld
      exact ⟨ledger.later, Function.update_self _ _ _⟩
    · rw [acquire_number_of_ne handles same] at isHeld
      obtain ⟨since, present⟩ := ledger.held other number isHeld
      have different : number ≠ handles.arena.next := by
        rintro rfl
        rw [handles.arena.fresh _ (Nat.le_refl _)] at present
        cases present
      exact
        ⟨since, (Function.update_of_ne different _ _).trans present⟩
  accounted := by
    intro other number since present
    by_cases isNew : number = handles.arena.next
    · subst isNew
      have same : name = other := by
        simpa [Handles.acquire, Arena.create] using present
      subst same
      exact acquire_number_self handles
    · have was : handles.arena.cells number = some other :=
        (Function.update_of_ne isNew _ _).symm.trans present
      have isHeld := ledger.accounted other number since was
      have different : other ≠ name := by
        rintro rfl
        rw [empty] at isHeld
        cases isHeld
      rw [acquire_number_of_ne handles different]
      exact isHeld
  once := ledger.once
  returned := by
    intro number member
    obtain ⟨since, below, free⟩ := ledger.returned number member
    have different : number ≠ handles.arena.next := by omega
    exact
      ⟨since, Nat.lt_succ_of_lt below,
        (Function.update_of_ne different _ _).trans free⟩

/-- Giving back what a variable holds keeps the ledger in order. -/
theorem Ledger.giveBack
    (ledger : Ledger before handles)
    (name : Name) :
    Ledger before (handles.giveBack name) := by
  cases isHeld : handles.number name with
  | none =>
      simp only [Handles.giveBack, isHeld]
      exact ledger
  | some number =>
      obtain ⟨since, present⟩ := ledger.held name number isHeld
      have inUse : number < handles.arena.next := by
        by_contra unused
        rw [handles.arena.fresh number (Nat.le_of_not_lt unused)]
          at present
        cases present
      simp only [Handles.giveBack, isHeld]
      exact
        { later := ledger.later
          kept := by
            intro other earlier
            have different : other ≠ number := by omega
            exact
              (Function.update_of_ne different _ _).trans
                (ledger.kept other earlier)
          held := by
            intro other otherNumber otherHeld
            have differentName : other ≠ name := by
              rintro rfl
              simp at otherHeld
            simp only [Function.update_of_ne differentName]
              at otherHeld
            obtain ⟨otherSince, otherPresent⟩ :=
              ledger.held other otherNumber otherHeld
            have different : otherNumber ≠ number := by
              rintro rfl
              rw [present] at otherPresent
              exact differentName (Option.some.inj otherPresent).symm
            exact
              ⟨otherSince,
                (Function.update_of_ne different _ _).trans
                  otherPresent⟩
          accounted := by
            intro other otherNumber otherSince otherPresent
            have different : otherNumber ≠ number := by
              rintro rfl
              simp [Arena.release] at otherPresent
            simp only [Arena.release, Function.update_of_ne different]
              at otherPresent
            have otherHeld :=
              ledger.accounted other otherNumber otherSince
                otherPresent
            have differentName : other ≠ name := by
              rintro rfl
              rw [isHeld] at otherHeld
              exact different (Option.some.inj otherHeld).symm
            simp only [Function.update_of_ne differentName]
            exact otherHeld
          once := by
            have fresh : number ∉ handles.returned := by
              intro member
              rw [(ledger.returned number member).2.2] at present
              cases present
            exact
              ledger.once.append (List.nodup_singleton number)
                (List.disjoint_singleton.mpr fresh)
          returned := by
            intro other member
            rcases List.mem_append.mp member with earlier | latest
            · obtain ⟨otherSince, below, free⟩ :=
                ledger.returned other earlier
              refine ⟨otherSince, below, ?_⟩
              by_cases same : other = number
              · subst same
                exact Function.update_self _ _ _
              · exact (Function.update_of_ne same _ _).trans free
            · rw [List.mem_singleton.mp latest]
              exact ⟨since, inUse, Function.update_self _ _ _⟩ }

omit [DecidableEq Name] in
/-- What was not there before is what the variables hold. -/
theorem Ledger.mem_created
    (ledger : Ledger before handles)
    {number : Nat} :
    number ∈ created before.cells handles.arena.cells ↔
      ∃ name, handles.number name = some number := by
  constructor
  · rintro ⟨free, taken⟩
    obtain ⟨name, present⟩ := Option.ne_none_iff_exists'.mp taken
    have since : before.next ≤ number := by
      by_contra earlier
      rw [ledger.kept number (Nat.lt_of_not_le earlier), free] at taken
      exact taken rfl
    exact ⟨name, ledger.accounted name number since present⟩
  · rintro ⟨name, isHeld⟩
    obtain ⟨since, present⟩ := ledger.held name number isHeld
    refine ⟨before.fresh number since, ?_⟩
    rw [present]
    exact Option.some_ne_none name

omit [DecidableEq Name] in
/-- What was there before is there still. -/
theorem Ledger.keeps
    (ledger : Ledger before handles)
    {number : Nat}
    (taken : before.cells number ≠ none) :
    handles.arena.cells number = before.cells number := by
  refine ledger.kept number ?_
  by_contra since
  exact taken (before.fresh number (Nat.le_of_not_lt since))

end Ledger

end Handles

end Holdings
