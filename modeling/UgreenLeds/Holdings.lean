import Mathlib.Data.Set.Insert
import Mathlib.Order.BooleanAlgebra.Set
import Mathlib.Logic.Function.Basic

/-!
# What a call acquires and gives back

A table says what exists under each key.  A call acquires cells that were free
before, and gives back all of them or some: what is left is the table from before
and the cells that were kept.  An arena is a table whose keys are numbers that are
handed out once.  Fallible steps are carried out up to the first that fails; an
invariant that each of them keeps, even when it fails, holds when the cleanup
starts.

The keys, values, states and errors are parameters.
-/

namespace Holdings

section Tables

variable {Key Value : Type*}

/-- What exists under each key. -/
abbrev Table (Key Value : Type*) := Key → Option Value

/-- A table has cells that were free in another one, and is otherwise the same. -/
structure Adds
    (before after : Table Key Value)
    (added : Set Key) : Prop where
  free : ∀ key ∈ added, before key = none
  taken : ∀ key ∈ added, after key ≠ none
  kept : ∀ key, key ∉ added → after key = before key

/-- Some cells of a table are free in another one, which is otherwise the same. -/
structure Removes
    (before after : Table Key Value)
    (removed : Set Key) : Prop where
  free : ∀ key ∈ removed, after key = none
  kept : ∀ key, key ∉ removed → after key = before key

/-- The cells that exist now and did not exist before. -/
def created (before after : Table Key Value) : Set Key :=
  {key | before key = none ∧ after key ≠ none}

variable
  {before middle after : Table Key Value}
  {added removed more : Set Key}
  {key : Key}

/-- Nothing is added to a table that stays as it is. -/
theorem Adds.refl (table : Table Key Value) : Adds table table ∅ where
  free := fun _ member => absurd member (Set.notMem_empty _)
  taken := fun _ member => absurd member (Set.notMem_empty _)
  kept := fun _ _ => rfl

/-- A table to which nothing was added is the same. -/
theorem Adds.eq_of_empty (adds : Adds before after ∅) :
    after = before :=
  funext fun key => adds.kept key (Set.notMem_empty key)

/-- What was added is what was created. -/
theorem Adds.eq_created (adds : Adds before after added) :
    added = created before after := by
  ext key
  constructor
  · intro member
    exact ⟨adds.free key member, adds.taken key member⟩
  · rintro ⟨free, taken⟩
    by_contra absent
    exact taken ((adds.kept key absent).trans free)

/-- A cell that is free can be added. -/
theorem Adds.insert
    [DecidableEq Key]
    (adds : Adds before after added)
    (free : after key = none)
    (value : Value) :
    Adds before (Function.update after key (some value))
      (added ∪ {key}) where
  free := by
    rintro other (member | rfl)
    · exact adds.free other member
    · have absent : other ∉ added :=
        fun member => adds.taken other member free
      rw [← adds.kept other absent, free]
  taken := by
    intro other member
    by_cases same : other = key
    · subst same
      simp
    · rw [Function.update_of_ne same]
      exact adds.taken other (member.resolve_right same)
  kept := by
    intro other absent
    have different : other ≠ key :=
      fun same => absent (Or.inr same)
    rw [Function.update_of_ne different]
    exact adds.kept other fun member => absent (Or.inl member)

/-- What was added can be changed. -/
theorem Adds.change
    [DecidableEq Key]
    (adds : Adds before after added)
    (member : key ∈ added)
    (value : Value) :
    Adds before (Function.update after key (some value)) added where
  free := adds.free
  taken := by
    intro other inAdded
    by_cases same : other = key
    · subst same
      simp
    · rw [Function.update_of_ne same]
      exact adds.taken other inAdded
  kept := by
    intro other absent
    have different : other ≠ key := by
      rintro rfl
      exact absent member
    rw [Function.update_of_ne different]
    exact adds.kept other absent

/-- What was added and not removed is left. -/
theorem Adds.removes
    (adds : Adds before middle added)
    (removes : Removes middle after removed)
    (within : removed ⊆ added) :
    Adds before after (added \ removed) where
  free := fun key member => adds.free key member.1
  taken := by
    intro key member
    rw [removes.kept key member.2]
    exact adds.taken key member.1
  kept := by
    intro key absent
    by_cases isRemoved : key ∈ removed
    · rw [removes.free key isRemoved, adds.free key (within isRemoved)]
    · have notAdded : key ∉ added :=
        fun member => absent ⟨member, isRemoved⟩
      rw [removes.kept key isRemoved, adds.kept key notAdded]

/-- The table from before is back if all that was added is removed. -/
theorem Adds.restored
    (adds : Adds before middle added)
    (removes : Removes middle after added) :
    after = before := by
  have left := adds.removes removes subset_rfl
  rw [Set.sdiff_eq_empty.mpr subset_rfl] at left
  exact left.eq_of_empty

/-- Nothing is removed from a table that stays as it is. -/
theorem Removes.refl (table : Table Key Value) :
    Removes table table ∅ where
  free := fun _ member => absurd member (Set.notMem_empty _)
  kept := fun _ _ => rfl

/-- A single cell is removed. -/
theorem Removes.single
    [DecidableEq Key]
    (table : Table Key Value)
    (key : Key) :
    Removes table (Function.update table key none) {key} where
  free := by
    rintro other rfl
    exact Function.update_self _ _ _
  kept := fun _ absent => Function.update_of_ne absent _ _

/-- Two removals remove what either of them removes. -/
theorem Removes.trans
    (first : Removes before middle removed)
    (second : Removes middle after more) :
    Removes before after (removed ∪ more) where
  free := by
    intro key member
    by_cases isMore : key ∈ more
    · exact second.free key isMore
    · rw [second.kept key isMore]
      exact first.free key (member.resolve_right isMore)
  kept := by
    intro key absent
    rw [second.kept key fun member => absent (Or.inr member),
      first.kept key fun member => absent (Or.inl member)]

end Tables

section Arenas

variable {Value : Type*}

/-- A table whose keys are numbers that are handed out one after the other. -/
structure Arena (Value : Type*) where
  cells : Table Nat Value
  next : Nat
  fresh : ∀ number, next ≤ number → cells number = none

namespace Arena

/-- An arena from which nothing was ever handed out. -/
def empty : Arena Value where
  cells := fun _ => none
  next := 0
  fresh := fun _ _ => rfl

variable
  (arena : Arena Value)

/-- Add a value under a number that was never used. -/
def create (value : Value) : Arena Value where
  cells := Function.update arena.cells arena.next (some value)
  next := arena.next + 1
  fresh := by
    intro number later
    rw [Function.update_of_ne (by omega)]
    exact arena.fresh number (by omega)

/-- Give back the value under a number. -/
def release (number : Nat) : Arena Value where
  cells := Function.update arena.cells number none
  next := arena.next
  fresh := by
    intro other later
    by_cases same : other = number
    · subst same
      exact Function.update_self _ _ _
    · rw [Function.update_of_ne same]
      exact arena.fresh other later

/-- Change the value under a number. -/
def change
    (number : Nat)
    (transform : Value → Value) : Arena Value where
  cells :=
    Function.update arena.cells number
      ((arena.cells number).map transform)
  next := arena.next
  fresh := by
    intro other later
    by_cases same : other = number
    · subst same
      rw [Function.update_self, arena.fresh other later]
      rfl
    · rw [Function.update_of_ne same]
      exact arena.fresh other later

/-- Give back what a number stands for, if there is one. -/
def releaseAny : Option Nat → Arena Value
  | none =>
      arena
  | some number =>
      arena.release number

end Arena

/-- The number that a variable holds, if it holds one. -/
def held (handle : Option Nat) : Set Nat :=
  {number | handle = some number}

variable
  {arena : Arena Value}
  {before : Table Nat Value}
  {number : Nat}

/-- Nothing is held by an empty variable. -/
theorem held_none : held none = ∅ := by
  ext number
  simp [held]

/-- An empty variable holds what is not added to a table. -/
theorem Adds.unheld (table : Table Nat Value) :
    Adds table table (held none) := by
  rw [held_none]
  exact Adds.refl table

/-- What is created is added, and held by what stores its number. -/
theorem Adds.create
    (adds : Adds before arena.cells (held none))
    (value : Value) :
    Adds before (arena.create value).cells (held (some arena.next)) := by
  have inserted :=
    adds.insert (arena.fresh arena.next (Nat.le_refl _)) value
  have same : held (some arena.next) = {arena.next} := by
    ext number
    simp [held, eq_comm]
  rw [held_none, Set.empty_union] at inserted
  rw [same]
  exact inserted

/-- What is held can be changed. -/
theorem Adds.change_held
    (adds : Adds before arena.cells (held (some number)))
    (transform : Value → Value) :
    Adds before (arena.change number transform).cells
      (held (some number)) := by
  have member : number ∈ held (some number) := rfl
  obtain ⟨value, present⟩ :=
    Option.ne_none_iff_exists'.mp (adds.taken number member)
  have changed :
      (arena.change number transform).cells =
        Function.update arena.cells number (some (transform value)) := by
    change
      Function.update arena.cells number
          ((arena.cells number).map transform) =
        Function.update arena.cells number (some (transform value))
    rw [present]
    rfl
  rw [changed]
  exact adds.change member (transform value)

/-- Giving back what is held removes it and nothing else. -/
theorem removes_releaseAny
    (arena : Arena Value)
    (handle : Option Nat) :
    Removes arena.cells (arena.releaseAny handle).cells (held handle) := by
  cases handle with
  | none =>
      rw [held_none]
      exact Removes.refl _
  | some number =>
      have same : held (some number) = {number} := by
        ext other
        simp [held, eq_comm]
      rw [same]
      exact Removes.single _ _

end Arenas

section Steps

variable {State Error : Type*}

/-- What a step returns, and the state it leaves. -/
abbrev Step (State Error : Type*) :=
  State → Except Error Unit × State

/-- Carry out steps up to the first that fails. -/
def sequence : List (Step State Error) → Step State Error
  | [], state =>
      (.ok (), state)
  | step :: rest, state =>
      match step state with
      | (.ok (), after) =>
          sequence rest after
      | (.error error, after) =>
          (.error error, after)

/-- Carry out a step under a condition. -/
def whenever
    (condition : Prop)
    [Decidable condition]
    (step : Step State Error) : Step State Error :=
  fun state => if condition then step state else (.ok (), state)

/-- Clean up after a step that has failed. -/
def cleaningUp
    (cleanup : State → State)
    (step : Step State Error) : Step State Error :=
  fun state =>
    match step state with
    | (.ok (), after) =>
        (.ok (), after)
    | (.error error, after) =>
        (.error error, cleanup after)

/--
A step keeps an invariant, also if it fails, and leads from one condition to
another if it does not fail.
-/
structure Leads
    (Invariant Pre Post : State → Prop)
    (step : Step State Error) : Prop where
  keeps : ∀ state, Invariant state → Pre state → Invariant (step state).2
  reaches :
    ∀ state,
      Invariant state →
      Pre state →
      (step state).1 = .ok () →
      Post (step state).2

variable
  {Invariant Pre Middle Post : State → Prop}
  {step : Step State Error}
  {steps : List (Step State Error)}

/-- The steps after one that fails are not carried out. -/
theorem sequence_of_error
    {state : State}
    {error : Error}
    (failed : (step state).1 = .error error) :
    sequence (step :: steps) state =
      (.error error, (step state).2) := by
  rw [sequence]
  generalize step state = result at failed ⊢
  rcases result with ⟨status, after⟩
  subst failed
  rfl

/-- The steps after one that does not fail are carried out from where it leads. -/
theorem sequence_of_ok
    {state : State}
    (succeeded : (step state).1 = .ok ()) :
    sequence (step :: steps) state =
      sequence steps (step state).2 := by
  rw [sequence]
  generalize step state = result at succeeded ⊢
  rcases result with ⟨status, after⟩
  subst succeeded
  rfl

/-- One step is a sequence. -/
@[simp] theorem sequence_singleton (step : Step State Error) :
    sequence [step] = step := by
  funext state
  simp only [sequence]
  generalize step state = result
  rcases result with ⟨error | ⟨⟩, after⟩ <;> rfl

/-- No steps lead where one is already. -/
theorem Leads.nil
    (already : ∀ state, Pre state → Post state) :
    Leads Invariant Pre Post
      (sequence ([] : List (Step State Error))) where
  keeps := fun _ holds _ => holds
  reaches := fun state _ pre _ => already state pre

/-- Steps lead where the last of them leads. -/
theorem Leads.cons
    (first : Leads Invariant Pre Middle step)
    (rest : Leads Invariant Middle Post (sequence steps)) :
    Leads Invariant Pre Post (sequence (step :: steps)) := by
  constructor
  · intro state holds pre
    have kept := first.keeps state holds pre
    have reached := first.reaches state holds pre
    rw [sequence]
    generalize step state = result at kept reached ⊢
    rcases result with ⟨error | ⟨⟩, after⟩
    · exact kept
    · exact rest.keeps after kept (reached rfl)
  · intro state holds pre
    have kept := first.keeps state holds pre
    have reached := first.reaches state holds pre
    rw [sequence]
    generalize step state = result at kept reached ⊢
    rcases result with ⟨error | ⟨⟩, after⟩
    · intro succeeded
      cases succeeded
    · exact rest.reaches after kept (reached rfl)

/-- A step under a condition leads where it leads without it. -/
theorem Leads.whenever
    {condition : Prop}
    [Decidable condition]
    (leads : Leads Invariant Pre Post step)
    (skips : ∀ state, Pre state → Post state) :
    Leads Invariant Pre Post (whenever condition step) := by
  by_cases holds : condition
  · have same : Holdings.whenever condition step = step := by
      funext state
      exact if_pos holds
    rw [same]
    exact leads
  · have same :
        Holdings.whenever condition step =
          sequence ([] : List (Step State Error)) := by
      funext state
      exact if_neg holds
    rw [same]
    exact .nil skips

/-- A step that fails is cleaned up in a state with the invariant. -/
theorem Leads.cleaned
    {cleanup : State → State}
    (leads : Leads Invariant Pre Post step)
    {state after : State}
    {error : Error}
    (holds : Invariant state)
    (pre : Pre state)
    (failed : cleaningUp cleanup step state = (.error error, after)) :
    ∃ middle, Invariant middle ∧ after = cleanup middle := by
  have kept := leads.keeps state holds pre
  unfold cleaningUp at failed
  generalize step state = result at kept failed
  rcases result with ⟨error | ⟨⟩, middle⟩
  · cases failed
    exact ⟨middle, kept, rfl⟩
  · cases failed

/-- A step that does not fail keeps the invariant and leads where it leads. -/
theorem Leads.completed
    {cleanup : State → State}
    (leads : Leads Invariant Pre Post step)
    {state after : State}
    (holds : Invariant state)
    (pre : Pre state)
    (succeeded : cleaningUp cleanup step state = (.ok (), after)) :
    Invariant after ∧ Post after := by
  have kept := leads.keeps state holds pre
  have reached := leads.reaches state holds pre
  unfold cleaningUp at succeeded
  generalize step state = result at kept reached succeeded
  rcases result with ⟨error | ⟨⟩, middle⟩
  · cases succeeded
  · cases succeeded
    exact ⟨kept, reached rfl⟩

/-- A step that does the same leads to the same. -/
theorem Leads.congr
    {other : Step State Error}
    (leads : Leads Invariant Pre Post other)
    (same : ∀ state, step state = other state) :
    Leads Invariant Pre Post step := by
  rw [funext same]
  exact leads

/-- A step that is cleaned up leads where it leads without. -/
theorem Leads.cleaningUp
    {cleanup : State → State}
    (leads : Leads Invariant Pre Post step)
    (cleans : ∀ state, Invariant state → Invariant (cleanup state)) :
    Leads Invariant Pre Post (cleaningUp cleanup step) := by
  constructor
  · intro state holds pre
    have kept := leads.keeps state holds pre
    unfold Holdings.cleaningUp
    generalize step state = result at kept ⊢
    rcases result with ⟨error | ⟨⟩, after⟩
    · exact cleans after kept
    · exact kept
  · intro state holds pre
    have reached := leads.reaches state holds pre
    unfold Holdings.cleaningUp
    generalize step state = result at reached ⊢
    rcases result with ⟨error | ⟨⟩, after⟩
    · intro succeeded
      cases succeeded
    · exact reached

end Steps

end Holdings
