import Mathlib.Data.List.Count

/-!
# Counting down to rest

Some actions of a run are due in the state in which they come, and each of them
lowers a rank; the other actions do not raise it.  So only as many actions can be
due as the rank of the first state, however many others there are.

The states, the actions and the rank are parameters.
-/

namespace Countdown

/-- A list has fewer items with a property that one of them has lost. -/
theorem countP_lt_countP
    {Item : Type*}
    {items : List Item}
    {before after : Item → Bool}
    (fewer : ∀ item ∈ items, after item = true → before item = true)
    (lost :
      ∃ item ∈ items, before item = true ∧ after item = false) :
    items.countP after < items.countP before := by
  induction items with
  | nil =>
      obtain ⟨item, member, -⟩ := lost
      cases member
  | cons first rest inductionHypothesis =>
      have fewerRest :=
        fun item member =>
          fewer item (List.mem_cons_of_mem first member)
      have restLe := List.countP_mono_left fewerRest
      have firstFewer := fewer first (List.mem_cons_self ..)
      obtain ⟨item, member, had, lacks⟩ := lost
      rw [List.countP_cons, List.countP_cons]
      rcases List.mem_cons.mp member with rfl | later
      · rw [if_pos had, if_neg (by simp [lacks])]
        omega
      · have restLt :=
          inductionHypothesis fewerRest ⟨item, later, had, lacks⟩
        split
        · rename_i kept
          rw [if_pos (firstFewer kept)]
          omega
        · omega

variable {State Action : Type*}

/-- A run of actions with the number of those that are due. -/
inductive Counted
    (step : State → Action → State)
    (Silent Due : State → Action → Prop) :
    State → List Action → ℕ → Prop where
  | done
      {state : State} :
      Counted step Silent Due state [] 0
  | silent
      {state : State} {action : Action}
      {rest : List Action} {count : ℕ}
      (silent : Silent state action)
      (later : Counted step Silent Due (step state action) rest count) :
      Counted step Silent Due state (action :: rest) count
  | due
      {state : State} {action : Action}
      {rest : List Action} {count : ℕ}
      (due : Due state action)
      (later : Counted step Silent Due (step state action) rest count) :
      Counted step Silent Due state (action :: rest) (count + 1)

/-- What a rank has to do for a kind of run. -/
structure Ranks
    (step : State → Action → State)
    (Silent Due : State → Action → Prop)
    (Invariant : State → Prop)
    (rank : State → ℕ) : Prop where
  keeps :
    ∀ state action,
      Invariant state →
      Silent state action ∨ Due state action →
      Invariant (step state action)
  steady :
    ∀ state action,
      Invariant state →
      Silent state action →
      rank (step state action) ≤ rank state
  drops :
    ∀ state action,
      Invariant state →
      Due state action →
      rank (step state action) < rank state

variable
  {step : State → Action → State}
  {Silent Due : State → Action → Prop}
  {Invariant : State → Prop}
  {rank : State → ℕ}

/-- What is left of the rank, and what was due, came out of the rank before. -/
theorem Counted.add_rank_le
    (ranks : Ranks step Silent Due Invariant rank)
    {state : State}
    {actions : List Action}
    {count : ℕ}
    (counted : Counted step Silent Due state actions count)
    (holds : Invariant state) :
    count + rank (actions.foldl step state) ≤ rank state := by
  induction counted with
  | done =>
      exact Nat.le_of_eq (Nat.zero_add _)
  | silent silent later inductionHypothesis =>
      have kept := ranks.keeps _ _ holds (Or.inl silent)
      exact
        Nat.le_trans (inductionHypothesis kept)
          (ranks.steady _ _ holds silent)
  | due due later inductionHypothesis =>
      have kept := ranks.keeps _ _ holds (Or.inr due)
      have lower := ranks.drops _ _ holds due
      have below := inductionHypothesis kept
      rw [List.foldl_cons]
      omega

end Countdown
