import Mathlib.Logic.Basic
import Mathlib.Data.List.Basic

/-!
# Finite runs of a partial step function

A component is given by a step function that may refuse an action.  This module
packages the inductions used over such components: an invariant that every
enabled step preserves holds at the end of a run, and one that only guarded
steps preserve holds at every state of a run whose steps all meet their guard.

Nothing here depends on a particular state or action type.
-/

namespace PartialRun

variable {State Action : Type*}

/-- Run a partial step function through a finite list of actions. -/
def run?
    (step : State → Action → Option State) :
    State → List Action → Option State
  | state, [] =>
      some state
  | state, action :: rest =>
      match step state action with
      | none =>
          none
      | some next =>
          run? step next rest

@[simp] theorem run?_nil
    (step : State → Action → Option State)
    (state : State) :
    run? step state [] = some state :=
  rfl

/-- An accepted nonempty run splits into its first step and the remainder. -/
theorem run?_cons_eq_some
    {step : State → Action → Option State}
    {state final : State}
    {action : Action}
    {rest : List Action} :
    run? step state (action :: rest) = some final ↔
      ∃ next,
        step state action = some next ∧
          run? step next rest = some final := by
  constructor
  · intro accepted
    unfold run? at accepted
    cases first : step state action with
    | none =>
        simp [first] at accepted
    | some next =>
        simp only [first] at accepted
        exact ⟨next, rfl, accepted⟩
  · rintro ⟨next, first, later⟩
    simp [run?, first, later]

/--
An invariant preserved by every enabled step with an allowed action holds at the
end of a run whose actions are all allowed.
-/
theorem invariant_of_allowed
    {step : State → Action → Option State}
    {Invariant : State → Prop}
    {Allowed : Action → Prop}
    (preserved :
      ∀ {state action next},
        Invariant state →
        Allowed action →
        step state action = some next →
        Invariant next)
    {initial final : State}
    {actions : List Action}
    (start : Invariant initial)
    (allowed : ∀ action ∈ actions, Allowed action)
    (accepted : run? step initial actions = some final) :
    Invariant final := by
  induction actions generalizing initial with
  | nil =>
      simp only [run?_nil, Option.some.injEq] at accepted
      exact accepted ▸ start
  | cons action rest inductionHypothesis =>
      obtain ⟨next, first, later⟩ := run?_cons_eq_some.mp accepted
      exact
        inductionHypothesis
          (preserved start (allowed action List.mem_cons_self) first)
          (fun other member =>
            allowed other (List.mem_cons_of_mem action member))
          later

/-- An invariant preserved by every enabled step holds at the end of a run. -/
theorem invariant_of_step
    {step : State → Action → Option State}
    {Invariant : State → Prop}
    (preserved :
      ∀ {state action next},
        Invariant state →
        step state action = some next →
        Invariant next)
    {initial final : State}
    {actions : List Action}
    (start : Invariant initial)
    (accepted : run? step initial actions = some final) :
    Invariant final := by
  have allowed : ∀ action ∈ actions, True :=
    fun _ _ => trivial
  exact
    invariant_of_allowed
      (fun holds _ taken => preserved holds taken)
      start allowed accepted

/--
An invariant that relates the state to the actions taken so far holds at the
end of a run if every enabled step extends it by the action it takes.
-/
theorem invariant_of_trace
    {step : State → Action → Option State}
    (Invariant : List Action → State → Prop)
    (extended :
      ∀ {past state action next},
        Invariant past state →
        step state action = some next →
        Invariant (past ++ [action]) next)
    {initial final : State}
    {actions : List Action}
    (start : Invariant [] initial)
    (accepted : run? step initial actions = some final) :
    Invariant actions final := by
  have general :
      ∀ past state,
        Invariant past state →
        run? step state actions = some final →
        Invariant (past ++ actions) final := by
    clear start accepted
    induction actions with
    | nil =>
        intro past state holds accepted
        simp only [run?_nil, Option.some.injEq] at accepted
        simpa [← accepted] using holds
    | cons action rest inductionHypothesis =>
        intro past state holds accepted
        obtain ⟨next, first, later⟩ := run?_cons_eq_some.mp accepted
        have reached :=
          inductionHypothesis (past ++ [action]) next
            (extended holds first) later
        simpa using reached
  exact general [] initial start accepted

/-- A property holds at every state a run visits, its endpoints included. -/
def Always
    (step : State → Action → Option State)
    (Good : State → Prop) :
    State → List Action → Prop
  | state, [] =>
      Good state
  | state, action :: rest =>
      Good state ∧
        ∀ next,
          step state action = some next →
          Always step Good next rest

/-- Every step of a run is taken from a state in which its guard holds. -/
def Along
    (step : State → Action → Option State)
    (Guard : State → Action → Prop) :
    State → List Action → Prop
  | _, [] =>
      True
  | state, action :: rest =>
      Guard state action ∧
        ∀ next,
          step state action = some next →
          Along step Guard next rest

/-- Whether a run's steps meet their guard can be computed. -/
instance decidableAlong
    {step : State → Action → Option State}
    {Guard : State → Action → Prop}
    [decidableGuard : ∀ state action, Decidable (Guard state action)] :
    ∀ state actions, Decidable (Along step Guard state actions)
  | _, [] =>
      isTrue trivial
  | state, action :: rest =>
      match taken : step state action with
      | none =>
          decidable_of_iff (Guard state action)
            (by simp [Along, taken])
      | some next =>
          have : Decidable (Along step Guard next rest) :=
            decidableAlong next rest
          decidable_of_iff
            (Guard state action ∧ Along step Guard next rest)
            (by simp [Along, taken])

/--
An invariant that guarded steps preserve holds at every state of a run all of
whose steps meet their guard.
-/
theorem always_of_along
    {step : State → Action → Option State}
    {Good : State → Prop}
    {Guard : State → Action → Prop}
    (preserved :
      ∀ {state action next},
        Good state →
        Guard state action →
        step state action = some next →
        Good next)
    {initial : State}
    {actions : List Action}
    (start : Good initial)
    (along : Along step Guard initial actions) :
    Always step Good initial actions := by
  induction actions generalizing initial with
  | nil =>
      exact start
  | cons action rest inductionHypothesis =>
      obtain ⟨guarded, later⟩ := along
      refine ⟨start, ?_⟩
      intro next taken
      exact
        inductionHypothesis
          (preserved start guarded taken) (later next taken)

/-- An invariant that every enabled step preserves holds along every run. -/
theorem always_of_step
    {step : State → Action → Option State}
    {Good : State → Prop}
    (preserved :
      ∀ {state action next},
        Good state →
        step state action = some next →
        Good next)
    {initial : State}
    (start : Good initial)
    (actions : List Action) :
    Always step Good initial actions := by
  induction actions generalizing initial with
  | nil =>
      exact start
  | cons action rest inductionHypothesis =>
      refine ⟨start, ?_⟩
      intro next taken
      exact inductionHypothesis (preserved start taken)

/-- A property of all states holds along every run. -/
theorem always_of_forall
    {step : State → Action → Option State}
    {Good : State → Prop}
    (everywhere : ∀ state, Good state)
    (initial : State)
    (actions : List Action) :
    Always step Good initial actions :=
  always_of_step
    (fun {_ _ next} _ _ => everywhere next)
    (everywhere initial) actions

/-- A property that a run visits holds where the run starts. -/
theorem Always.start
    {step : State → Action → Option State}
    {Good : State → Prop}
    {initial : State}
    {actions : List Action}
    (always : Always step Good initial actions) :
    Good initial := by
  cases actions with
  | nil =>
      exact always
  | cons action rest =>
      exact always.1

/-- A property that a run visits holds where the run ends. -/
theorem Always.final
    {step : State → Action → Option State}
    {Good : State → Prop}
    {initial final : State}
    {actions : List Action}
    (always : Always step Good initial actions)
    (accepted : run? step initial actions = some final) :
    Good final := by
  induction actions generalizing initial with
  | nil =>
      cases accepted
      exact always
  | cons action rest inductionHypothesis =>
      obtain ⟨next, taken, later⟩ := run?_cons_eq_some.mp accepted
      exact inductionHypothesis (always.2 next taken) later

/-- The guard of a run holds along both of its parts. -/
theorem Along.append
    {step : State → Action → Option State}
    {Guard : State → Action → Prop}
    {initial middle : State}
    {earlier later : List Action}
    (along : Along step Guard initial (earlier ++ later))
    (accepted : run? step initial earlier = some middle) :
    Along step Guard initial earlier ∧
      Along step Guard middle later := by
  induction earlier generalizing initial with
  | nil =>
      cases accepted
      exact ⟨trivial, along⟩
  | cons action rest inductionHypothesis =>
      obtain ⟨next, taken, acceptedRest⟩ :=
        run?_cons_eq_some.mp accepted
      have parts := inductionHypothesis (along.2 next taken) acceptedRest
      refine ⟨⟨along.1, ?_⟩, parts.2⟩
      intro other takenOther
      rw [taken] at takenOther
      cases takenOther
      exact parts.1

/-- A weaker property is visited everywhere a stronger one is. -/
theorem Always.mono
    {step : State → Action → Option State}
    {Strong Weak : State → Prop}
    (weaker : ∀ {state}, Strong state → Weak state)
    {initial : State}
    {actions : List Action}
    (always : Always step Strong initial actions) :
    Always step Weak initial actions := by
  induction actions generalizing initial with
  | nil =>
      exact weaker always
  | cons action rest inductionHypothesis =>
      refine ⟨weaker always.1, ?_⟩
      intro next taken
      exact inductionHypothesis (always.2 next taken)

end PartialRun
