import Mathlib.Logic.Basic
import Mathlib.Data.List.Basic

/-!
# Retrying a command over a channel that loses acknowledgements

A client repeats one command until it is acknowledged, an attempt aborts, or
the attempts run out.  A transmission that is not acknowledged may still have
been executed.  The module separates what the client sees (the outcome) from
what the device and the wire saw, and shows that for an idempotent command the
whole loop acts on the device either not at all or exactly once.

The error, state and device types are parameters.
-/

namespace RetryLoop

variable {Error State Device Item : Type*}

/-- What one attempt tells the client to do next. -/
inductive Verdict (Error : Type*) where
  | success : Verdict Error
  | retry : Error → Verdict Error
  | abort : Error → Verdict Error
  deriving DecidableEq, Repr

/-- One attempt: the client's verdict and what happened on the channel. -/
structure Answer (Error : Type*) where
  verdict : Verdict Error
  transmitted : Bool
  executed : Bool
  deriving DecidableEq, Repr

/-- How the loop ends for the client. -/
inductive Outcome (Error : Type*) where
  | acknowledged : Outcome Error
  | aborted : Error → Outcome Error
  | exhausted : Error → Outcome Error
  deriving DecidableEq, Repr

/-- Whether the client saw an acknowledgement. -/
def Outcome.isAcknowledged : Outcome Error → Bool
  | .acknowledged =>
      true
  | _ =>
      false

/--
Run at most `remaining` attempts from number `attempt` on.  `transmit executed`
is the effect of one transmission on the state.
-/
def drive
    (answers : Nat → Answer Error)
    (transmit : Bool → State → State) :
    (remaining attempt : Nat) → Error → State →
      Outcome Error × State
  | 0, _, error, state =>
      (.exhausted error, state)
  | remaining + 1, attempt, _, state =>
      let answer := answers attempt
      let next :=
        if answer.transmitted then
          transmit answer.executed state
        else
          state
      match answer.verdict with
      | .success =>
          (.acknowledged, next)
      | .abort error =>
          (.aborted error, next)
      | .retry error =>
          drive answers transmit remaining (attempt + 1) error next

/-- The client's outcome, which no state influences. -/
def outcome
    (answers : Nat → Answer Error) :
    (remaining attempt : Nat) → Error → Outcome Error
  | 0, _, error =>
      .exhausted error
  | remaining + 1, attempt, _ =>
      match (answers attempt).verdict with
      | .success =>
          .acknowledged
      | .abort error =>
          .aborted error
      | .retry error =>
          outcome answers remaining (attempt + 1) error

/-- Whether some transmission of the loop was executed by the device. -/
def executes
    (answers : Nat → Answer Error) :
    (remaining attempt : Nat) → Bool
  | 0, _ =>
      false
  | remaining + 1, attempt =>
      ((answers attempt).transmitted && (answers attempt).executed) ||
        match (answers attempt).verdict with
        | .retry _ =>
            executes answers remaining (attempt + 1)
        | _ =>
            false

/-- How many transmissions the loop makes. -/
def transmissions
    (answers : Nat → Answer Error) :
    (remaining attempt : Nat) → Nat
  | 0, _ =>
      0
  | remaining + 1, attempt =>
      (if (answers attempt).transmitted then 1 else 0) +
        match (answers attempt).verdict with
        | .retry _ =>
            transmissions answers remaining (attempt + 1)
        | _ =>
            0

section Drive

variable
  (answers : Nat → Answer Error)
  (transmit : Bool → State → State)

/-- The state threaded through the loop never changes its outcome. -/
theorem drive_fst
    (remaining attempt : Nat)
    (error : Error)
    (state : State) :
    (drive answers transmit remaining attempt error state).1 =
      outcome answers remaining attempt error := by
  induction remaining generalizing attempt error state with
  | zero =>
      rfl
  | succ remaining inductionHypothesis =>
      simp only [drive, outcome]
      cases (answers attempt).verdict with
      | success =>
          rfl
      | abort error =>
          rfl
      | retry error =>
          exact inductionHypothesis (attempt + 1) error _

/-- A part of the state no transmission touches survives the loop. -/
theorem drive_frame
    (part : State → Device)
    (untouched :
      ∀ executed state,
        part (transmit executed state) = part state)
    (remaining attempt : Nat)
    (error : Error)
    (state : State) :
    part (drive answers transmit remaining attempt error state).2 =
      part state := by
  induction remaining generalizing attempt error state with
  | zero =>
      rfl
  | succ remaining inductionHypothesis =>
      have unchanged :
          part
              (if (answers attempt).transmitted then
                transmit (answers attempt).executed state
              else state) =
            part state := by
        split
        · exact untouched _ state
        · rfl
      simp only [drive]
      cases (answers attempt).verdict with
      | success =>
          exact unchanged
      | abort error =>
          exact unchanged
      | retry error =>
          exact
            (inductionHypothesis (attempt + 1) error _).trans unchanged

/--
An idempotent command reaches the device at most once: repeating it after an
executed transmission changes nothing more.
-/
theorem drive_device
    (device : State → Device)
    (effect : Device → Device)
    (idempotent : ∀ value, effect (effect value) = effect value)
    (runs :
      ∀ state, device (transmit true state) = effect (device state))
    (skips :
      ∀ state, device (transmit false state) = device state)
    (remaining attempt : Nat)
    (error : Error)
    (state : State) :
    device (drive answers transmit remaining attempt error state).2 =
      if executes answers remaining attempt then
        effect (device state)
      else
        device state := by
  induction remaining generalizing attempt error state with
  | zero =>
      rfl
  | succ remaining inductionHypothesis =>
      rcases answer : answers attempt with
        ⟨verdict, transmitted, executed⟩
      have first :
          device
              (if transmitted then transmit executed state
              else state) =
            if transmitted && executed then
              effect (device state)
            else
              device state := by
        cases transmitted <;> cases executed <;>
          simp [runs, skips]
      simp only [drive, executes, answer]
      cases verdict with
      | success =>
          simpa using first
      | abort error =>
          simpa using first
      | retry error =>
          simp only [inductionHypothesis, first]
          cases transmitted && executed <;>
            cases executes answers remaining (attempt + 1) <;>
            simp [idempotent]

/-- Every transmission of the loop leaves the same item on the wire. -/
theorem drive_log
    (log : State → List Item)
    {item : Item}
    (records :
      ∀ executed state,
        log (transmit executed state) = log state ++ [item])
    (remaining attempt : Nat)
    (error : Error)
    (state : State) :
    log (drive answers transmit remaining attempt error state).2 =
      log state ++
        List.replicate
          (transmissions answers remaining attempt) item := by
  induction remaining generalizing attempt error state with
  | zero =>
      simp [drive, transmissions]
  | succ remaining inductionHypothesis =>
      have first :
          log
              (if (answers attempt).transmitted then
                transmit (answers attempt).executed state
              else state) =
            log state ++
              List.replicate
                (if (answers attempt).transmitted then 1 else 0)
                item := by
        split <;> simp [records]
      simp only [drive, transmissions]
      cases (answers attempt).verdict with
      | success =>
          simpa using first
      | abort error =>
          simpa using first
      | retry error =>
          simp only [inductionHypothesis, first, List.append_assoc,
            List.replicate_append_replicate]

end Drive

/-- No attempt of the channel ends with an abort. -/
def NeverAborts (answers : Nat → Answer Error) : Prop :=
  ∀ attempt error, (answers attempt).verdict ≠ .abort error

/-- Without aborting attempts the loop is acknowledged or exhausted. -/
theorem outcome_ne_aborted
    {answers : Nat → Answer Error}
    (neverAborts : NeverAborts answers)
    (remaining attempt : Nat)
    (error reported : Error) :
    outcome answers remaining attempt error ≠ .aborted reported := by
  induction remaining generalizing attempt error with
  | zero =>
      simp [outcome]
  | succ remaining inductionHypothesis =>
      simp only [outcome]
      cases verdict : (answers attempt).verdict with
      | success =>
          simp
      | abort aborting =>
          exact (neverAborts attempt aborting verdict).elim
      | retry retrying =>
          exact inductionHypothesis (attempt + 1) retrying

/-- A loop that never aborts succeeds exactly if some attempt does. -/
theorem outcome_eq_acknowledged_iff
    {answers : Nat → Answer Error}
    (neverAborts : NeverAborts answers)
    (remaining attempt : Nat)
    (error : Error) :
    outcome answers remaining attempt error = .acknowledged ↔
      ∃ offset < remaining,
        (answers (attempt + offset)).verdict = .success := by
  induction remaining generalizing attempt error with
  | zero =>
      simp [outcome]
  | succ remaining inductionHypothesis =>
      simp only [outcome]
      cases verdict : (answers attempt).verdict with
      | success =>
          simp only [true_iff]
          exact ⟨0, Nat.zero_lt_succ remaining, verdict⟩
      | abort aborting =>
          exact (neverAborts attempt aborting verdict).elim
      | retry retrying =>
          simp only [inductionHypothesis]
          constructor
          · rintro ⟨offset, inRange, success⟩
            refine ⟨offset + 1, Nat.succ_lt_succ inRange, ?_⟩
            rwa [Nat.add_right_comm, Nat.add_assoc] at success
          · rintro ⟨offset, inRange, success⟩
            cases offset with
            | zero =>
                rw [Nat.add_zero, verdict] at success
                cases success
            | succ offset =>
                refine ⟨offset, Nat.lt_of_succ_lt_succ inRange, ?_⟩
                rwa [Nat.add_right_comm, Nat.add_assoc]

/-- A loop that only retries reaches the device if some attempt does. -/
theorem executes_eq_true
    {answers : Nat → Answer Error}
    (neverAborts : NeverAborts answers)
    (remaining attempt : Nat)
    (neverSucceeds :
      ∀ offset < remaining,
        (answers (attempt + offset)).verdict ≠ .success)
    {offset : Nat}
    (inRange : offset < remaining)
    (reaches :
      (answers (attempt + offset)).transmitted = true ∧
        (answers (attempt + offset)).executed = true) :
    executes answers remaining attempt = true := by
  induction remaining generalizing attempt offset with
  | zero =>
      cases inRange
  | succ remaining inductionHypothesis =>
      simp only [executes]
      cases verdict : (answers attempt).verdict with
      | success =>
          exact
            (neverSucceeds 0 (Nat.zero_lt_succ remaining) verdict).elim
      | abort aborting =>
          exact (neverAborts attempt aborting verdict).elim
      | retry retrying =>
          cases offset with
          | zero =>
              rw [Nat.add_zero] at reaches
              simp [reaches]
          | succ offset =>
              have later :
                  executes answers remaining (attempt + 1) = true := by
                apply inductionHypothesis
                · intro further below
                  rw [Nat.add_right_comm, Nat.add_assoc]
                  exact
                    neverSucceeds (further + 1)
                      (Nat.succ_lt_succ below)
                · exact Nat.lt_of_succ_lt_succ inRange
                · rw [Nat.add_right_comm, Nat.add_assoc]
                  exact reaches
              simp [later]

/-- A loop none of whose attempts is executed reaches no device. -/
theorem executes_eq_false
    {answers : Nat → Answer Error}
    (remaining attempt : Nat)
    (idle :
      ∀ offset < remaining,
        (answers (attempt + offset)).executed = false) :
    executes answers remaining attempt = false := by
  induction remaining generalizing attempt with
  | zero =>
      rfl
  | succ remaining inductionHypothesis =>
      have first : (answers attempt).executed = false :=
        idle 0 (Nat.zero_lt_succ remaining)
      have later :
          executes answers remaining (attempt + 1) = false := by
        apply inductionHypothesis
        intro offset inRange
        rw [Nat.add_right_comm, Nat.add_assoc]
        exact idle (offset + 1) (Nat.succ_lt_succ inRange)
      simp only [executes, first, Bool.and_false, Bool.false_or]
      cases (answers attempt).verdict <;> first | rfl | exact later

/-- An acknowledged loop was executed, if acknowledgements are truthful. -/
theorem executes_of_acknowledged
    {answers : Nat → Answer Error}
    (truthful :
      ∀ attempt,
        (answers attempt).verdict = .success →
          (answers attempt).transmitted = true ∧
            (answers attempt).executed = true)
    {remaining attempt : Nat}
    {error : Error}
    (acknowledged :
      outcome answers remaining attempt error = .acknowledged) :
    executes answers remaining attempt = true := by
  induction remaining generalizing attempt error with
  | zero =>
      simp [outcome] at acknowledged
  | succ remaining inductionHypothesis =>
      simp only [outcome] at acknowledged
      simp only [executes]
      cases verdict : (answers attempt).verdict with
      | success =>
          simp [truthful attempt verdict]
      | abort aborting =>
          simp [verdict] at acknowledged
      | retry retrying =>
          simp only [verdict] at acknowledged
          simp [inductionHypothesis acknowledged]

/-- How a verdict ends the loop, if it does. -/
def Verdict.ending? : Verdict Error → Option (Outcome Error)
  | .success =>
      some .acknowledged
  | .abort error =>
      some (.aborted error)
  | .retry _ =>
      none

/-- The first attempts from a number on are all retried. -/
def RetriedBefore
    (answers : Nat → Answer Error)
    (attempt offset : Nat) : Prop :=
  ∀ earlier < offset,
    ∃ error, (answers (attempt + earlier)).verdict = .retry error

section Ending

variable
  {answers : Nat → Answer Error}
  {remaining attempt offset : Nat}

/-- No attempt comes before the first one. -/
theorem RetriedBefore.zero : RetriedBefore answers attempt 0 := by
  intro earlier below
  cases below

/-- A retried attempt comes before those that are retried after it. -/
theorem RetriedBefore.succ
    {error : Error}
    (retried : (answers attempt).verdict = .retry error)
    (later : RetriedBefore answers (attempt + 1) offset) :
    RetriedBefore answers attempt (offset + 1) := by
  intro earlier below
  cases earlier with
  | zero =>
      exact ⟨error, retried⟩
  | succ earlier =>
      have shifted := later earlier (Nat.lt_of_succ_lt_succ below)
      rwa [Nat.add_right_comm, Nat.add_assoc] at shifted

/-- Attempts that are retried are still retried without the first one. -/
theorem RetriedBefore.tail
    (retried : RetriedBefore answers attempt (offset + 1)) :
    RetriedBefore answers (attempt + 1) offset := by
  intro earlier below
  rw [Nat.add_right_comm, Nat.add_assoc]
  exact retried (earlier + 1) (Nat.succ_lt_succ below)

/-- The loop runs out of attempts, or the first one not retried ends it. -/
theorem outcome_cases
    (answers : Nat → Answer Error)
    (remaining attempt : Nat)
    (error : Error) :
    (RetriedBefore answers attempt remaining ∧
        ∃ reported,
          outcome answers remaining attempt error =
            .exhausted reported) ∨
      ∃ offset < remaining,
        RetriedBefore answers attempt offset ∧
          (answers (attempt + offset)).verdict.ending? =
            some (outcome answers remaining attempt error) := by
  induction remaining generalizing attempt error with
  | zero =>
      left
      exact ⟨.zero, error, rfl⟩
  | succ remaining inductionHypothesis =>
      simp only [outcome]
      cases verdict : (answers attempt).verdict with
      | success =>
          right
          refine ⟨0, Nat.zero_lt_succ remaining, .zero, ?_⟩
          rw [Nat.add_zero, verdict]
          rfl
      | abort aborting =>
          right
          refine ⟨0, Nat.zero_lt_succ remaining, .zero, ?_⟩
          rw [Nat.add_zero, verdict]
          rfl
      | retry retrying =>
          rcases inductionHypothesis (attempt + 1) retrying with
              ⟨later, exhausted⟩ | ⟨offset, below, later, ended⟩
          · exact Or.inl ⟨later.succ verdict, exhausted⟩
          · right
            refine
              ⟨offset + 1, Nat.succ_lt_succ below, later.succ verdict,
                ?_⟩
            rwa [Nat.add_right_comm, Nat.add_assoc] at ended

/-- The first attempt that is not retried ends the loop. -/
theorem outcome_of_ended
    (below : offset < remaining)
    (retried : RetriedBefore answers attempt offset)
    {ending : Outcome Error}
    (ended :
      (answers (attempt + offset)).verdict.ending? = some ending)
    (error : Error) :
    outcome answers remaining attempt error = ending := by
  induction offset generalizing remaining attempt error with
  | zero =>
      obtain ⟨remaining, rfl⟩ := Nat.exists_eq_add_one.mpr below
      rw [Nat.add_zero] at ended
      simp only [outcome]
      cases verdict : (answers attempt).verdict with
      | success =>
          rw [verdict] at ended
          exact Option.some.inj ended
      | abort aborting =>
          rw [verdict] at ended
          exact Option.some.inj ended
      | retry retrying =>
          rw [verdict] at ended
          cases ended
  | succ offset inductionHypothesis =>
      obtain ⟨remaining, rfl⟩ :=
        Nat.exists_eq_add_one.mpr (Nat.zero_lt_of_lt below)
      obtain ⟨retrying, verdict⟩ :=
        retried 0 (Nat.zero_lt_succ offset)
      rw [Nat.add_zero] at verdict
      simp only [outcome, verdict]
      apply inductionHypothesis (Nat.lt_of_succ_lt_succ below)
        retried.tail
      rwa [Nat.add_right_comm, Nat.add_assoc]

/-- The loop transmits at most once in each attempt. -/
theorem transmissions_le
    (answers : Nat → Answer Error)
    (remaining attempt : Nat) :
    transmissions answers remaining attempt ≤ remaining := by
  induction remaining generalizing attempt with
  | zero =>
      exact Nat.le_refl 0
  | succ remaining inductionHypothesis =>
      have first : (if (answers attempt).transmitted then 1 else 0) ≤ 1 := by
        split <;> simp
      simp only [transmissions, Nat.add_comm remaining 1]
      refine Nat.add_le_add first ?_
      cases (answers attempt).verdict with
      | retry error =>
          exact inductionHypothesis (attempt + 1)
      | _ =>
          exact Nat.zero_le remaining

/-- A loop whose first attempt transmits does so at least once. -/
theorem transmissions_pos
    (first : (answers attempt).transmitted = true)
    (remaining : Nat) :
    0 < transmissions answers (remaining + 1) attempt := by
  rw [transmissions, if_pos first]
  exact Nat.add_pos_left Nat.zero_lt_one _

/-- Every attempt that is retried has transmitted. -/
def RetriesTransmit (answers : Nat → Answer Error) : Prop :=
  ∀ attempt error,
    (answers attempt).verdict = .retry error →
      (answers attempt).transmitted = true

/--
If the attempts that are retried transmit, the loop transmits once for each of
them, and possibly once more in the attempt that ends it.
-/
theorem transmissions_of_ended
    (transmit : RetriesTransmit answers)
    (below : offset < remaining)
    (retried : RetriedBefore answers attempt offset)
    {ending : Outcome Error}
    (ended :
      (answers (attempt + offset)).verdict.ending? = some ending) :
    transmissions answers remaining attempt =
      offset +
        if (answers (attempt + offset)).transmitted then 1 else 0 := by
  induction offset generalizing remaining attempt with
  | zero =>
      obtain ⟨remaining, rfl⟩ := Nat.exists_eq_add_one.mpr below
      rw [Nat.add_zero] at ended
      simp only [transmissions, Nat.add_zero, Nat.zero_add]
      cases verdict : (answers attempt).verdict with
      | retry retrying =>
          rw [verdict] at ended
          cases ended
      | _ =>
          rfl
  | succ offset inductionHypothesis =>
      obtain ⟨remaining, rfl⟩ :=
        Nat.exists_eq_add_one.mpr (Nat.zero_lt_of_lt below)
      obtain ⟨retrying, verdict⟩ :=
        retried 0 (Nat.zero_lt_succ offset)
      rw [Nat.add_zero] at verdict
      rw [Nat.add_comm offset 1, ← Nat.add_assoc] at ended
      have later :=
        inductionHypothesis (Nat.lt_of_succ_lt_succ below) retried.tail
          ended
      simp only [transmissions, verdict, transmit attempt retrying verdict,
        ↓reduceIte, later]
      rw [Nat.add_comm offset 1, ← Nat.add_assoc attempt 1 offset]
      exact (Nat.add_assoc ..).symm

end Ending

end RetryLoop
