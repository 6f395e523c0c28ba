import Mathlib.Data.List.Chain

/-!
# Rate limiting by a deadline

A gate keeps a deadline, which is zero until something has passed.  It lets a
time pass when the deadline is zero or has been reached, and then sets the
deadline one interval after that time.  The times that have passed are therefore
an interval apart, in the order of passing, and a time that is held back is less
than an interval after the last one that passed.

Nothing here depends on what passes the gate.
-/

namespace DeadlineGate

/-- The deadline a gate holds after some times have passed. -/
def deadlineAfter (interval : Nat) (times : List Nat) : Nat :=
  match times.getLast? with
  | none =>
      0
  | some last =>
      last + interval

/-- Whether a gate with this deadline lets a time pass. -/
def Opens (deadline now : Nat) : Prop :=
  deadline = 0 ∨ deadline ≤ now

/-- Each time is at least an interval after the one before. -/
def Spaced (interval : Nat) (times : List Nat) : Prop :=
  times.IsChain fun earlier later => earlier + interval ≤ later

variable
  {interval now : Nat}
  {times : List Nat}

@[simp] theorem deadlineAfter_concat (interval now : Nat) :
    deadlineAfter interval (times ++ [now]) = now + interval := by
  simp [deadlineAfter]

theorem spaced_nil (interval : Nat) : Spaced interval [] :=
  List.isChain_nil

/-- A time that the gate lets pass keeps the times apart. -/
theorem Spaced.concat
    (spaced : Spaced interval times)
    (positive : 0 < interval)
    (opens : Opens (deadlineAfter interval times) now) :
    Spaced interval (times ++ [now]) := by
  unfold Spaced
  rw [List.isChain_append]
  refine ⟨spaced, List.isChain_singleton now, ?_⟩
  intro last isLast first isFirst
  have sameDeadline : deadlineAfter interval times = last + interval := by
    simp [deadlineAfter, Option.mem_def.mp isLast]
  have sameTime : first = now := by
    simpa using isFirst.symm
  rcases opens with unset | reached
  · rw [sameDeadline] at unset
    omega
  · rw [sameDeadline] at reached
    rw [sameTime]
    exact reached

/-- A time that is held back follows the last one too closely. -/
theorem recent_of_not_opens
    (closed : ¬ Opens (deadlineAfter interval times) now) :
    ∃ last,
      times.getLast? = some last ∧ now < last + interval := by
  obtain ⟨isSet, notReached⟩ := not_or.mp closed
  cases isLast : times.getLast? with
  | none =>
      simp [deadlineAfter, isLast] at isSet
  | some last =>
      simp only [deadlineAfter, isLast, Nat.not_le] at notReached
      exact ⟨last, rfl, notReached⟩

/-- Deadlines differ only if something has passed in between. -/
theorem passed_of_deadline_ne
    {later : List Nat}
    (differs :
      deadlineAfter interval (times ++ later) ≠
        deadlineAfter interval times) :
    later ≠ [] := by
  intro nothing
  apply differs
  rw [nothing, List.append_nil]

end DeadlineGate
