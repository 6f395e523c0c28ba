import Mathlib.Data.List.Basic
import Mathlib.Data.List.Nodup

/-!
# Loops whose passes do not interfere

A loop over the members of a duplicate-free list, each pass of which only
touches the member's own part of the state, acts on every part independently:
each visited part undergoes its own pass exactly once, and every other part is
left as it was.
-/

namespace LocalFold

variable {State Index View : Type*}

section View

variable [DecidableEq Index]
variable
  (pass : State → Index → State)
  (Invariant : State → Prop)
  (kept :
    ∀ state index, Invariant state → Invariant (pass state index))
  (view : State → Index → View)
  (own : Index → View → View)
  (acts :
    ∀ state index,
      Invariant state →
      view (pass state index) index = own index (view state index))
  (frame :
    ∀ state index other,
      Invariant state →
      other ≠ index →
      view (pass state index) other = view state other)

include kept acts frame

/--
The part of the state that belongs to one index, after a whole loop whose
passes are local as long as they find an invariant they all preserve.
-/
theorem view_foldl_of_invariant
    {indices : List Index}
    (noDuplicates : indices.Nodup)
    (state : State)
    (holds : Invariant state)
    (index : Index) :
    view (indices.foldl pass state) index =
      if index ∈ indices then
        own index (view state index)
      else
        view state index := by
  induction indices generalizing state with
  | nil =>
      simp
  | cons first rest inductionHypothesis =>
      obtain ⟨fresh, restNodup⟩ := List.nodup_cons.mp noDuplicates
      rw [List.foldl_cons,
        inductionHypothesis restNodup _ (kept state first holds)]
      by_cases isFirst : index = first
      · subst isFirst
        simp [fresh, acts state index holds]
      · rw [frame state first index holds isFirst]
        simp [isFirst]

omit [DecidableEq Index] acts in
/-- The pass at an index finds the index's part as the loop was given it. -/
theorem exists_visit
    {indices : List Index}
    (noDuplicates : indices.Nodup)
    (state : State)
    (holds : Invariant state)
    {index : Index}
    (member : index ∈ indices) :
    ∃ (visited : State) (trailing : List Index),
      Invariant visited ∧
        view visited index = view state index ∧
        indices.foldl pass state =
          trailing.foldl pass (pass visited index) := by
  induction indices generalizing state with
  | nil =>
      cases member
  | cons first rest inductionHypothesis =>
      obtain ⟨fresh, restNodup⟩ := List.nodup_cons.mp noDuplicates
      rcases List.mem_cons.mp member with rfl | later
      · exact ⟨state, rest, holds, rfl, rfl⟩
      · obtain ⟨visited, trailing, holdsThere, sameView, sameLoop⟩ :=
          inductionHypothesis restNodup _ (kept state first holds) later
        have notFirst : index ≠ first := by
          rintro rfl
          exact fresh later
        refine ⟨visited, trailing, holdsThere, ?_, sameLoop⟩
        rw [sameView, frame state first index holds notFirst]

end View

/-- The part of the state that belongs to one index, after the whole loop. -/
theorem view_foldl
    [DecidableEq Index]
    {pass : State → Index → State}
    (view : State → Index → View)
    (own : Index → View → View)
    (acts :
      ∀ state index,
        view (pass state index) index = own index (view state index))
    (frame :
      ∀ state index other,
        other ≠ index →
        view (pass state index) other = view state other)
    {indices : List Index}
    (noDuplicates : indices.Nodup)
    (state : State)
    (index : Index) :
    view (indices.foldl pass state) index =
      if index ∈ indices then
        own index (view state index)
      else
        view state index :=
  view_foldl_of_invariant pass (fun _ => True) (fun _ _ _ => trivial)
    view own (fun state index _ => acts state index)
    (fun state index other _ => frame state index other)
    noDuplicates state trivial index

/-- A part of the state no pass touches survives the whole loop. -/
theorem frame_foldl
    {pass : State → Index → State}
    (part : State → View)
    (untouched : ∀ state index, part (pass state index) = part state)
    (indices : List Index)
    (state : State) :
    part (indices.foldl pass state) = part state := by
  induction indices generalizing state with
  | nil =>
      rfl
  | cons first rest inductionHypothesis =>
      rw [List.foldl_cons, inductionHypothesis, untouched]

end LocalFold
