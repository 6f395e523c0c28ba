import Mathlib.Logic.Basic
import Mathlib.Data.List.Basic

/-!
# Footprints of steps

A state has an entry for every key, and a log of what has been sent, each item
of which is addressed to a key.  A step touches only the keys it owns if it
leaves every other entry alone and sends nothing to any other key.  Footprints
compose: what a run touches is owned by one of its steps.

The states, keys, entries, items and steps are parameters.
-/

namespace Footprint

variable {State Key Entry Item Whole Action : Type*}

/-- How a state is seen: its entries, its log, and where items are addressed. -/
structure View (State Key Entry Item : Type*) where
  entry : State → Key → Entry
  log : State → List Item
  address : Item → Option Key

/-- Only owned keys are touched between two states. -/
structure Touches
    (view : View State Key Entry Item)
    (Own : Key → Prop)
    (before after : State) : Prop where
  /-- What has been sent was addressed to owned keys. -/
  sent :
    ∃ items,
      view.log after = view.log before ++ items ∧
        ∀ item ∈ items,
          ∃ key, view.address item = some key ∧ Own key
  /-- The other entries are unchanged. -/
  kept : ∀ key, ¬ Own key → view.entry after key = view.entry before key

/-- One key is left alone between two states. -/
structure Spares
    (view : View State Key Entry Item)
    (key : Key)
    (before after : State) : Prop where
  /-- What has been sent was not addressed to the key. -/
  silent :
    ∃ items,
      view.log after = view.log before ++ items ∧
        ∀ item ∈ items, view.address item ≠ some key
  kept : view.entry after key = view.entry before key

variable
  {view : View State Key Entry Item}
  {Own Wider : Key → Prop}
  {before middle after : State}

/-- Nothing is touched where nothing happens. -/
theorem Touches.refl (state : State) : Touches view Own state state where
  sent := ⟨[], by simp⟩
  kept := fun _ _ => rfl

/-- Two steps touch what either of them touches. -/
theorem Touches.trans
    (first : Touches view Own before middle)
    (second : Touches view Own middle after) :
    Touches view Own before after where
  sent := by
    obtain ⟨earlier, logged, earlierOwned⟩ := first.sent
    obtain ⟨later, loggedLater, laterOwned⟩ := second.sent
    refine ⟨earlier ++ later, ?_, ?_⟩
    · rw [loggedLater, logged, List.append_assoc]
    · intro item member
      rcases List.mem_append.mp member with inEarlier | inLater
      · exact earlierOwned item inEarlier
      · exact laterOwned item inLater
  kept := fun key notOwned =>
    (second.kept key notOwned).trans (first.kept key notOwned)

/-- A step touches no more than an owner of more keys may touch. -/
theorem Touches.mono
    (wider : ∀ key, Own key → Wider key)
    (touches : Touches view Own before after) :
    Touches view Wider before after where
  sent := by
    obtain ⟨items, logged, owned⟩ := touches.sent
    refine ⟨items, logged, ?_⟩
    intro item member
    obtain ⟨key, addressed, isOwned⟩ := owned item member
    exact ⟨key, addressed, wider key isOwned⟩
  kept := fun key notOwned =>
    touches.kept key fun owned => notOwned (wider key owned)

/-- A step leaves a key alone that it does not own. -/
theorem Touches.spares
    (touches : Touches view Own before after)
    {key : Key}
    (notOwned : ¬ Own key) :
    Spares view key before after where
  silent := by
    obtain ⟨items, logged, owned⟩ := touches.sent
    refine ⟨items, logged, ?_⟩
    intro item member isKey
    obtain ⟨other, addressed, isOwned⟩ := owned item member
    rw [addressed] at isKey
    exact notOwned (Option.some.inj isKey ▸ isOwned)
  kept := touches.kept key notOwned

/--
A loop touches what its passes touch, if an invariant holds at the start and
every pass keeps it.
-/
theorem touches_foldl
    (part : Whole → State)
    (Invariant : Whole → Prop)
    {step : Whole → Action → Whole}
    {actions : List Action}
    (each :
      ∀ whole, ∀ action ∈ actions,
        Invariant whole →
        Invariant (step whole action) ∧
          Touches view Own (part whole) (part (step whole action)))
    (whole : Whole)
    (start : Invariant whole) :
    Invariant (actions.foldl step whole) ∧
      Touches view Own (part whole)
        (part (actions.foldl step whole)) := by
  induction actions generalizing whole with
  | nil =>
      exact ⟨start, Touches.refl _⟩
  | cons action rest inductionHypothesis =>
      obtain ⟨holds, touches⟩ :=
        each whole action List.mem_cons_self start
      obtain ⟨holdsLater, touchesLater⟩ :=
        inductionHypothesis
          (fun other next member =>
            each other next (List.mem_cons_of_mem action member))
          _ holds
      exact ⟨holdsLater, touches.trans touchesLater⟩

end Footprint
