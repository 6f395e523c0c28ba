import UgreenLeds.LedFootprint
import UgreenLeds.PartialRun

/-!
# What a rescan does

A rescan compares every bay of the chassis with what the scan of sysfs has found.
A bay that shows the same device is left alone, even while it blinks.  Every
other bay takes the slot that was found, and its LED is programmed from an
invalidated cache entry, whether or not programming another bay fails.
-/

namespace UgreenLeds

open Footprint (Spares)
open LedController (TouchesOnly ledView)

namespace LedController.Slice

variable
  (exchanges : Nat → Exchange)
  (slice : Slice)

/-- A request that the cache does not show is sent. -/
theorem served_set_of_not_cached
    {request : Request}
    (notCached : request.cached slice.cache = false) :
    (slice.set exchanges request).2.served = slice.served + 1 := by
  simp only [set, notCached, Bool.false_eq_true, ↓reduceIte, send]
  cases slice.outcome exchanges <;> rfl

/-- A request takes no command back. -/
theorem served_le_set (request : Request) :
    slice.served ≤ (slice.set exchanges request).2.served := by
  cases cached : request.cached slice.cache with
  | true =>
      simp [set, cached]
  | false =>
      rw [served_set_of_not_cached exchanges slice cached]
      exact Nat.le_succ slice.served

/-- Some requests take no command back. -/
theorem served_le_setAll (requests : List Request) :
    slice.served ≤ (slice.setAll exchanges requests).2.served := by
  induction requests generalizing slice with
  | nil =>
      exact Nat.le_refl slice.served
  | cons request rest inductionHypothesis =>
      have first := served_le_set exchanges slice request
      simp only [setAll]
      generalize slice.set exchanges request = result at first ⊢
      rcases result with ⟨error | done, sent⟩
      · exact first
      · exact first.trans (inductionHypothesis sent)

/-- Requests of which the cache does not show the first are sent. -/
theorem served_lt_setAll
    {request : Request}
    (notCached : request.cached slice.cache = false)
    (rest : List Request) :
    slice.served <
      (slice.setAll exchanges (request :: rest)).2.served := by
  have first := served_set_of_not_cached exchanges slice notCached
  have growing : slice.served < (slice.set exchanges request).2.served := by
    rw [first]
    exact Nat.lt_succ_self slice.served
  simp only [setAll]
  generalize slice.set exchanges request = result at growing ⊢
  rcases result with ⟨error | done, sent⟩
  · exact growing
  · exact growing.trans_le (served_le_setAll exchanges sent rest)

end LedController.Slice

namespace DiskLeds

section Definitions

variable
  (script : Script)
  (disks : DiskLeds)
  (discovery : Discovery)

/-- The slot of a bay differs from what was found in it. -/
def Changed (index : DiskIndex) : Prop :=
  ¬ ((disks.slots index).present =
        (foundSlot discovery index).present ∧
      (disks.slots index).dev = (foundSlot discovery index).dev)

instance (index : DiskIndex) :
    Decidable (Changed disks discovery index) :=
  inferInstanceAs (Decidable (¬ _))

/-- Programming one bay from an invalidated cache entry. -/
def program (index : DiskIndex) : Status × LedController.Slice :=
  (disks.controller.slice (bayLed index)).invalidate.setAll
    (script (bayLed index))
    (programRequests disks.config index (foundSlot discovery index))

/-- The first failure among the results of some calls. -/
def firstFailure : List Status → Status
  | [] =>
      .ok ()
  | .ok () :: rest =>
      firstFailure rest
  | .error error :: _ =>
      .error error

end Definitions

/-- What a rescan leaves behind and returns when the scan of sysfs succeeds. -/
structure RescanExact
    (script : Script)
    (disks : DiskLeds)
    (discovery : Discovery)
    (result : Status × DiskLeds) : Prop where
  /-- Every bay of the chassis shows what was found. -/
  found :
    ∀ index : DiskIndex, index.val < disks.slotCount →
      (result.2.slots index).present = (discovery index).isSome ∧
        (result.2.slots index).dev = (discovery index).getD 0
  /-- A slot that is programmed or had its bay's LED before has it. -/
  identified :
    ∀ index : DiskIndex,
      (index.val < disks.slotCount ∧
          Changed disks discovery index) ∨
        (disks.slots index).ledId = diskLedId index →
      (result.2.slots index).ledId = diskLedId index
  /-- A bay that has not changed keeps its slot and receives no frame. -/
  unchanged :
    ∀ index : DiskIndex,
      ¬ (index.val < disks.slotCount ∧
          Changed disks discovery index) →
        result.2.slots index = disks.slots index ∧
          Spares ledView (bayLed index) disks.controller
            result.2.controller
  /-- A bay that has changed is idle and programmed by itself. -/
  changed :
    ∀ index : DiskIndex, index.val < disks.slotCount →
      Changed disks discovery index →
        result.2.slots index = foundSlot discovery index ∧
          result.2.controller.slice (bayLed index) =
            (program script disks discovery index).2 ∧
          (disks.controller.slice (bayLed index)).served <
            (result.2.controller.slice (bayLed index)).served
  /-- The first failure is returned. -/
  status :
    result.1 =
      firstFailure
        ((disks.bays.filter
          fun index => decide (Changed disks discovery index)).map
            fun index => (program script disks discovery index).1)

/-- Two bays with the same LED are the same. -/
theorem bayLed_injective
    {first second : DiskIndex}
    (same : bayLed first = bayLed second) :
    first = second := by
  have numbers : 2 + first.val = 2 + second.val := congrArg Fin.val same
  exact Fin.ext (Nat.add_left_cancel numbers)

section Rescan

variable
  (script : Script)
  {disks : DiskLeds}
  (discovery : Discovery)

/-- A pass over a bay that has not changed does nothing. -/
theorem rescanSlot_of_unchanged
    {index : DiskIndex}
    (unchanged : ¬ Changed disks discovery index)
    (firstError : Status) :
    rescanSlot script discovery (firstError, disks) index =
      (firstError, disks) := by
  rw [rescanSlot_eq]
  exact if_pos (not_not.mp unchanged)

/-- What programming a bay sends depends on the bay alone. -/
theorem program_congr
    {other : DiskLeds}
    {index : DiskIndex}
    (sameConfig : other.config = disks.config)
    (sameBay : other.bay index = disks.bay index) :
    program script other discovery index =
      program script disks discovery index := by
  have sameSlice :
      other.controller.slice (bayLed index) =
        disks.controller.slice (bayLed index) :=
    congrArg Bay.led sameBay
  rw [program, program, sameSlice, sameConfig]

/-- Whether a bay has changed depends on the bay alone. -/
theorem changed_congr
    {other : DiskLeds}
    {index : DiskIndex}
    (sameBay : other.bay index = disks.bay index) :
    Changed other discovery index ↔ Changed disks discovery index := by
  have sameSlot : other.slots index = disks.slots index :=
    congrArg Bay.slot sameBay
  rw [Changed, Changed, sameSlot]

/-- A pass over a bay that has changed adds the failure of its commands. -/
theorem rescanSlot_status
    {index : DiskIndex}
    (changed : Changed disks discovery index)
    (firstError : Status)
    (rest : List Status) :
    firstFailure
        ((rescanSlot script discovery (firstError, disks) index).1 ::
          rest) =
      firstFailure
        (firstError :: (program script disks discovery index).1 ::
          rest) := by
  have sent :
      (reprogram script disks discovery index).1 =
        (program script disks discovery index).1 :=
    congrArg Prod.fst (reprogram_slice script discovery index)
  rw [rescanSlot_eq, if_neg changed]
  cases firstError with
  | error error =>
      rfl
  | ok done =>
      simp only [firstFailure, sent]

/-- The loop over some bays returns the first failure, by itself or before. -/
theorem foldl_rescanSlot_status
    {bays : List DiskIndex}
    (distinct : bays.Nodup)
    (firstError : Status)
    {before : DiskLeds}
    (sameConfig : before.config = disks.config)
    (sameBays :
      ∀ index ∈ bays, before.bay index = disks.bay index) :
    (bays.foldl (rescanSlot script discovery)
        (firstError, before)).1 =
      firstFailure
        (firstError ::
          (bays.filter
            fun index => decide (Changed disks discovery index)).map
              fun index =>
                (program script disks discovery index).1) := by
  induction bays generalizing firstError before with
  | nil =>
      cases firstError <;> rfl
  | cons visited rest inductionHypothesis =>
      obtain ⟨notLater, restDistinct⟩ := List.nodup_cons.mp distinct
      have sameBay := sameBays visited List.mem_cons_self
      have laterConfig :
          (rescanSlot script discovery (firstError, before)
            visited).2.config = disks.config := by
        rw [rescanSlot_eq]
        split <;> exact sameConfig
      have laterBays :
          ∀ index ∈ rest,
            (rescanSlot script discovery (firstError, before)
              visited).2.bay index = disks.bay index := by
        intro index member
        have different : index ≠ visited := by
          rintro rfl
          exact notLater member
        rw [rescanSlot_bay_of_ne script discovery firstError different]
        exact sameBays index (List.mem_cons_of_mem visited member)
      rw [List.foldl_cons]
      refine
        (inductionHypothesis restDistinct
          (rescanSlot script discovery (firstError, before) visited).1
          laterConfig laterBays).trans ?_
      by_cases changed : Changed disks discovery visited
      · have changedHere :=
          (changed_congr discovery sameBay).mpr changed
        rw [rescanSlot_status script discovery changedHere,
          program_congr script discovery sameConfig sameBay]
        simp only [List.filter_cons, decide_eq_true changed,
          ↓reduceIte, List.map_cons]
      · have sameHere :=
          fun changedHere =>
            changed ((changed_congr discovery sameBay).mp changedHere)
        rw [rescanSlot_of_unchanged script discovery sameHere,
          List.filter_cons_of_neg (by simp [changed])]

/-- A rescan touches only bays of the chassis that have changed. -/
theorem rescan_touches_changed :
    (∀ index, ¬ Changed disks discovery index →
        (rescan script disks (.ok discovery)).2.slots index =
          disks.slots index) ∧
      TouchesOnly
        (fun led =>
          ∃ index : DiskIndex,
            (index.val < disks.slotCount ∧
                Changed disks discovery index) ∧
              led = bayLed index)
        disks.controller
        (rescan script disks (.ok discovery)).2.controller := by
  refine
    Footprint.touches_foldl
      (fun state : Status × DiskLeds => state.2.controller)
      (fun state =>
        ∀ index, ¬ Changed disks discovery index →
          state.2.slots index = disks.slots index)
      ?_ (.ok (), disks) (fun _ _ => rfl)
  rintro ⟨firstError, before⟩ visited member sameSlots
  by_cases changed : Changed disks discovery visited
  · refine ⟨?_, ?_⟩
    · intro index unchanged
      have different : index ≠ visited := by
        rintro rfl
        exact unchanged changed
      rw [rescanSlot_other script discovery _ different]
      exact sameSlots index unchanged
    · exact
        (rescanSlot_touches script discovery firstError visited).mono
          fun _ isBay =>
            ⟨visited, ⟨mem_bays.mp member, changed⟩, isBay⟩
  · have unchangedHere : ¬ Changed before discovery visited := by
      rw [Changed, sameSlots visited changed]
      exact changed
    rw [rescanSlot_of_unchanged script discovery unchangedHere]
    exact ⟨sameSlots, Footprint.Touches.refl before.controller⟩

/-- A rescan that finds every bay as it is does nothing at all. -/
theorem rescan_of_unchanged
    (unchanged :
      ∀ index : DiskIndex, index.val < disks.slotCount →
        ¬ Changed disks discovery index) :
    rescan script disks (.ok discovery) = (.ok (), disks) := by
  have loop :
      ∀ bays : List DiskIndex, (∀ index ∈ bays, index ∈ disks.bays) →
        bays.foldl (rescanSlot script discovery) (.ok (), disks) =
          (.ok (), disks) := by
    intro bays among
    induction bays with
    | nil =>
        rfl
    | cons visited rest inductionHypothesis =>
        have counted := mem_bays.mp (among visited List.mem_cons_self)
        rw [List.foldl_cons,
          rescanSlot_of_unchanged script discovery
            (unchanged visited counted)]
        exact
          inductionHypothesis fun index member =>
            among index (List.mem_cons_of_mem visited member)
  exact loop disks.bays fun _ member => member

/-- Programming a bay sends at least one command. -/
theorem program_served (index : DiskIndex) :
    (disks.controller.slice (bayLed index)).served <
      (program script disks discovery index).2.served := by
  simp only [program, programRequests]
  split
  · exact
      LedController.Slice.served_lt_setAll _
        (disks.controller.slice (bayLed index)).invalidate rfl _
  · exact
      LedController.Slice.served_lt_setAll _
        (disks.controller.slice (bayLed index)).invalidate rfl _

/-- What a rescan does to a bay that has changed. -/
theorem rescan_bay_changed
    {index : DiskIndex}
    (counted : index.val < disks.slotCount)
    (changed : Changed disks discovery index) :
    (rescan script disks (.ok discovery)).2.bay index =
      { slot := foundSlot discovery index
        led := (program script disks discovery index).2 } := by
  rw [rescan_bay, if_pos counted, Bay.rescan]
  exact if_neg changed

/-- What a rescan does to a bay that has not changed or is not there. -/
theorem rescan_bay_unchanged
    {index : DiskIndex}
    (unchanged :
      ¬ (index.val < disks.slotCount ∧ Changed disks discovery index)) :
    (rescan script disks (.ok discovery)).2.bay index =
      disks.bay index := by
  rw [rescan_bay]
  by_cases counted : index.val < disks.slotCount
  · rw [if_pos counted, Bay.rescan]
    exact if_pos (not_not.mp fun changed => unchanged ⟨counted, changed⟩)
  · rw [if_neg counted]

/-- A rescan spares the LED of a bay that has not changed. -/
theorem rescan_spares
    {index : DiskIndex}
    (unchanged :
      ¬ (index.val < disks.slotCount ∧ Changed disks discovery index)) :
    Spares ledView (bayLed index) disks.controller
      (rescan script disks (.ok discovery)).2.controller := by
  refine (rescan_touches_changed script discovery).2.spares ?_
  rintro ⟨other, otherChanged, same⟩
  have isIndex : index = other := bayLed_injective same
  exact unchanged (isIndex ▸ otherChanged)

/-- After a rescan no bay of the chassis has changed. -/
theorem not_changed_rescan
    {index : DiskIndex}
    (counted : index.val < disks.slotCount) :
    ¬ Changed (rescan script disks (.ok discovery)).2 discovery index := by
  rw [Changed, not_not]
  by_cases changed : Changed disks discovery index
  · have bay := rescan_bay_changed script discovery counted changed
    have slot :
        (rescan script disks (.ok discovery)).2.slots index =
          foundSlot discovery index :=
      congrArg Bay.slot bay
    rw [slot]
    exact ⟨rfl, rfl⟩
  · have bay :=
      rescan_bay_unchanged script discovery
        (fun both : index.val < disks.slotCount ∧ _ => changed both.2)
    have slot :
        (rescan script disks (.ok discovery)).2.slots index =
          disks.slots index :=
      congrArg Bay.slot bay
    rw [slot]
    exact not_not.mp changed

/-- A successful scan of sysfs is taken over exactly. -/
theorem rescanExact :
    RescanExact script disks discovery
      (rescan script disks (.ok discovery)) where
  found := by
    intro index counted
    exact not_not.mp (not_changed_rescan script discovery counted)
  identified := by
    intro index identified
    by_cases both :
        index.val < disks.slotCount ∧ Changed disks discovery index
    · have bay := rescan_bay_changed script discovery both.1 both.2
      rw [show (rescan script disks (.ok discovery)).2.slots index = _
        from congrArg Bay.slot bay]
      rfl
    · have bay := rescan_bay_unchanged script discovery both
      rw [show (rescan script disks (.ok discovery)).2.slots index = _
        from congrArg Bay.slot bay]
      exact identified.resolve_left both
  unchanged := by
    intro index unchanged
    have bay := rescan_bay_unchanged script discovery unchanged
    exact
      ⟨congrArg Bay.slot bay, rescan_spares script discovery unchanged⟩
  changed := by
    intro index counted changed
    have bay := rescan_bay_changed script discovery counted changed
    have slice :
        (rescan script disks (.ok discovery)).2.controller.slice
            (bayLed index) =
          (program script disks discovery index).2 :=
      congrArg Bay.led bay
    refine ⟨congrArg Bay.slot bay, slice, ?_⟩
    rw [slice]
    exact program_served script discovery index
  status :=
    foldl_rescanSlot_status script discovery disks.bays_nodup (.ok ())
      rfl (fun _ _ => rfl)

/-- In the table `disk_leds_init` has set up every bay differs from any scan. -/
theorem zeroed_changed
    (controller : LedController)
    (config : Config)
    (productName : List UInt8)
    (index : DiskIndex) :
    Changed (zeroed controller config productName) discovery index := by
  rintro ⟨samePresent, sameDev⟩
  simp only [zeroed, foundSlot] at samePresent sameDev
  cases found : discovery index with
  | none =>
      rw [found] at sameDev
      exact absurd sameDev (by decide)
  | some dev =>
      rw [found] at samePresent
      cases samePresent

/-- A callback keeps the table well formed. -/
theorem handle_wellFormed
    (wellFormed : disks.WellFormed)
    (event : Event) :
    (handle script disks event).2.WellFormed := by
  cases event with
  | activity ledId clock settime =>
      exact
        (handleActivity_stays script wellFormed ledId clock
          settime).wellFormed
  | timer clock read settime =>
      exact
        (handleTimer_stays script wellFormed clock read
          settime).wellFormed
  | rescan discovery =>
      exact wellFormed.rescan script discovery

end Rescan

/--
A rescan whose scan of sysfs fails does nothing, and any other is exact.  The
first one programs every bay of the chassis, and one that repeats a successful
one does nothing.  In every run from `disk_leds_init` each slot has its bay's
LED.
-/
theorem rescan_exact
    (script : Script) :
    (∀ disks error,
        rescan script disks (.error error) = (.error error, disks)) ∧
      (∀ disks discovery,
        RescanExact script disks discovery
          (rescan script disks (.ok discovery))) ∧
      (∀ controller config productName discovery index,
        Changed (zeroed controller config productName) discovery
          index) ∧
      (∀ disks discovery,
        (rescan script disks discovery).1 = .ok () →
          rescan script (rescan script disks discovery).2 discovery =
            (.ok (), (rescan script disks discovery).2)) ∧
      ∀ controller config productName discovery events final,
        PartialRun.run? (step script)
            (init script controller config productName discovery).2
            events =
          some final →
        ∀ index, (final.slots index).ledId = diskLedId index := by
  refine ⟨fun _ _ => rfl, ?_, ?_, ?_, ?_⟩
  · intro disks discovery
    exact rescanExact script discovery
  · intro controller config productName discovery index
    exact zeroed_changed discovery controller config productName index
  · intro disks discovery succeeded
    cases discovery with
    | error error =>
        cases succeeded
    | ok discovery =>
        refine rescan_of_unchanged script discovery ?_
        intro index counted
        rw [rescan_slotCount] at counted
        exact not_changed_rescan script discovery counted
  · intro controller config productName discovery events final run index
    have start :
        (init script controller config productName
          discovery).2.WellFormed :=
      (zeroed_wellFormed controller config productName).rescan script
        discovery
    have wellFormed : final.WellFormed := by
      refine PartialRun.invariant_of_step ?_ start run
      intro disks event next holds taken
      cases taken
      exact handle_wellFormed script holds event
    exact wellFormed.identified index

end DiskLeds

end UgreenLeds
