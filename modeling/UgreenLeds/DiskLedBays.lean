import UgreenLeds.DiskLedCallbacks
import UgreenLeds.LedControllerDelivery

/-!
# One bay of the disk policy

A bay is a slot together with its LED's slice of the controller.  As long as
every slot carries its own LED's identifier, the loops of the timer's callback
and of a rescan treat each bay by itself: they send the requests for one steady
LED, or switch one LED off, and stop at the first error.
-/

namespace UgreenLeds

/-- The LED of a bay. -/
def bayLed (index : DiskIndex) : LedIndex :=
  ⟨2 + index.val, Nat.add_lt_add_left index.isLt 2⟩

/-- A bay's identifier denotes the bay's LED. -/
theorem ledIndex?_diskLedId (index : DiskIndex) :
    ledIndex? (diskLedId index) = some (bayLed index) := by
  rw [ledIndex?_eq_some, diskLedId_toNat]
  rfl

/-- A bay's identifier denotes no other bay's LED. -/
theorem ledIndex?_diskLedId_ne
    {index other : DiskIndex}
    (different : other ≠ index) :
    ledIndex? (diskLedId index) ≠ some (bayLed other) := by
  rw [ledIndex?_diskLedId]
  intro same
  have numbers := congrArg Fin.val (Option.some.inj same)
  simp only [bayLed] at numbers
  exact different (Fin.ext (by omega))

namespace DiskLeds

/-- A bay's slot with its LED's part of the controller. -/
@[ext] structure Bay where
  slot : DiskSlot
  led : LedController.Slice

/-- One bay of the chassis. -/
def bay
    (disks : DiskLeds)
    (index : DiskIndex) : Bay where
  slot := disks.slots index
  led := disks.controller.slice (bayLed index)

/-- What `set_steady` asks of a bay's LED. -/
def steadyRequests
    (config : Config)
    (index : DiskIndex) : List LedController.Request :=
  [.color
      (config.diskColorOf
        ((diskLedId index).toUInt32 - ledDiskFirst.toUInt32)),
    .brightness config.diskBrightness.toUInt8,
    .onOff config.diskInvert]

/-- What a rescan asks of the LED of a bay that changed. -/
def programRequests
    (config : Config)
    (index : DiskIndex)
    (new : DiskSlot) : List LedController.Request :=
  if new.present then
    steadyRequests config index
  else
    [.onOff false]

/-- The blink an activity event starts. -/
def blinkRequest (config : Config) : LedController.Request :=
  .blink (blinkTimes config).1.toUInt16
    (blinkTimes config).2.toUInt16 false

/-- `set_steady` sends its three requests until one of them fails. -/
theorem setSteady_eq
    (script : Script)
    (config : Config)
    (controller : LedController)
    {index : DiskIndex}
    {slot : DiskSlot}
    (identified : slot.ledId = diskLedId index) :
    setSteady script config controller slot =
      controller.setAll script (diskLedId index)
        (steadyRequests config index) := by
  simp only [setSteady, steadyRequests, LedController.setAll,
    LedController.set, identified]
  rcases controller.setColor script (diskLedId index) _ with
    ⟨error | done, colored⟩
  · rfl
  · simp only
    rcases colored.setBrightness script (diskLedId index) _ with
      ⟨error | done, dimmed⟩
    · rfl
    · simp only
      rcases dimmed.setOn script (diskLedId index) _ with
        ⟨error | done, switched⟩ <;> rfl

/-- The lit and dark times of a blinking bay add up to its interval. -/
theorem blinkRequest_fits (config : Config) :
    (blinkRequest config).Fits := by
  have short := UInt32.lt_iff_toNat_lt.mp config.diskPulse_lt
  have bounded := UInt32.le_iff_toNat_le.mp config.diskInterval_le
  have difference :
      (config.diskIntervalMs - config.diskPulseMs).toNat =
        config.diskIntervalMs.toNat - config.diskPulseMs.toNat :=
    UInt32.toNat_sub_of_le _ _
      (UInt32.le_iff_toNat_le.mpr short.le)
  have limit : (1000 : UInt32).toNat = 1000 := rfl
  simp only [blinkRequest, LedController.Request.Fits, blinkTimes]
  split <;>
    simp only [UInt32.toNat_toUInt16, difference] <;>
    omega

/-- The steady requests are all accepted. -/
theorem steadyRequests_fit
    (config : Config)
    (index : DiskIndex) :
    ∀ request ∈ steadyRequests config index, request.Fits := by
  simp [steadyRequests, LedController.Request.Fits]

/-- The requests of a rescan are all accepted. -/
theorem programRequests_fit
    (config : Config)
    (index : DiskIndex)
    (new : DiskSlot) :
    ∀ request ∈ programRequests config index new, request.Fits := by
  unfold programRequests
  split
  · exact steadyRequests_fit config index
  · simp [LedController.Request.Fits]

/-- One bay's turn in the loop of `disk_leds_handle_timer`. -/
def Bay.expire
    (script : Script)
    (config : Config)
    (now : UInt64)
    (index : DiskIndex)
    (bay : Bay) : Bay :=
  if !bay.slot.active ∨ bay.slot.deadlineNs > now then
    bay
  else
    { slot := { bay.slot with active := false, deadlineNs := 0 }
      led :=
        match bay.led.setAll (script (bayLed index))
            (steadyRequests config index) with
        | (.error _, led) =>
            led.invalidate
        | (.ok (), led) =>
            led }

/-- One bay's turn in the loop of `rescan`. -/
def Bay.rescan
    (script : Script)
    (config : Config)
    (discovery : Discovery)
    (index : DiskIndex)
    (bay : Bay) : Bay :=
  let new := foundSlot discovery index
  if bay.slot.present = new.present ∧ bay.slot.dev = new.dev then
    bay
  else
    { slot := new
      led :=
        (bay.led.invalidate.setAll (script (bayLed index))
          (programRequests config index new)).2 }

section Passes

variable
  (script : Script)
  {disks : DiskLeds}

@[simp] theorem bay_setSlot_self
    (index : DiskIndex)
    (slot : DiskSlot) :
    (disks.setSlot index slot).bay index =
      { disks.bay index with slot } := by
  simp [bay, setSlot]

theorem bay_setSlot_of_ne
    {index other : DiskIndex}
    (different : other ≠ index)
    (slot : DiskSlot) :
    (disks.setSlot index slot).bay other = disks.bay other := by
  simp [bay, setSlot, Function.update_of_ne different]

@[simp] theorem bay_armTimer
    (settime : Option Errno)
    (index : DiskIndex) :
    (disks.armTimer settime).2.bay index = disks.bay index :=
  rfl

/-- Starting a bay's blink is a request to the bay's LED. -/
theorem startBlink_slice (index : DiskIndex) :
    ((disks.startBlink script index).1,
        (disks.startBlink script index).2.slice (bayLed index)) =
      (disks.bay index).led.set (script (bayLed index))
        (blinkRequest disks.config) :=
  LedController.set_slice script disks.controller
    (ledIndex?_diskLedId index) (blinkRequest_fits disks.config)

/-- Starting a bay's blink leaves the other bays' LEDs alone. -/
theorem startBlink_slice_of_ne
    {index other : DiskIndex}
    (different : other ≠ index) :
    (disks.startBlink script index).2.slice (bayLed other) =
      disks.controller.slice (bayLed other) :=
  LedController.set_other script disks.controller
    (ledIndex?_diskLedId_ne different) (blinkRequest disks.config)

/-- The timer's loop treats a bay as `Bay.expire` does. -/
theorem expireSlot_bay
    (identified :
      ∀ index, (disks.slots index).ledId = diskLedId index)
    (now : UInt64)
    (index : DiskIndex) :
    (expireSlot script now disks index).bay index =
      (disks.bay index).expire script disks.config now index := by
  have sent :=
    LedController.setAll_slice script disks.controller
      (ledIndex?_diskLedId index)
      (steadyRequests_fit disks.config index)
  have sameSlot : (disks.bay index).slot = disks.slots index := rfl
  have sameLed :
      (disks.bay index).led =
        disks.controller.slice (bayLed index) := rfl
  simp only [expireSlot, Bay.expire, sameSlot, sameLed, ← sent,
    setSteady_eq script disks.config disks.controller
      (identified index)]
  split
  · rfl
  · rw [bay_setSlot_self]
    rcases disks.controller.setAll script (diskLedId index)
        (steadyRequests disks.config index) with
      ⟨error | done, after⟩
    · refine Bay.ext rfl ?_
      simp only [bay, identified index]
      exact
        LedController.slice_invalidate_self after
          (ledIndex?_diskLedId index)
    · rfl

/-- The timer's loop leaves the other bays alone. -/
theorem expireSlot_bay_of_ne
    (identified :
      ∀ index, (disks.slots index).ledId = diskLedId index)
    (now : UInt64)
    {index other : DiskIndex}
    (different : other ≠ index) :
    (expireSlot script now disks index).bay other = disks.bay other := by
  have notAddressed := ledIndex?_diskLedId_ne different
  have kept :=
    LedController.setAll_other script disks.controller notAddressed
      (steadyRequests disks.config index)
  simp only [expireSlot,
    setSteady_eq script disks.config disks.controller
      (identified index)]
  split
  · rfl
  · rw [bay_setSlot_of_ne different]
    generalize
      disks.controller.setAll script (diskLedId index)
        (steadyRequests disks.config index) = result at kept ⊢
    rcases result with ⟨error | done, after⟩
    · refine Bay.ext rfl ?_
      simp only [bay, identified index]
      exact
        (LedController.slice_invalidate_of_ne after
          notAddressed).trans kept
    · exact Bay.ext rfl kept

/-- A rescan programs a changed bay through one list of requests. -/
theorem program_eq
    (config : Config)
    (controller : LedController)
    (discovery : Discovery)
    (index : DiskIndex) :
    (if (foundSlot discovery index).present then
        setSteady script config controller (foundSlot discovery index)
      else
        controller.setOn script (foundSlot discovery index).ledId
          false) =
      controller.setAll script (diskLedId index)
        (programRequests config index (foundSlot discovery index)) := by
  cases present : (foundSlot discovery index).present with
  | true =>
      simp only [programRequests, present, ↓reduceIte]
      exact setSteady_eq script config controller rfl
  | false =>
      simp only [programRequests, present, Bool.false_eq_true,
        ↓reduceIte, LedController.setAll, LedController.set]
      simp only [foundSlot]
      rcases controller.setOn script (diskLedId index) false with
        ⟨error | done, sent⟩ <;> rfl

/-- What a rescan sends to one bay's LED. -/
def reprogram
    (disks : DiskLeds)
    (discovery : Discovery)
    (index : DiskIndex) : Status × LedController :=
  (disks.controller.invalidate (diskLedId index)).setAll script
    (diskLedId index)
    (programRequests disks.config index (foundSlot discovery index))

/-- One pass through the loop of `rescan`, by its list of requests. -/
theorem rescanSlot_eq
    (discovery : Discovery)
    (firstError : Status)
    (index : DiskIndex) :
    rescanSlot script discovery (firstError, disks) index =
      if (disks.slots index).present =
            (foundSlot discovery index).present ∧
          (disks.slots index).dev = (foundSlot discovery index).dev then
        (firstError, disks)
      else
        (match firstError with
          | .error error => .error error
          | .ok () => (reprogram script disks discovery index).1,
          { disks with
            controller :=
              (reprogram script disks discovery index).2 }.setSlot index
            (foundSlot discovery index)) := by
  have programmed :=
    program_eq script disks.config
      (disks.controller.invalidate (diskLedId index)) discovery index
  simp only [rescanSlot]
  split
  · rfl
  · rw [reprogram, ← programmed]
    rfl

/-- What a rescan sends to a bay's LED is `Slice.setAll` on its slice. -/
theorem reprogram_slice
    (discovery : Discovery)
    (index : DiskIndex) :
    ((reprogram script disks discovery index).1,
        (reprogram script disks discovery index).2.slice
          (bayLed index)) =
      (disks.bay index).led.invalidate.setAll (script (bayLed index))
        (programRequests disks.config index
          (foundSlot discovery index)) := by
  have sent :=
    LedController.setAll_slice script
      (disks.controller.invalidate (diskLedId index))
      (ledIndex?_diskLedId index)
      (programRequests_fit disks.config index
        (foundSlot discovery index))
  rw [LedController.slice_invalidate_self disks.controller
    (ledIndex?_diskLedId index)] at sent
  exact sent

/-- A rescan treats a bay as `Bay.rescan` does. -/
theorem rescanSlot_bay
    (discovery : Discovery)
    (firstError : Status)
    (index : DiskIndex) :
    (rescanSlot script discovery (firstError, disks) index).2.bay
        index =
      (disks.bay index).rescan script disks.config discovery index := by
  have sent :
      ((reprogram script disks discovery index).1,
          (reprogram script disks discovery index).2.slice
            (bayLed index)) = _ :=
    reprogram_slice script discovery index
  have sameSlot : (disks.bay index).slot = disks.slots index := rfl
  rw [rescanSlot_eq]
  simp only [Bay.rescan, sameSlot, ← sent]
  split
  · rfl
  · rw [bay_setSlot_self]
    rfl

/-- A rescan leaves the other bays alone. -/
theorem rescanSlot_bay_of_ne
    (discovery : Discovery)
    (firstError : Status)
    {index other : DiskIndex}
    (different : other ≠ index) :
    (rescanSlot script discovery (firstError, disks) index).2.bay
        other =
      disks.bay other := by
  have notAddressed := ledIndex?_diskLedId_ne different
  have kept :
      (reprogram script disks discovery index).2.slice (bayLed other) =
        disks.controller.slice (bayLed other) :=
    (LedController.setAll_other script _ notAddressed _).trans
      (LedController.slice_invalidate_of_ne disks.controller
        notAddressed)
  rw [rescanSlot_eq]
  split
  · rfl
  · rw [bay_setSlot_of_ne different]
    exact Bay.ext rfl kept

end Passes

section Loops

variable
  (script : Script)
  (disks : DiskLeds)

/-- The timer's loop expires every bay of the chassis by itself. -/
theorem expireAll_bay
    (wellFormed : disks.WellFormed)
    (now : UInt64)
    (index : DiskIndex) :
    (expireAll script disks now).bay index =
      if index.val < disks.slotCount then
        (disks.bay index).expire script disks.config now index
      else
        disks.bay index := by
  have loop :=
    LocalFold.view_foldl_of_invariant (expireSlot script now)
      (fun after : DiskLeds =>
        after.config = disks.config ∧
          ∀ index, (after.slots index).ledId = diskLedId index)
      ?_
      bay
      (fun index => Bay.expire script disks.config now index)
      ?_ ?_ disks.bays_nodup disks ⟨rfl, wellFormed.identified⟩
      index
  · simp only [mem_bays] at loop
    exact loop
  · rintro after visited ⟨sameConfig, identified⟩
    refine ⟨?_, ?_⟩
    · rw [← sameConfig]
      simp only [expireSlot]
      split <;> rfl
    · intro other
      rw [expireSlot_ledId]
      exact identified other
  · rintro after visited ⟨sameConfig, identified⟩
    rw [expireSlot_bay script identified, sameConfig]
  · rintro after visited other ⟨-, identified⟩ different
    exact expireSlot_bay_of_ne script identified now different

/-- A rescan treats every bay of the chassis by itself. -/
theorem rescan_bay
    (discovery : Discovery)
    (index : DiskIndex) :
    (DiskLeds.rescan script disks (.ok discovery)).2.bay index =
      if index.val < disks.slotCount then
        (disks.bay index).rescan script disks.config discovery index
      else
        disks.bay index := by
  have loop :=
    LocalFold.view_foldl_of_invariant (rescanSlot script discovery)
      (fun state : Status × DiskLeds => state.2.config = disks.config)
      ?_
      (fun (state : Status × DiskLeds) index => state.2.bay index)
      (fun index => Bay.rescan script disks.config discovery index)
      ?_ ?_ disks.bays_nodup (.ok (), disks) rfl index
  · simp only [mem_bays] at loop
    exact loop
  · rintro ⟨firstError, after⟩ visited sameConfig
    rw [rescanSlot_eq]
    split <;> exact sameConfig
  · rintro ⟨firstError, after⟩ visited sameConfig
    simp only at sameConfig
    simp only [rescanSlot_bay, sameConfig]
  · rintro ⟨firstError, after⟩ visited other - different
    exact rescanSlot_bay_of_ne script discovery firstError different

/-- The first error of a rescan is kept to its end. -/
theorem ok_of_foldl_rescanSlot
    (discovery : Discovery)
    (bays : List DiskIndex)
    (state : Status × DiskLeds)
    (succeeds :
      (bays.foldl (rescanSlot script discovery) state).1 = .ok ()) :
    state.1 = .ok () := by
  induction bays generalizing state with
  | nil =>
      exact succeeds
  | cons first rest inductionHypothesis =>
      rcases state with ⟨error | done, after⟩
      · have failed :=
          inductionHypothesis _ succeeds
        rw [rescanSlot_eq] at failed
        split at failed <;> cases failed
      · rfl

/-- A rescan that returns `0` has programmed every bay that changed. -/
theorem reprogrammed_of_rescan
    {discovery : Discovery}
    (succeeds :
      (DiskLeds.rescan script disks (.ok discovery)).1 = .ok ())
    {index : DiskIndex}
    (counted : index.val < disks.slotCount)
    (changed :
      ¬ ((disks.slots index).present =
            (foundSlot discovery index).present ∧
          (disks.slots index).dev =
            (foundSlot discovery index).dev)) :
    ((disks.bay index).led.invalidate.setAll (script (bayLed index))
        (programRequests disks.config index
          (foundSlot discovery index))).1 =
      .ok () := by
  obtain ⟨⟨firstError, visited⟩, trailing, sameConfig, sameBay, sameLoop⟩ :=
    LocalFold.exists_visit (rescanSlot script discovery)
      (fun state : Status × DiskLeds => state.2.config = disks.config)
      (by
        rintro ⟨firstError, after⟩ visited sameConfig
        rw [rescanSlot_eq]
        split <;> exact sameConfig)
      (fun (state : Status × DiskLeds) index => state.2.bay index)
      (by
        rintro ⟨firstError, after⟩ visited other - different
        exact
          rescanSlot_bay_of_ne script discovery firstError different)
      disks.bays_nodup (.ok (), disks) rfl (mem_bays.mpr counted)
  simp only at sameConfig sameBay
  have visitedOk :
      (rescanSlot script discovery (firstError, visited) index).1 =
        .ok () := by
    apply ok_of_foldl_rescanSlot script discovery trailing
    rw [← sameLoop]
    exact succeeds
  have sameSlot : visited.slots index = disks.slots index :=
    congrArg Bay.slot sameBay
  rw [rescanSlot_eq, sameSlot, if_neg changed] at visitedOk
  have sent :
      ((reprogram script visited discovery index).1,
          (reprogram script visited discovery index).2.slice
            (bayLed index)) = _ :=
    reprogram_slice script discovery index
  have programmed := congrArg Prod.fst sent
  rw [sameBay, sameConfig] at programmed
  rw [← programmed]
  cases firstError with
  | error error =>
      cases visitedOk
  | ok done =>
      exact visitedOk

end Loops

end DiskLeds

end UgreenLeds
