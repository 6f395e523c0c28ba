import UgreenLeds.DiskLedRescan
import UgreenLeds.DiskUevent
import UgreenLeds.LedPictures

/-!
# What the bays show

An empty bay is dark, an idle one shows its colour at the configured brightness,
and an active one blinks at the configured interval.  Every callback of the disk
policy keeps this up for each bay whose LED is reliable, whatever becomes of the
commands to the other bays.
-/

namespace UgreenLeds

namespace DiskLeds

/-- What the LED of a bay shows. -/
def bayPicture
    (config : Config)
    (index : DiskIndex)
    (slot : DiskSlot) : Picture
  | .color =>
      if slot.present then
        some (config.diskColorOf (UInt32.ofNat index.val))
      else
        none
  | .brightness =>
      if slot.present then some config.diskBrightness.toUInt8 else none
  | .display =>
      some
        (if slot.active then
          .blink (blinkTimes config).1.toNat config.diskIntervalMs.toNat
        else if slot.present && config.diskInvert then
          .on
        else
          .off)

/-- The bay's number, as `set_steady` recovers it. -/
theorem diskLedId_sub (index : DiskIndex) :
    (diskLedId index).toUInt32 - ledDiskFirst.toUInt32 =
      UInt32.ofNat index.val := by
  have number := diskLedId_toNat index
  have inRange : index.val < 8 := index.isLt
  have first : ledDiskFirst.toUInt32.toNat = 2 := rfl
  apply UInt32.toNat_inj.mp
  simp only [UInt32.toNat_sub, UInt8.toNat_toUInt32, number, first,
    UInt32.toNat_ofNat']
  omega

/-- The picture of a bay depends on two flags of its slot. -/
theorem bayPicture_congr
    (config : Config)
    (index : DiskIndex)
    {first second : DiskSlot}
    (samePresent : first.present = second.present)
    (sameActive : first.active = second.active) :
    bayPicture config index first = bayPicture config index second := by
  funext register
  cases register <;> simp only [bayPicture, samePresent, sameActive]

/-- The steady requests paint an idle bay. -/
theorem paintAll_steadyRequests
    (picture : Picture)
    (config : Config)
    (index : DiskIndex)
    {slot : DiskSlot}
    (present : slot.present = true)
    (idle : slot.active = false) :
    LedController.paintAll picture (steadyRequests config index) =
      bayPicture config index slot := by
  funext register
  cases lit : config.diskInvert <;>
    cases register <;>
      simp [LedController.paintAll, steadyRequests, diskLedId_sub, lit,
        LedController.Request.paint, LedController.Request.command,
        Command.register, Command.value, bayPicture, present, idle,
        Function.update]

/-- The request that empties a bay paints an empty bay. -/
theorem holds_of_switchedOff
    {device : McuLed}
    {picture : Picture}
    (config : Config)
    (index : DiskIndex)
    {slot : DiskSlot}
    (absent : slot.present = false)
    (idle : slot.active = false)
    (holds :
      ShadowedRegister.Holds device.registers
        (LedController.paintAll picture [.onOff false])) :
    ShadowedRegister.Holds device.registers
      (bayPicture config index slot) := by
  refine holds.weaken ?_
  intro register value said
  cases register with
  | color =>
      simp [bayPicture, absent] at said
  | brightness =>
      simp [bayPicture, absent] at said
  | display =>
      simp only [bayPicture, absent, idle, Bool.false_eq_true,
        ↓reduceIte, Bool.false_and] at said
      rw [← said]
      rfl

/-- The phases of a blinking bay are represented exactly. -/
theorem blinkTimes_toUInt16 (config : Config) :
    (blinkTimes config).1.toUInt16.toNat = (blinkTimes config).1.toNat ∧
      ((blinkTimes config).1.toUInt16 +
          (blinkTimes config).2.toUInt16).toNat =
        config.diskIntervalMs.toNat := by
  have short := UInt32.lt_iff_toNat_lt.mp config.diskPulse_lt
  have bounded := UInt32.le_iff_toNat_le.mp config.diskInterval_le
  have difference :
      (config.diskIntervalMs - config.diskPulseMs).toNat =
        config.diskIntervalMs.toNat - config.diskPulseMs.toNat :=
    UInt32.toNat_sub_of_le _ _
      (UInt32.le_iff_toNat_le.mpr short.le)
  have limit : (1000 : UInt32).toNat = 1000 := rfl
  simp only [blinkTimes]
  split <;>
    simp only [UInt32.toNat_toUInt16, UInt16.toNat_add, difference] <;>
    omega

/-- The blink of an activity event paints an active bay over an idle one. -/
theorem paint_blinkRequest
    (config : Config)
    (index : DiskIndex)
    {slot next : DiskSlot}
    (samePresent : next.present = slot.present)
    (active : next.active = true) :
    (blinkRequest config).paint (bayPicture config index slot) =
      bayPicture config index next := by
  obtain ⟨onTime, cycle⟩ := blinkTimes_toUInt16 config
  funext register
  cases register <;>
    simp [LedController.Request.paint, blinkRequest,
      LedController.Request.command, Command.register, Command.value,
      bayPicture, samePresent, active, onTime, cycle, Function.update]

namespace Bay

/-- The LED of a bay shows the bay's slot. -/
def Displayed
    (config : Config)
    (index : DiskIndex)
    (bay : Bay) : Prop :=
  bay.led.Displays (bayPicture config index bay.slot)

/-- One bay's turn in the loop of `disk_leds_cleanup`. -/
def cleanup
    (script : Script)
    (config : Config)
    (index : DiskIndex)
    (bay : Bay) : Bay :=
  if bay.slot.present then
    { bay with
      led :=
        (bay.led.setAll (script (bayLed index))
          (steadyRequests config index)).2 }
  else
    bay

/-- A bay's deadline has no part in what is shown. -/
theorem Displayed.postpone
    {config : Config}
    {index : DiskIndex}
    {bay : Bay}
    (displayed : bay.Displayed config index)
    (deadlineNs : UInt64) :
    { bay with slot := { bay.slot with deadlineNs } }.Displayed config
      index := by
  have same :
      bayPicture config index { bay.slot with deadlineNs } =
        bayPicture config index bay.slot :=
    bayPicture_congr config index rfl rfl
  rw [Displayed, same]
  exact displayed

section Turns

variable
  {script : Script}
  {index : DiskIndex}
  (reliable : Reliable (script (bayLed index)))

include reliable

/-- The requests that program a slot succeed and show it. -/
theorem programmed
    (config : Config)
    {led : LedController.Slice}
    {picture : Picture}
    (displays : led.Displays picture)
    (slot : DiskSlot)
    (idle : slot.active = false) :
    ∃ after,
      led.setAll (script (bayLed index))
          (programRequests config index slot) =
        (.ok (), after) ∧
      after.Displays (bayPicture config index slot) := by
  obtain ⟨after, sent, painted⟩ :=
    displays.setAll reliable (programRequests_fit config index slot)
  refine ⟨after, sent, painted.coherent, ?_⟩
  cases present : slot.present with
  | true =>
      have holds := painted.holds
      simp only [programRequests, present, ↓reduceIte] at holds
      rwa [paintAll_steadyRequests picture config index present idle]
        at holds
  | false =>
      have holds := painted.holds
      simp only [programRequests, present, Bool.false_eq_true,
        ↓reduceIte] at holds
      exact holds_of_switchedOff config index present idle holds

variable
  {config : Config}
  {bay : Bay}

/-- The requests that make a bay steady succeed and show an idle bay. -/
theorem steadied
    (displayed : bay.Displayed config index)
    (slot : DiskSlot)
    (present : slot.present = true)
    (idle : slot.active = false) :
    ∃ after,
      bay.led.setAll (script (bayLed index))
          (steadyRequests config index) =
        (.ok (), after) ∧
      after.Displays (bayPicture config index slot) := by
  have shown := programmed reliable config displayed slot idle
  simpa only [programRequests, present, ↓reduceIte] using shown

/-- A bay whose time is up shows that it is idle. -/
theorem Displayed.expire
    (displayed : bay.Displayed config index)
    (occupied : bay.slot.active = true → bay.slot.present = true)
    (now : UInt64) :
    (bay.expire script config now index).Displayed config index := by
  unfold Bay.expire
  split
  · exact displayed
  · rename_i due
    have active : bay.slot.active = true := by
      simpa using (not_or.mp due).1
    obtain ⟨after, sent, shown⟩ :=
      steadied reliable displayed
        { bay.slot with active := false, deadlineNs := 0 }
        (occupied active) rfl
    simp only [Displayed, sent]
    exact shown

/-- A bay that a rescan reprograms shows what it has found. -/
theorem rescan_displayed
    {discovery : Discovery}
    (shownBefore :
      bay.slot.present = (foundSlot discovery index).present ∧
          bay.slot.dev = (foundSlot discovery index).dev →
        bay.Displayed config index) :
    (bay.rescan script config discovery index).Displayed config
      index := by
  simp only [Bay.rescan]
  split
  · rename_i same
    exact shownBefore same
  · obtain ⟨after, sent, shown⟩ :=
      programmed reliable config bay.led.invalidate_displays
        (foundSlot discovery index) rfl
    simp only [Displayed, sent]
    exact shown

/-- A bay that is cleaned up shows that it is idle. -/
theorem Displayed.cleanup
    (displayed : bay.Displayed config index)
    (occupied : bay.slot.active = true → bay.slot.present = true) :
    (bay.cleanup script config index).led.Displays
      (bayPicture config index { bay.slot with active := false }) := by
  unfold Bay.cleanup
  split
  · rename_i present
    obtain ⟨after, sent, shown⟩ :=
      steadied reliable displayed { bay.slot with active := false }
        present rfl
    simp only [sent]
    exact shown
  · rename_i absent
    have idle : bay.slot.active = false := by
      cases active : bay.slot.active with
      | true =>
          exact (absent (occupied active)).elim
      | false =>
          rfl
    have same :
        bayPicture config index { bay.slot with active := false } =
          bayPicture config index bay.slot :=
      bayPicture_congr config index rfl idle.symm
    rw [same]
    exact displayed

end Turns

end Bay

/-- Every bay whose LED is reliable shows its slot. -/
def Displayed
    (script : Script)
    (disks : DiskLeds) : Prop :=
  ∀ index,
    index.val < disks.slotCount →
    Reliable (script (bayLed index)) →
    (disks.bay index).Displayed disks.config index

section Callbacks

variable
  {script : Script}
  {disks : DiskLeds}

/-- A callback that changes one bay only has to show that one. -/
theorem Displayed.of_bay
    (displayed : disks.Displayed script)
    {after : DiskLeds}
    (sameCount : after.slotCount = disks.slotCount)
    (sameConfig : after.config = disks.config)
    (index : DiskIndex)
    (others :
      ∀ other, other ≠ index → after.bay other = disks.bay other)
    (own :
      index.val < disks.slotCount →
      Reliable (script (bayLed index)) →
      (after.bay index).Displayed disks.config index) :
    after.Displayed script := by
  intro other counted reliable
  rw [sameCount] at counted
  rw [sameConfig]
  by_cases isIndex : other = index
  · subst isIndex
    exact own counted reliable
  · rw [others other isIndex]
    exact displayed other counted reliable

/-- Arming the timer changes nothing that is shown. -/
theorem Displayed.armTimer
    (displayed : disks.Displayed script)
    (settime : Option Errno) :
    (disks.armTimer settime).2.Displayed script :=
  displayed

/-- Moving a bay's deadline changes nothing that is shown. -/
theorem Displayed.extend
    (displayed : disks.Displayed script)
    (index : DiskIndex)
    (clock : Option MonotonicTime) :
    (disks.extend index clock).Displayed script := by
  refine
    displayed.of_bay rfl rfl index
      (fun other different => bay_setSlot_of_ne different _) ?_
  intro counted reliable
  rw [DiskLeds.extend, bay_setSlot_self]
  exact (displayed index counted reliable).postpone _

/-- The blink of a bay leaves the other bays as they are. -/
theorem bay_extend_of_ne
    {index other : DiskIndex}
    (different : other ≠ index)
    (clock : Option MonotonicTime)
    {controller : LedController}
    (untouched :
      controller.slice (bayLed other) =
        (disks.startBlink script index).2.slice (bayLed other)) :
    ({ disks.extend index clock with controller } : DiskLeds).bay other =
      disks.bay other := by
  refine Bay.ext ?_ ?_
  · simp [bay, DiskLeds.extend, different]
  · exact untouched.trans (startBlink_slice_of_ne script different)

/-- The blink of a reliable bay starts and shows that the bay is active. -/
theorem Displayed.startBlink
    (displayed : disks.Displayed script)
    {index : DiskIndex}
    (counted : index.val < disks.slotCount)
    (reliable : Reliable (script (bayLed index)))
    (slot : DiskSlot)
    (samePresent : slot.present = (disks.slots index).present)
    (active : slot.active = true) :
    ∃ controller,
      disks.startBlink script index = (.ok (), controller) ∧
        (controller.slice (bayLed index)).Displays
          (bayPicture disks.config index slot) := by
  have shown := displayed index counted reliable
  have sameSlot : (disks.bay index).slot = disks.slots index := rfl
  obtain ⟨after, sent, blinks⟩ :=
    shown.set reliable (blinkRequest_fits disks.config)
  rw [sameSlot,
    paint_blinkRequest disks.config index samePresent active] at blinks
  have sliced :=
    (startBlink_slice script index : _ =
      (disks.bay index).led.set (script (bayLed index))
        (blinkRequest disks.config))
  rw [sent, Prod.mk.injEq] at sliced
  refine ⟨(disks.startBlink script index).2, ?_, ?_⟩
  · rw [← sliced.1]
  · rw [sliced.2]
    exact blinks

/-- An activity event keeps up what is shown. -/
theorem Displayed.handleActivity
    (displayed : disks.Displayed script)
    (ledId : UInt8)
    (clock : Option MonotonicTime)
    (settime : Option Errno) :
    (handleActivity script disks ledId clock settime).2.Displayed
      script := by
  rcases handleActivity_cases script disks ledId clock settime with
      ⟨unchanged, -⟩ | ⟨index, rfl, -, -, handled⟩
  · rw [unchanged]
    exact displayed
  · rcases handled with
        ⟨-, extended⟩ | ⟨-, error, controller, started, failed⟩ |
          ⟨-, controller, started, lit⟩
    · rw [extended]
      exact (displayed.extend index clock).armTimer settime
    · rw [failed]
      refine displayed.of_bay rfl rfl index ?_ ?_
      · intro other different
        apply bay_extend_of_ne different clock
        rw [LedController.slice_invalidate_of_ne controller
          (ledIndex?_diskLedId_ne different), started]
      · intro counted reliable
        obtain ⟨blinking, starts, -⟩ :=
          displayed.startBlink counted reliable
            { disks.slots index with active := true } rfl rfl
        rw [started] at starts
        cases starts
    · rw [lit]
      apply Displayed.armTimer
      refine displayed.of_bay rfl rfl index ?_ ?_
      · intro other different
        rw [bay_setSlot_of_ne different]
        apply bay_extend_of_ne different clock
        rw [started]
      · intro counted reliable
        obtain ⟨blinking, starts, shown⟩ :=
          displayed.startBlink counted reliable
            { (disks.extend index clock).slots index with
              active := true }
            (by simp [DiskLeds.extend]) rfl
        rw [started] at starts
        cases starts
        rw [bay_setSlot_self]
        exact shown

variable (script)

/-- The timer's callback keeps up what is shown. -/
theorem Displayed.handleTimer
    (displayed : disks.Displayed script)
    (wellFormed : disks.WellFormed)
    (clock : Option MonotonicTime)
    (read settime : Option Errno) :
    (handleTimer script disks clock read settime).2.Displayed
      script := by
  by_cases regular : ∀ error, read = some error → error = .eagain
  · obtain ⟨timer, same⟩ :=
      handleTimer_eq script disks clock regular settime
    rw [same]
    apply Displayed.armTimer
    intro index counted reliable
    rw [expireAll_slotCount] at counted
    have timed : ({ disks with timer } : DiskLeds).WellFormed :=
      ⟨wellFormed.identified, wellFormed.occupied⟩
    rw [expireAll_config, expireAll_bay script _ timed, if_pos counted]
    apply Bay.Displayed.expire reliable
    · exact displayed index counted reliable
    · exact fun active => (wellFormed.occupied index active).1
  · cases read with
    | none =>
        simp at regular
    | some error =>
        have fatal : error ≠ .eagain := by simpa using regular
        simp only [DiskLeds.handleTimer, Timerfd.read, if_pos fatal]
        exact displayed

/-- A rescan keeps up what is shown. -/
theorem Displayed.rescan
    (displayed : disks.Displayed script)
    (discovery : Except Errno Discovery) :
    (rescan script disks discovery).2.Displayed script := by
  cases discovery with
  | error error =>
      exact displayed
  | ok discovery =>
      intro index counted reliable
      rw [rescan_slotCount] at counted
      rw [rescan_config, rescan_bay, if_pos counted]
      exact
        Bay.rescan_displayed reliable fun _ =>
          displayed index counted reliable

/-- An activity event leaves the configuration alone. -/
theorem handleActivity_config
    (disks : DiskLeds)
    (ledId : UInt8)
    (clock : Option MonotonicTime)
    (settime : Option Errno) :
    (DiskLeds.handleActivity script disks ledId clock settime).2.config =
      disks.config := by
  rcases handleActivity_cases script disks ledId clock settime with
      ⟨unchanged, -⟩ | ⟨index, -, -, -, handled⟩
  · rw [unchanged]
  · rcases handled with
        ⟨-, after⟩ | ⟨-, error, controller, -, after⟩ |
          ⟨-, controller, -, after⟩
    all_goals
      rw [after]
      rfl

/-- So does the timer's callback. -/
theorem handleTimer_config
    (disks : DiskLeds)
    (clock : Option MonotonicTime)
    (read settime : Option Errno) :
    (DiskLeds.handleTimer script disks clock read settime).2.config =
      disks.config := by
  by_cases regular : ∀ error, read = some error → error = .eagain
  · obtain ⟨timer, same⟩ :=
      handleTimer_eq script disks clock regular settime
    rw [same]
    exact expireAll_config script { disks with timer } _
  · cases read with
    | none =>
        simp at regular
    | some error =>
        have fatal : error ≠ .eagain := by simpa using regular
        simp only [DiskLeds.handleTimer, Timerfd.read, if_pos fatal]

/-- A hot-plug event keeps up what is shown. -/
theorem Displayed.handleUevent
    (displayed : disks.Displayed script)
    (runtime : BpfRuntime)
    (uevents : Uevents) :
    (handleUevent script disks runtime uevents).2.1.Displayed
      script := by
  simp only [DiskLeds.handleUevent]
  split
  · exact displayed
  · split
    · exact displayed
    · split <;> exact Displayed.rescan script displayed uevents.discovery

/-- A hot-plug event leaves the configuration alone. -/
theorem handleUevent_config
    (disks : DiskLeds)
    (runtime : BpfRuntime)
    (uevents : Uevents) :
    (DiskLeds.handleUevent script disks runtime uevents).2.1.config =
      disks.config := by
  simp only [DiskLeds.handleUevent]
  split
  · rfl
  · split
    · rfl
    · split <;>
        exact rescan_config script disks uevents.discovery

/-- The first rescan shows every bay, whatever the LEDs showed before. -/
theorem init_displayed
    (controller : LedController)
    (config : Config)
    (productName : List UInt8)
    (discovery : Except Errno Discovery)
    (succeeds :
      (init script controller config productName discovery).1 =
        .ok ()) :
    (init script controller config productName discovery).2.Displayed
      script := by
  cases discovery with
  | error error =>
      cases succeeds
  | ok discovery =>
      intro index counted reliable
      simp only [init, rescan_slotCount] at counted
      simp only [init, rescan_config, rescan_bay, if_pos counted]
      apply Bay.rescan_displayed reliable
      intro same
      exact
        (zeroed_changed discovery controller config productName index
          same).elim

/-- Cleaning up treats a bay as `Bay.cleanup` does. -/
theorem cleanupSlot_bay
    (identified :
      ∀ index, (disks.slots index).ledId = diskLedId index)
    (index : DiskIndex) :
    (cleanupSlot script disks index).bay index =
      (disks.bay index).cleanup script disks.config index := by
  have sent :=
    LedController.setAll_slice script disks.controller
      (ledIndex?_diskLedId index)
      (steadyRequests_fit disks.config index)
  have sameSlot : (disks.bay index).slot = disks.slots index := rfl
  simp only [cleanupSlot, Bay.cleanup, sameSlot,
    setSteady_eq script disks.config disks.controller
      (identified index)]
  split
  · exact Bay.ext rfl (congrArg Prod.snd sent)
  · rfl

/-- Cleaning up one bay leaves the other bays alone. -/
theorem cleanupSlot_bay_of_ne
    (identified :
      ∀ index, (disks.slots index).ledId = diskLedId index)
    {index other : DiskIndex}
    (different : other ≠ index) :
    (cleanupSlot script disks index).bay other = disks.bay other := by
  simp only [cleanupSlot,
    setSteady_eq script disks.config disks.controller
      (identified index)]
  split
  · refine Bay.ext rfl ?_
    exact
      LedController.setAll_other script disks.controller
        (ledIndex?_diskLedId_ne different)
        (steadyRequests disks.config index)
  · rfl

/-- `disk_leds_cleanup` treats every bay of the chassis by itself. -/
theorem cleanup_bay
    (wellFormed : disks.WellFormed)
    (index : DiskIndex) :
    (disks.cleanup script).bay index =
      if index.val < disks.slotCount then
        (disks.bay index).cleanup script disks.config index
      else
        disks.bay index := by
  have loop :=
    LocalFold.view_foldl_of_invariant (cleanupSlot script)
      (fun after : DiskLeds =>
        after.config = disks.config ∧
          ∀ index, (after.slots index).ledId = diskLedId index)
      ?_
      bay
      (fun index => Bay.cleanup script disks.config index)
      ?_ ?_ disks.bays_nodup disks ⟨rfl, wellFormed.identified⟩
      index
  · simp only [mem_bays] at loop
    exact loop
  · rintro after visited ⟨sameConfig, identified⟩
    refine ⟨?_, ?_⟩
    · rw [← sameConfig]
      simp only [cleanupSlot]
      split <;> rfl
    · simp only [cleanupSlot]
      split <;> exact identified
  · rintro after visited ⟨sameConfig, identified⟩
    rw [cleanupSlot_bay script identified, sameConfig]
  · rintro after visited other ⟨-, identified⟩ different
    exact cleanupSlot_bay_of_ne script identified different

/-- `disk_leds_cleanup` leaves every reliable bay showing that it is idle. -/
theorem Displayed.cleanup
    (displayed : disks.Displayed script)
    (wellFormed : disks.WellFormed)
    {index : DiskIndex}
    (counted : index.val < disks.slotCount)
    (reliable : Reliable (script (bayLed index))) :
    ((disks.cleanup script).controller.slice (bayLed index)).Displays
      (bayPicture disks.config index
        { disks.slots index with active := false }) := by
  have sliced :=
    congrArg Bay.led (cleanup_bay script wellFormed index)
  rw [if_pos counted] at sliced
  have shown :=
    Bay.Displayed.cleanup reliable (displayed index counted reliable)
      fun active => (wellFormed.occupied index active).1
  rw [← sliced] at shown
  exact shown

end Callbacks

end DiskLeds

end UgreenLeds
