import UgreenLeds.DiskLedBays
import UgreenLeds.PartialRun

/-!
# When no bay's LED is stranded

An idle bay should show its steady mode, an empty one should be dark.  The
policy forgets a bay whether or not the commands that switch it arrived, so it
keeps this up exactly as long as they do: an activity event's blink is either
acknowledged or never executed, and the requests that restore a bay or program
a changed one reach the MCU.  The last theorem replays the run in which a
restore is lost: the bay keeps blinking and nothing is left to correct it.
-/

namespace UgreenLeds

namespace DiskLeds

open LedController
  (retriedScript retriedScript_goesThrough retriedScript_sleeps)

/-- Whether an idle slot's LED should be lit. -/
def steadyLit
    (config : Config)
    (slot : DiskSlot) : Bool :=
  slot.present && config.diskInvert

/-- The status an idle slot's LED should have. -/
def steadyStatus
    (config : Config)
    (slot : DiskSlot) : UInt8 :=
  if steadyLit config slot then statusOn else statusOff

/-- Programming a slot ends with switching its LED to the steady mode. -/
theorem programRequests_eq
    (config : Config)
    (index : DiskIndex)
    (slot : DiskSlot) :
    ∃ leading,
      programRequests config index slot =
        leading ++ [.onOff (steadyLit config slot)] := by
  cases present : slot.present with
  | true =>
      refine ⟨(steadyRequests config index).take 2, ?_⟩
      simp [programRequests, steadyRequests, steadyLit, present]
  | false =>
      exact ⟨[], by simp [programRequests, steadyLit, present]⟩

/-- Programming a slot switches its LED to no other mode. -/
theorem programRequests_switches
    (config : Config)
    (index : DiskIndex)
    (slot : DiskSlot) :
    ∀ request ∈ programRequests config index slot,
      request.command.register ≠ .display ∨
        request = .onOff (steadyLit config slot) := by
  intro request member
  cases present : slot.present with
  | true =>
      simp only [programRequests, present, ↓reduceIte, steadyRequests,
        List.mem_cons, List.not_mem_nil, or_false] at member
      rcases member with rfl | rfl | rfl
      · exact Or.inl (by simp [LedController.Request.command,
          Command.register])
      · exact Or.inl (by simp [LedController.Request.command,
          Command.register])
      · exact Or.inr (by simp [steadyLit, present])
  | false =>
      simp only [programRequests, present, Bool.false_eq_true,
        ↓reduceIte, List.mem_singleton] at member
      exact Or.inr (by simp [member, steadyLit, present])

namespace Bay

/-- An idle bay's LED shows its steady mode. -/
def Settled
    (config : Config)
    (bay : Bay) : Prop :=
  bay.slot.active = false →
    bay.led.device.status = steadyStatus config bay.slot

section Turns

variable
  {script : Script}
  {index : DiskIndex}
  (sleeps : SleepsOnlyInterrupted (script (bayLed index)))
  {config : Config}
  {bay : Bay}

include sleeps

/-- Expiring a bay keeps its cache coherent. -/
theorem expire_coherent
    (coherent : bay.led.Coherent)
    (now : UInt64) :
    (bay.expire script config now index).led.Coherent := by
  have after :=
    LedController.Slice.setAll_coherent sleeps
      (steadyRequests_fit config index) coherent
  simp only [expire]
  split
  · exact coherent
  · generalize
      bay.led.setAll (script (bayLed index))
        (steadyRequests config index) = result at after ⊢
    rcases result with ⟨error | done, led⟩
    · exact LedController.Slice.coherent_of_zero rfl
    · exact after

/-- Reprogramming a bay keeps its cache coherent. -/
theorem rescan_coherent
    (coherent : bay.led.Coherent)
    (discovery : Discovery) :
    (bay.rescan script config discovery index).led.Coherent := by
  simp only [rescan]
  split
  · exact coherent
  · exact
      LedController.Slice.setAll_coherent sleeps
        (programRequests_fit config index _)
        (LedController.Slice.coherent_of_zero rfl)

/-- A slot whose requests succeed has its LED in its steady mode. -/
theorem programmed_of_ok
    {led : LedController.Slice}
    (coherent : led.Coherent)
    (slot : DiskSlot)
    (succeeds :
      (led.setAll (script (bayLed index))
        (programRequests config index slot)).1 = .ok ()) :
    (led.setAll (script (bayLed index))
        (programRequests config index slot)).2.device.status =
      steadyStatus config slot := by
  have fit := programRequests_fit config index slot
  obtain ⟨leading, shape⟩ := programRequests_eq config index slot
  rw [shape] at succeeds fit ⊢
  exact
    LedController.Slice.setAll_attained sleeps fit coherent succeeds

/-- A slot whose requests arrive has its LED switched to its steady mode. -/
theorem programmed_of_arrives
    {led : LedController.Slice}
    (coherent : led.Coherent)
    (slot : DiskSlot)
    (arrives :
      LedController.Slice.Arrives (script (bayLed index))
        led.cache led.served (programRequests config index slot)) :
    (led.setAll (script (bayLed index))
        (programRequests config index slot)).2.device.status =
      steadyStatus config slot := by
  have fit := programRequests_fit config index slot
  obtain ⟨leading, shape⟩ := programRequests_eq config index slot
  rw [shape] at arrives fit ⊢
  exact
    LedController.Slice.setAll_attained_of_arrives sleeps fit coherent
      arrives

/-- An expired bay whose restore arrives is settled. -/
theorem expire_settled
    (coherent : bay.led.Coherent)
    (occupied : bay.slot.active = true → bay.slot.present = true)
    (settled : bay.Settled config)
    {now : UInt64}
    (arrives :
      bay.slot.active = true →
      bay.slot.deadlineNs ≤ now →
      LedController.Slice.Arrives (script (bayLed index))
        bay.led.cache bay.led.served (steadyRequests config index)) :
    (bay.expire script config now index).Settled config := by
  by_cases waits : !bay.slot.active ∨ bay.slot.deadlineNs > now
  · rw [expire, if_pos waits]
    exact settled
  · obtain ⟨isActive, isDue⟩ := not_or.mp waits
    have active : bay.slot.active = true := by simpa using isActive
    have due : bay.slot.deadlineNs ≤ now := UInt64.not_lt.mp isDue
    have asSteady :
        steadyRequests config index =
          programRequests config index bay.slot := by
      simp [programRequests, occupied active]
    have shown :=
      programmed_of_arrives sleeps coherent bay.slot
        (asSteady ▸ arrives active due)
    rw [expire, if_neg waits, asSteady]
    intro _
    generalize
      bay.led.setAll (script (bayLed index))
        (programRequests config index bay.slot) = result at shown ⊢
    rcases result with ⟨error | done, led⟩
    · exact shown
    · exact shown

/-- A reprogrammed bay whose LED already was, or now is, right is settled. -/
theorem rescan_settled
    (settled : bay.Settled config)
    {discovery : Discovery}
    (arrives :
      ¬ (bay.slot.present = (foundSlot discovery index).present ∧
          bay.slot.dev = (foundSlot discovery index).dev) →
      bay.led.device.status =
          steadyStatus config (foundSlot discovery index) ∨
        LedController.Slice.Arrives (script (bayLed index))
          .zero bay.led.served
          (programRequests config index
            (foundSlot discovery index))) :
    (bay.rescan script config discovery index).Settled config := by
  by_cases same :
      bay.slot.present = (foundSlot discovery index).present ∧
        bay.slot.dev = (foundSlot discovery index).dev
  · rw [rescan, if_pos same]
    exact settled
  · rw [rescan, if_neg same]
    intro _
    rcases arrives same with already | arriving
    · rcases LedController.Slice.setAll_status_cases sleeps
          (programRequests_switches config index
            (foundSlot discovery index)) bay.led.invalidate with
        unchanged | switched
      · exact unchanged.trans already
      · exact switched
    · exact
        programmed_of_arrives sleeps
          (LedController.Slice.coherent_of_zero rfl) _ arriving

end Turns

end Bay

/-- Every bay's cache is coherent and every idle bay is settled. -/
structure Kept (disks : DiskLeds) : Prop extends WellFormed disks where
  coherent :
    ∀ index, (disks.bay index).led.Coherent
  settled :
    ∀ index,
      index.val < disks.slotCount →
      (disks.bay index).Settled disks.config

/-- The commands a callback sends arrive where they have to. -/
def Delivered
    (script : Script)
    (disks : DiskLeds) :
    Event → Prop
  | .activity ledId _ _ =>
      ∀ index,
        ledId = diskLedId index →
        index.val < disks.slotCount →
        (disks.slots index).present = true →
        (disks.slots index).active = false →
        let led := (disks.bay index).led
        (blinkRequest disks.config).cached led.cache = true ∨
          GoesThrough (script (bayLed index) led.served)
            commandRetryCount ∨
          NeverApplied (script (bayLed index) led.served)
            commandRetryCount
  | .timer clock read _ =>
      (∀ error, read = some error → error = .eagain) →
      ∀ index,
        index.val < disks.slotCount →
        (disks.slots index).active = true →
        (disks.slots index).deadlineNs ≤ monotonicNs clock →
        LedController.Slice.Arrives (script (bayLed index))
          (disks.bay index).led.cache (disks.bay index).led.served
          (steadyRequests disks.config index)
  | .rescan (.error _) =>
      True
  | .rescan (.ok discovery) =>
      ∀ index,
        index.val < disks.slotCount →
        ¬ ((disks.slots index).present =
              (foundSlot discovery index).present ∧
            (disks.slots index).dev =
              (foundSlot discovery index).dev) →
        (disks.bay index).led.device.status =
            steadyStatus disks.config (foundSlot discovery index) ∨
          LedController.Slice.Arrives (script (bayLed index))
            .zero (disks.bay index).led.served
            (programRequests disks.config index
              (foundSlot discovery index))

section Steps

variable
  {script : Script}
  (sleeps : ∀ led, SleepsOnlyInterrupted (script led))
  {disks : DiskLeds}
  (kept : disks.Kept)

include kept

/-- A table in which only one bay has changed keeps the others. -/
theorem Kept.of_bay
    {after : DiskLeds}
    (wellFormed : after.WellFormed)
    (sameCount : after.slotCount = disks.slotCount)
    (sameConfig : after.config = disks.config)
    (index : DiskIndex)
    (others :
      ∀ other, other ≠ index → after.bay other = disks.bay other)
    (coherent : (after.bay index).led.Coherent)
    (settled : (after.bay index).Settled disks.config) :
    after.Kept := by
  refine ⟨wellFormed, ?_, ?_⟩
  · intro other
    by_cases isIndex : other = index
    · subst isIndex
      exact coherent
    · rw [others other isIndex]
      exact kept.coherent other
  · intro other counted
    rw [sameCount] at counted
    rw [sameConfig]
    by_cases isIndex : other = index
    · subst isIndex
      exact settled
    · rw [others other isIndex]
      exact kept.settled other counted

/-- Arming the timer keeps the bays. -/
theorem Kept.armTimer (settime : Option Errno) :
    (disks.armTimer settime).2.Kept :=
  ⟨⟨kept.identified, kept.occupied⟩, kept.coherent, kept.settled⟩

section Activity

variable
  {index : DiskIndex}
  (counted : index.val < disks.slotCount)
  (present : (disks.slots index).present = true)
  (clock : Option MonotonicTime)

include counted present

/-- Extending an active bay's deadline keeps the bays. -/
theorem Kept.extend (active : (disks.slots index).active = true) :
    (disks.extend index clock).Kept := by
  refine kept.of_bay ?_ rfl rfl index ?_ ?_ ?_
  · refine
      kept.toWellFormed.move counted present rfl true
        (monotonicNs clock + disks.config.diskHoldNs) ?_ ?_
    · simp [DiskLeds.extend, active]
    · intro other different
      simp [DiskLeds.extend, different]
  · intro other different
    exact bay_setSlot_of_ne different _
  · simpa [DiskLeds.extend] using kept.coherent index
  · intro idle
    simp [DiskLeds.extend, bay, active] at idle

include sleeps

/-- A failed blink that the MCU has not executed leaves its bay settled. -/
theorem Kept.forget
    (inactive : (disks.slots index).active = false)
    (delivered :
      (blinkRequest disks.config).cached (disks.bay index).led.cache =
          true ∨
        GoesThrough
          (script (bayLed index) (disks.bay index).led.served)
          commandRetryCount ∨
        NeverApplied
          (script (bayLed index) (disks.bay index).led.served)
          commandRetryCount)
    {error : Errno}
    {controller : LedController}
    (started :
      disks.startBlink script index = (.error error, controller)) :
    Kept
      { disks.extend index clock with
        controller := controller.invalidate (diskLedId index) } := by
  have forgotten :=
    LedController.slice_invalidate_self controller
      (ledIndex?_diskLedId index)
  refine kept.of_bay ?_ rfl rfl index ?_ ?_ ?_
  · refine
      kept.toWellFormed.move counted present rfl false
        (monotonicNs clock + disks.config.diskHoldNs) ?_ ?_
    · simp [DiskLeds.extend, inactive]
    · intro other different
      simp [DiskLeds.extend, different]
  · intro other different
    have untouched :
        (disks.startBlink script index).2.slice (bayLed other) =
          disks.controller.slice (bayLed other) :=
      startBlink_slice_of_ne script different
    rw [started] at untouched
    refine Bay.ext ?_ ?_
    · simp [bay, DiskLeds.extend, different]
    · exact
        (LedController.slice_invalidate_of_ne controller
          (ledIndex?_diskLedId_ne different)).trans untouched
  · simp only [bay, forgotten]
    exact LedController.Slice.coherent_of_zero rfl
  · intro _
    have missed :
        (disks.bay index).led.set (script (bayLed index))
            (blinkRequest disks.config) =
          (.error error, controller.slice (bayLed index)) := by
      rw [← startBlink_slice script index, started]
    have device :=
      LedController.Slice.set_device_of_failed (sleeps (bayLed index))
        delivered (by simp [missed])
    have settled := kept.settled index counted inactive
    rw [missed] at device
    simp only [steadyStatus, steadyLit] at settled
    simp only [bay, forgotten, LedController.Slice.invalidate,
      DiskLeds.extend, setSlot_self, steadyStatus, steadyLit]
    exact (congrArg McuLed.status device).trans settled

/-- A started blink makes its bay active. -/
theorem Kept.activate
    {controller : LedController}
    (started :
      disks.startBlink script index = (.ok (), controller)) :
    Kept
      ({ disks.extend index clock with controller }.setSlot index
        { (disks.extend index clock).slots index with
          active := true }) := by
  refine kept.of_bay ?_ rfl rfl index ?_ ?_ ?_
  · refine
      kept.toWellFormed.move counted present rfl true
        (monotonicNs clock + disks.config.diskHoldNs) ?_ ?_
    · simp [DiskLeds.extend]
    · intro other different
      simp [DiskLeds.extend, different]
  · intro other different
    have untouched :
        (disks.startBlink script index).2.slice (bayLed other) =
          disks.controller.slice (bayLed other) :=
      startBlink_slice_of_ne script different
    rw [started] at untouched
    refine Bay.ext ?_ untouched
    simp [bay, DiskLeds.extend, different]
  · have coherent :=
      LedController.Slice.set_coherent (sleeps (bayLed index))
        (blinkRequest_fits disks.config) (kept.coherent index)
    rw [← startBlink_slice script index, started] at coherent
    exact coherent
  · intro idle
    simp [bay] at idle

end Activity

include sleeps

/-- An activity event whose blink is not half delivered keeps the bays. -/
theorem Kept.activity
    (ledId : UInt8)
    (clock : Option MonotonicTime)
    (settime : Option Errno)
    (delivered :
      Delivered script disks (.activity ledId clock settime)) :
    (handleActivity script disks ledId clock settime).2.Kept := by
  rcases handleActivity_cases script disks ledId clock settime with
      ⟨unchanged, -⟩ | ⟨index, same, counted, present, handled⟩
  · rw [unchanged]
    exact kept
  · subst same
    rcases handled with
        ⟨active, extended⟩ |
          ⟨inactive, error, controller, started, failed⟩ |
          ⟨inactive, controller, started, blinking⟩
    · rw [extended]
      exact (kept.extend counted present clock active).armTimer settime
    · rw [failed]
      exact
        kept.forget sleeps counted present clock inactive
          (delivered index rfl counted present inactive) started
    · rw [blinking]
      exact
        (kept.activate sleeps counted present clock started).armTimer
          settime

/-- A timer callback whose restores arrive keeps the bays. -/
theorem Kept.expire
    (clock : Option MonotonicTime)
    (read settime : Option Errno)
    (delivered :
      Delivered script disks (.timer clock read settime)) :
    (handleTimer script disks clock read settime).2.Kept := by
  by_cases regular : ∀ error, read = some error → error = .eagain
  · obtain ⟨timer, same⟩ :=
      handleTimer_eq script disks clock regular settime
    have unread : Kept { disks with timer } :=
      ⟨⟨kept.identified, kept.occupied⟩, kept.coherent, kept.settled⟩
    have wellFormed :=
      unread.toWellFormed.expireAll script (monotonicNs clock)
    rw [same]
    refine ⟨⟨wellFormed.identified, wellFormed.occupied⟩, ?_, ?_⟩
    · intro index
      rw [bay_armTimer,
        expireAll_bay script _ unread.toWellFormed]
      split
      · exact Bay.expire_coherent (sleeps _) (unread.coherent index) _
      · exact unread.coherent index
    · intro index counted
      rw [armTimer_slotCount, expireAll_slotCount] at counted
      rw [bay_armTimer, armTimer_config, expireAll_config,
        expireAll_bay script _ unread.toWellFormed, if_pos counted]
      refine
        Bay.expire_settled (sleeps _) (unread.coherent index)
          (fun active => (unread.occupied index active).1)
          (unread.settled index counted) ?_
      intro active due
      exact delivered regular index counted active due
  · have unchanged :
        (handleTimer script disks clock read settime).2 = disks := by
      simp only [not_forall] at regular
      obtain ⟨error, failed, isOther⟩ := regular
      subst failed
      simp [handleTimer, Timerfd.read, isOther]
    rw [unchanged]
    exact kept

/-- A rescan whose programming arrives keeps the bays. -/
theorem Kept.rescan
    (discovery : Except Errno Discovery)
    (delivered : Delivered script disks (.rescan discovery)) :
    (DiskLeds.rescan script disks discovery).2.Kept := by
  cases discovery with
  | error error =>
      exact kept
  | ok discovery =>
      refine
        ⟨kept.toWellFormed.rescan script (.ok discovery), ?_, ?_⟩
      · intro index
        rw [rescan_bay]
        split
        · exact
            Bay.rescan_coherent (sleeps _) (kept.coherent index) discovery
        · exact kept.coherent index
      · intro index counted
        rw [rescan_slotCount] at counted
        rw [rescan_config, rescan_bay, if_pos counted]
        exact
          Bay.rescan_settled (sleeps _) (kept.settled index counted)
            (delivered index counted)

/-- A callback whose commands arrive keeps the bays. -/
theorem Kept.handle
    (event : Event)
    (delivered : Delivered script disks event) :
    (disks.handle script event).2.Kept := by
  cases event with
  | activity ledId clock settime =>
      exact kept.activity sleeps ledId clock settime delivered
  | timer clock read settime =>
      exact kept.expire sleeps clock read settime delivered
  | rescan discovery =>
      exact kept.rescan sleeps discovery delivered

end Steps

/-- An `init` that returns `0` leaves every bay settled. -/
theorem init_kept
    {script : Script}
    (sleeps : ∀ led, SleepsOnlyInterrupted (script led))
    {controller : LedController}
    (coherent : controller.Coherent)
    {config : Config}
    {productName : List UInt8}
    {reports : Discovery}
    (succeeds :
      (init script controller config productName (.ok reports)).1 =
        .ok ()) :
    (init script controller config productName (.ok reports)).2.Kept := by
  have zeroed :=
    zeroed_wellFormed controller config productName
  refine ⟨zeroed.rescan script (.ok reports), ?_, ?_⟩
  · intro index
    simp only [init, rescan_bay]
    split
    · exact
        Bay.rescan_coherent (sleeps _) (coherent (bayLed index)) reports
    · exact coherent (bayLed index)
  · intro index counted
    have changed :
        ¬ (((DiskLeds.zeroed controller config productName).slots
                index).present =
              (foundSlot reports index).present ∧
            ((DiskLeds.zeroed controller config productName).slots
                index).dev =
              (foundSlot reports index).dev) := by
      simp only [DiskLeds.zeroed, foundSlot]
      cases reports index with
      | none =>
          simp
      | some dev =>
          simp
    simp only [init, rescan_slotCount] at counted
    have programmed :=
      reprogrammed_of_rescan script _ succeeds counted changed
    simp only [init, rescan_bay, rescan_config, if_pos counted]
    intro _
    have changedBay :
        ¬ (((DiskLeds.zeroed controller config productName).bay
                index).slot.present =
              (foundSlot reports index).present ∧
            ((DiskLeds.zeroed controller config productName).bay
                index).slot.dev =
              (foundSlot reports index).dev) :=
      changed
    simp only [Bay.rescan, if_neg changedBay]
    exact
      Bay.programmed_of_ok (sleeps _)
        (LedController.Slice.coherent_of_zero rfl) _ programmed

/-- The disk policy and what a scan of sysfs would find at the moment. -/
structure World where
  disks : DiskLeds
  reports : Discovery

namespace World

/-- A callback, or a change of what a scan would find. -/
inductive Event where
  | plug (reports : Discovery)
  | callback (event : DiskLeds.Event)

/-- A scan that works finds what is there. -/
def Finds
    (world : World) :
    DiskLeds.Event → Prop
  | .rescan (.ok discovery) =>
      discovery = world.reports
  | _ =>
      True

instance (world : World) (event : DiskLeds.Event) :
    Decidable (world.Finds event) :=
  match event with
  | .rescan (.ok discovery) =>
      inferInstanceAs (Decidable (discovery = world.reports))
  | .rescan (.error _) | .activity .. | .timer .. =>
      .isTrue trivial

/-- One event as a step of a run. -/
def step
    (script : Script)
    (world : World) :
    Event → Option World
  | .plug reports =>
      some { world with reports }
  | .callback event =>
      if world.Finds event then
        some
          { world with
            disks := (world.disks.handle script event).2 }
      else
        none

/--
Something will still correct a bay: the timer is armed for its deadline, or the
recorded slot differs from what the next rescan would find.
-/
def RetryPending
    (world : World)
    (index : DiskIndex) : Prop :=
  world.disks.timer =
      some (.ofNs (world.disks.slots index).deadlineNs.toNat) ∨
    ¬ ((world.disks.slots index).present =
          (foundSlot world.reports index).present ∧
        (world.disks.slots index).dev =
          (foundSlot world.reports index).dev)

/-- Every idle bay shows its steady mode or is still to be corrected. -/
def NoneStranded (world : World) : Prop :=
  ∀ index,
    index.val < world.disks.slotCount →
    (world.disks.slots index).active = false →
    (world.disks.controller.bus.mcu (bayLed index)).status =
        steadyStatus world.disks.config (world.disks.slots index) ∨
      world.RetryPending index

/-- The commands an event's callback sends arrive where they have to. -/
def Delivered
    (script : Script)
    (world : World) :
    Event → Prop
  | .plug _ =>
      True
  | .callback event =>
      DiskLeds.Delivered script world.disks event

end World

/--
After an `init` that returned `0`, no bay is stranded in any state of a run
whose callbacks' commands all arrive where they have to.
-/
theorem none_stranded_of_delivered
    {script : Script}
    (sleeps : ∀ led, SleepsOnlyInterrupted (script led))
    {mcu : LedIndex → McuLed}
    {calls : List LedController.Call}
    {controller : LedController}
    (opened :
      PartialRun.run? (LedController.step script) (.initial mcu) calls =
        some controller)
    {config : Config}
    {productName : List UInt8}
    {reports : Discovery}
    (initialised :
      (init script controller config productName (.ok reports)).1 =
        .ok ())
    {events : List World.Event}
    (delivered :
      PartialRun.Along (World.step script) (World.Delivered script)
        ⟨(init script controller config productName
            (.ok reports)).2, reports⟩
        events) :
    PartialRun.Always (World.step script) World.NoneStranded
      ⟨(init script controller config productName (.ok reports)).2,
        reports⟩
      events := by
  have start :=
    init_kept sleeps
      (LedController.run_coherent sleeps opened) initialised
  have always :
      PartialRun.Always (World.step script)
        (fun world => world.disks.Kept)
        ⟨(init script controller config productName (.ok reports)).2,
          reports⟩
        events := by
    refine PartialRun.always_of_along ?_ start delivered
    intro world event next kept arrives taken
    cases event with
    | plug reports =>
        cases taken
        exact kept
    | callback event =>
        simp only [World.step] at taken
        split at taken
        · cases taken
          exact kept.handle sleeps event arrives
        · cases taken
  refine always.mono ?_
  intro world kept index counted idle
  exact Or.inl (kept.settled index counted idle)

/-- The disk of the first bay blinks, is restored, and is pulled. -/
def pulledDisk : List World.Event :=
  [.callback (.activity 2 (some ⟨1000, by decide⟩) none),
    .callback (.timer (some ⟨400000000, by decide⟩) none none),
    .plug fun _ => none,
    .callback (.rescan (.ok fun _ => none))]

/-- A disk in the first bay. -/
def firstBay : Discovery :=
  fun index => if index = 0 then some 8388608 else none

/-- Every LED is dark. -/
def darkMcu : LedIndex → McuLed :=
  fun _ => ⟨statusOff, 0, ⟨0, 0, 0⟩, 0, 0⟩

/-- Under `retriedScript` the commands of every callback arrive. -/
theorem delivered_retriedScript
    (world : World)
    (event : World.Event) :
    world.Delivered retriedScript event := by
  have through := retriedScript_goesThrough
  cases event with
  | plug reports =>
      trivial
  | callback event =>
      cases event with
      | activity ledId clock settime =>
          exact fun _ _ _ _ _ => Or.inr (Or.inl (through _ _))
      | timer clock read settime =>
          exact
            fun _ _ _ _ _ =>
              LedController.Slice.Arrives.of_goesThrough
                (through _) _ _ _
      | rescan discovery =>
          cases discovery with
          | error error =>
              trivial
          | ok discovery =>
              exact
                fun _ _ _ =>
                  Or.inr
                    (LedController.Slice.Arrives.of_goesThrough
                      (through _) _ _ _)

/-- No bay is stranded although every command needs three attempts. -/
theorem none_stranded_after_retries :
    PartialRun.Always (World.step retriedScript) World.NoneStranded
      ⟨(init retriedScript (.initial darkMcu) .defaults
          (ascii "DXP2800") (.ok firstBay)).2, firstBay⟩
      pulledDisk := by
  have arrives :
      ∀ world event, World.Delivered retriedScript world event :=
    delivered_retriedScript
  have opened :
      PartialRun.run? (LedController.step retriedScript)
          (.initial darkMcu) [] =
        some (.initial darkMcu) :=
    rfl
  exact
    none_stranded_of_delivered retriedScript_sleeps opened rfl
      ⟨arrives _ _, fun _ _ => ⟨arrives _ _, fun _ _ =>
        ⟨arrives _ _, fun _ _ => ⟨arrives _ _, fun _ _ => trivial⟩⟩⟩⟩

/-- The fifth command to each LED is lost, with all its retries. -/
def restoreLostScript : Script :=
  fun _ position _ =>
    if position = 4 then .unanswered false else .accepted

/-- The first bay's disk is active and then idle. -/
def oneBurst : List World.Event :=
  [.callback (.activity 2 (some ⟨1000, by decide⟩) none),
    .callback (.timer (some ⟨400000000, by decide⟩) none none)]

/-- A restore whose last command is lost leaves its bay blinking for good. -/
theorem restore_lost_strands :
    ¬ ∀ (script : Script)
        (mcu : LedIndex → McuLed)
        (config : Config)
        (productName : List UInt8)
        (reports : Discovery)
        (events : List World.Event),
      (∀ led, SleepsOnlyInterrupted (script led)) →
      (init script (.initial mcu) config productName
          (.ok reports)).1 = .ok () →
      PartialRun.Always (World.step script) World.NoneStranded
        ⟨(init script (.initial mcu) config productName
            (.ok reports)).2, reports⟩
        events := by
  intro claim
  have sleeps :
      ∀ led, SleepsOnlyInterrupted (restoreLostScript led) := by
    intro led command attempt
    unfold restoreLostScript
    split <;> exact ⟨rfl, rfl⟩
  have visited :=
    claim restoreLostScript darkMcu .defaults (ascii "DXP2800") firstBay
      oneBurst sleeps rfl
  have unstranded := (visited.2 _ rfl).2 _ rfl
  rcases unstranded 0 (by decide) rfl with shown | armed | differs
  · exact absurd shown (by decide)
  · exact absurd armed (by decide)
  · exact differs ⟨rfl, rfl⟩

end DiskLeds

end UgreenLeds
