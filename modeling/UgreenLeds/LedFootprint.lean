import UgreenLeds.DiskLedBays
import UgreenLeds.DiskUevent
import UgreenLeds.Footprint
import UgreenLeds.NetworkLedStranding
import UgreenLeds.PowerLed

/-!
# Which LEDs the policies touch

A setter touches the LED it is called for: no other cache entry or record
changes, and every frame carries a command for that LED.  A callback of the
network policy therefore touches the network LED only, and one of the disk policy
only bays of the chassis, because every slot keeps its bay's identifier.
-/

namespace UgreenLeds

open Footprint (View Touches)

namespace LedController

/-- A controller by LED: the slices, the frames, and whom they command. -/
def ledView : View LedController LedIndex Slice Frame where
  entry := slice
  log := fun controller => controller.bus.sent
  address := fun frame => frame.decode?.map Prod.fst

/-- Only owned LEDs are touched between two states of the controller. -/
abbrev TouchesOnly
    (Own : LedIndex → Prop)
    (before after : LedController) : Prop :=
  Touches ledView Own before after

@[simp] theorem bus_invalidate
    (controller : LedController)
    (ledId : UInt8) :
    (controller.invalidate ledId).bus = controller.bus := by
  unfold invalidate
  split <;> rfl

/-- `change_status` transmits its frame as often as its loop does. -/
theorem changeStatus_transmits
    (script : Script)
    (controller : LedController)
    {ledId code p0 p1 p2 p3 : UInt8}
    {led : LedIndex}
    (addressed : ledIndex? ledId = some led) :
    (controller.changeStatus script ledId
        code p0 p1 p2 p3).2.bus.sent =
      controller.bus.sent ++
        List.replicate
          (RetryLoop.transmissions
            ((controller.slice led).answers (script led))
            commandRetryCount 0)
          (changeStatusFrame ledId code p0 p1 p2 p3) := by
  have transmitted :=
    controller.bus.command_sent script answer commandRetryCount led
      (changeStatusFrame ledId code p0 p1 p2 p3) Errno.eio
  refine Eq.trans ?_ transmitted
  simp only [changeStatus, addressed]
  rcases controller.bus.command script answer commandRetryCount led
      (changeStatusFrame ledId code p0 p1 p2 p3) Errno.eio with
    ⟨outcome, bus⟩
  cases outcome <;> simp

/-- A request that the cache does not show transmits that often. -/
theorem setThrough_transmits
    (script : Script)
    (controller : LedController)
    {ledId code p0 p1 p2 p3 : UInt8}
    {led : LedIndex}
    (addressed : ledIndex? ledId = some led)
    {cached : LedCache → Bool}
    (notCached : cached (controller.cache led) = false)
    (record : LedCache → LedCache) :
    (controller.setThrough script ledId cached
        code p0 p1 p2 p3 record).2.bus.sent =
      controller.bus.sent ++
        List.replicate
          (RetryLoop.transmissions
            ((controller.slice led).answers (script led))
            commandRetryCount 0)
          (changeStatusFrame ledId code p0 p1 p2 p3) := by
  refine Eq.trans ?_ (changeStatus_transmits script controller addressed)
  simp only [setThrough, addressed, notCached, Bool.false_eq_true,
    ↓reduceIte]
  rcases controller.changeStatus script ledId code p0 p1 p2 p3
    with ⟨error | done, after⟩ <;> rfl

/-- The common body of the setters transmits no other frame. -/
theorem setThrough_sent
    (script : Script)
    (controller : LedController)
    {ledId code p0 p1 p2 p3 : UInt8}
    {led : LedIndex}
    (addressed : ledIndex? ledId = some led)
    (cached : LedCache → Bool)
    (record : LedCache → LedCache) :
    ∃ count,
      (controller.setThrough script ledId cached
          code p0 p1 p2 p3 record).2.bus.sent =
        controller.bus.sent ++
          List.replicate count
            (changeStatusFrame ledId code p0 p1 p2 p3) := by
  cases shown : cached (controller.cache led) with
  | true =>
      exact ⟨0, by simp [setThrough, addressed, shown]⟩
  | false =>
      exact
        ⟨_, setThrough_transmits script controller addressed shown
          record⟩

section Touches

variable
  (script : Script)
  (controller : LedController)
  {ledId : UInt8}
  {led : LedIndex}
  (addressed : ledIndex? ledId = some led)

include addressed

/-- A setter touches the LED it is called for. -/
theorem set_touches (request : Request) :
    TouchesOnly (· = led) controller
      (controller.set script ledId request).2 where
  sent := by
    by_cases fits : request.Fits
    · obtain ⟨code, p0, p1, p2, p3, decoded, same⟩ :=
        set_eq_setThrough script controller fits
      obtain ⟨count, sent⟩ :=
        setThrough_sent script controller addressed
          request.cached request.record
      rw [same]
      refine ⟨_, sent, ?_⟩
      intro frame member
      rw [List.eq_of_mem_replicate member]
      refine ⟨led, ?_, rfl⟩
      simp only [ledView,
        changeStatusFrame_decode? addressed decoded, Option.map_some]
    · rw [set_overlong script controller fits]
      exact (Footprint.Touches.refl controller).sent
  kept := by
    intro other different
    exact set_of_ne script controller addressed different request

/-- Invalidation touches the LED it is called for. -/
theorem invalidate_touches :
    TouchesOnly (· = led) controller
      (controller.invalidate ledId) where
  sent := ⟨[], by simp [ledView]⟩
  kept := by
    intro other different
    refine slice_invalidate_of_ne controller ?_
    intro isOther
    rw [addressed] at isOther
    exact different (Option.some.inj isOther).symm

/-- A list of requests touches the LED it is for. -/
theorem setAll_touches (requests : List Request) :
    TouchesOnly (· = led) controller
      (controller.setAll script ledId requests).2 := by
  induction requests generalizing controller with
  | nil =>
      exact Footprint.Touches.refl controller
  | cons request rest inductionHypothesis =>
      have first :=
        set_touches script controller addressed request
      simp only [setAll]
      generalize controller.set script ledId request = result at first ⊢
      rcases result with ⟨error | done, sent⟩
      · exact first
      · exact first.trans (inductionHypothesis sent)

end Touches

end LedController

open LedController
  (TouchesOnly set_touches invalidate_touches setAll_touches)

/-- The LED of the power policy. -/
def powerLed : LedIndex :=
  ⟨0, by decide⟩

/-- The policy's identifier denotes its LED. -/
theorem ledIndex?_ledPower : ledIndex? ledPower = some powerLed :=
  rfl

/-- What `power_led_apply` asks of the power LED. -/
def powerRequests (config : ConfigData) : List LedController.Request :=
  [.color config.powerColor,
    .brightness config.powerBrightness.toUInt8,
    match config.powerMode with
    | .on =>
        .onOff true
    | .blink =>
        .blink config.powerOnMs.toUInt16 config.powerOffMs.toUInt16
          false
    | .breath =>
        .blink config.powerOnMs.toUInt16 config.powerOffMs.toUInt16
          true]

/-- `power_led_apply` sends its three requests until one of them fails. -/
theorem powerLedApply_eq
    (script : Script)
    (controller : LedController)
    (config : ConfigData) :
    powerLedApply script controller config =
      controller.setAll script ledPower (powerRequests config) := by
  simp only [powerLedApply, powerRequests, LedController.setAll,
    LedController.set]
  rcases controller.setColor script ledPower config.powerColor with
    ⟨error | done, colored⟩
  · rfl
  · simp only
    rcases colored.setBrightness script ledPower
        config.powerBrightness.toUInt8 with
      ⟨error | done, dimmed⟩
    · rfl
    · cases config.powerMode with
      | on =>
          simp only
          rcases dimmed.setOn script ledPower true with
            ⟨error | done, after⟩ <;> rfl
      | blink =>
          simp only
          rcases dimmed.setBlink script ledPower
              config.powerOnMs.toUInt16 config.powerOffMs.toUInt16
              false with
            ⟨error | done, after⟩ <;> rfl
      | breath =>
          simp only
          rcases dimmed.setBlink script ledPower
              config.powerOnMs.toUInt16 config.powerOffMs.toUInt16
              true with
            ⟨error | done, after⟩ <;> rfl

/-- `power_led_apply` touches the power LED. -/
theorem powerLedApply_touches
    (script : Script)
    (controller : LedController)
    (config : ConfigData) :
    TouchesOnly (· = powerLed) controller
      (powerLedApply script controller config).2 := by
  rw [powerLedApply_eq]
  exact setAll_touches script controller ledIndex?_ledPower _

namespace NetworkLed

section Touches

variable (script : Script)

/-- Switching the network LED touches it. -/
theorem setOn_touches
    (controller : LedController)
    (on : Bool) :
    TouchesOnly (· = networkLed) controller
      (controller.setOn script ledNetwork on).2 :=
  set_touches script controller ledIndex?_ledNetwork (.onOff on)

/-- Invalidating the network LED touches it. -/
theorem forget_touches (controller : LedController) :
    TouchesOnly (· = networkLed) controller
      (controller.invalidate ledNetwork) :=
  invalidate_touches controller ledIndex?_ledNetwork

/-- Starting a pulse touches the network LED. -/
theorem startPulse_touches
    (controller : LedController)
    (color : Rgb) :
    TouchesOnly (· = networkLed) controller
      (startPulse script controller color).2 := by
  rw [startPulse_eq]
  exact
    setAll_touches script controller ledIndex?_ledNetwork _

variable
  {Credit : Type}
  (network : NetworkLed Credit)

/-- Ending a pulse touches the network LED. -/
theorem finishPulse_touches :
    TouchesOnly (· = networkLed) network.controller
      (network.finishPulse script).controller := by
  have switched := setOn_touches script network.controller false
  simp only [finishPulse]
  generalize
    network.controller.setOn script ledNetwork false = result
      at switched ⊢
  rcases result with ⟨error | done, controller⟩
  · exact switched.trans (forget_touches controller)
  · exact switched

/-- `network_led_cleanup` touches the network LED. -/
theorem cleanup_touches :
    TouchesOnly (· = networkLed) network.controller
      (network.cleanup script).controller :=
  setOn_touches script network.controller false

variable [NatCast Credit]

/-- `network_led_init` touches the network LED. -/
theorem init_touches
    (controller : LedController)
    (config : Config) :
    TouchesOnly (· = networkLed) controller
      (init script controller config :
        Status × NetworkLed Credit).2.controller := by
  have dims : TouchesOnly (· = networkLed) controller
      (controller.setBrightness script ledNetwork
        config.networkBrightness.toUInt8).2 :=
    set_touches script controller ledIndex?_ledNetwork
      (.brightness config.networkBrightness.toUInt8)
  simp only [init]
  generalize
    controller.setBrightness script ledNetwork
      config.networkBrightness.toUInt8 = result at dims ⊢
  rcases result with ⟨error | done, dimmed⟩
  · exact dims
  · exact dims.trans (setOn_touches script dimmed false)

variable
  [Add Credit] [Sub Credit] [Div Credit]
  [LE Credit] [DecidableLE Credit]

/-- `network_led_render` touches the network LED. -/
theorem render_touches (settime : Option Errno) :
    TouchesOnly (· = networkLed) network.controller
      (network.render script settime).2.controller := by
  have pulse :=
    startPulse_touches script network.controller network.pulseColor
  rcases render_cases script network settime with
      ⟨unchanged, -⟩ | ⟨-, -, outcome⟩
  · rw [unchanged]
    exact Footprint.Touches.refl network.controller
  · rcases outcome with
        ⟨error, controller, started, dropped⟩ |
          ⟨controller, started, -, lit⟩ |
          ⟨error, controller, started, -, failed⟩
    · rw [started] at pulse
      rw [dropped]
      exact pulse.trans (forget_touches controller)
    · rw [started] at pulse
      rw [lit]
      exact pulse
    · rw [started] at pulse
      rw [failed]
      exact pulse.trans (setOn_touches script controller false)

/-- `network_led_handle_timer` touches the network LED. -/
theorem handleTimer_touches (read settime : Option Errno) :
    TouchesOnly (· = networkLed) network.controller
      (network.handleTimer script read settime).2.controller := by
  rcases handleTimer_cases script network read settime with
      ⟨error, -, -, failed⟩ |
        ⟨-, timer, ⟨-, unchanged⟩ | ⟨-, finished⟩⟩
  · rw [failed]
    exact Footprint.Touches.refl network.controller
  · rw [unchanged]
    exact Footprint.Touches.refl network.controller
  · rw [finished]
    exact
      (finishPulse_touches script { network with timer }).trans
        (render_touches script _ settime)

end Touches

end NetworkLed

/-- The LEDs of the bays of a chassis. -/
def CountedBay
    (slotCount : Nat)
    (led : LedIndex) : Prop :=
  ∃ index : DiskIndex, index.val < slotCount ∧ led = bayLed index

namespace DiskLeds

section Touches

variable
  (script : Script)
  {disks : DiskLeds}

/-- Touching the LED of a bay of the chassis touches its bays. -/
theorem counted_of_bay
    {index : DiskIndex}
    (counted : index.val < disks.slotCount)
    {before after : LedController}
    (touches : TouchesOnly (· = bayLed index) before after) :
    TouchesOnly (CountedBay disks.slotCount) before after :=
  touches.mono fun _ isBay => ⟨index, counted, isBay⟩

/-- A steady bay touches the bay's LED. -/
theorem setSteady_touches
    (config : Config)
    (controller : LedController)
    {index : DiskIndex}
    {slot : DiskSlot}
    (identified : slot.ledId = diskLedId index) :
    TouchesOnly (· = bayLed index) controller
      (setSteady script config controller slot).2 := by
  rw [setSteady_eq script config controller identified]
  exact
    setAll_touches script controller (ledIndex?_diskLedId index) _

/-- One pass through the timer's loop touches the bay's LED. -/
theorem expireSlot_touches
    {index : DiskIndex}
    (identified : (disks.slots index).ledId = diskLedId index)
    (now : UInt64) :
    TouchesOnly (· = bayLed index) disks.controller
      (expireSlot script now disks index).controller := by
  have steady :=
    setSteady_touches script disks.config disks.controller identified
  simp only [expireSlot]
  split
  · exact Footprint.Touches.refl disks.controller
  · generalize
      setSteady script disks.config disks.controller
        (disks.slots index) = result at steady ⊢
    rcases result with ⟨error | done, after⟩
    · simp only [setSlot, identified]
      exact
        steady.trans
          (invalidate_touches after (ledIndex?_diskLedId index))
    · exact steady

/-- One pass through the loop of a rescan touches the bay's LED. -/
theorem rescanSlot_touches
    (discovery : Discovery)
    (firstError : Status)
    (index : DiskIndex) :
    TouchesOnly (· = bayLed index) disks.controller
      (rescanSlot script discovery (firstError, disks)
        index).2.controller := by
  have forgotten :=
    invalidate_touches disks.controller (ledIndex?_diskLedId index)
  rw [rescanSlot_eq]
  split
  · exact Footprint.Touches.refl disks.controller
  · exact
      forgotten.trans
        (setAll_touches script _ (ledIndex?_diskLedId index) _)

/-- One pass through the loop of the cleanup touches the bay's LED. -/
theorem cleanupSlot_touches
    {index : DiskIndex}
    (identified : (disks.slots index).ledId = diskLedId index) :
    TouchesOnly (· = bayLed index) disks.controller
      (cleanupSlot script disks index).controller := by
  simp only [cleanupSlot]
  split
  · exact
      setSteady_touches script disks.config disks.controller identified
  · exact Footprint.Touches.refl disks.controller

/-- The cleanup's loop leaves the slots alone. -/
theorem cleanupSlot_slots (visited : DiskIndex) :
    (cleanupSlot script disks visited).slots = disks.slots := by
  simp only [cleanupSlot]
  split <;> rfl

/-- A loop touches the bays of the chassis if each pass touches its bay. -/
theorem foldl_bays_touches
    (wellFormed : disks.WellFormed)
    {pass : DiskLeds → DiskIndex → DiskLeds}
    (sameIds :
      ∀ before visited index,
        ((pass before visited).slots index).ledId =
          (before.slots index).ledId)
    (touches :
      ∀ before index,
        (before.slots index).ledId = diskLedId index →
        TouchesOnly (· = bayLed index) before.controller
          (pass before index).controller) :
    TouchesOnly (CountedBay disks.slotCount) disks.controller
      (disks.bays.foldl pass disks).controller := by
  refine
    (Footprint.touches_foldl DiskLeds.controller
      (fun before =>
        ∀ index, (before.slots index).ledId = diskLedId index)
      ?_ disks wellFormed.identified).2
  intro before visited member identified
  refine ⟨?_, ?_⟩
  · intro index
    rw [sameIds]
    exact identified index
  · exact
      counted_of_bay (mem_bays.mp member)
        (touches before visited (identified visited))

/-- The timer's loop touches the bays of the chassis. -/
theorem expireAll_touches
    (wellFormed : disks.WellFormed)
    (now : UInt64) :
    TouchesOnly (CountedBay disks.slotCount) disks.controller
      (expireAll script disks now).controller :=
  foldl_bays_touches wellFormed
    (fun before => expireSlot_ledId script before now)
    (fun _ _ identified => expireSlot_touches script identified now)

/-- A rescan touches the bays of the chassis. -/
theorem rescan_touches (discovery : Except Errno Discovery) :
    TouchesOnly (CountedBay disks.slotCount) disks.controller
      (rescan script disks discovery).2.controller := by
  cases discovery with
  | error error =>
      exact Footprint.Touches.refl disks.controller
  | ok discovery =>
      refine
        (Footprint.touches_foldl
          (fun state : Status × DiskLeds => state.2.controller)
          (fun _ => True) ?_ (.ok (), disks) trivial).2
      rintro ⟨firstError, after⟩ visited member -
      exact
        ⟨trivial,
          counted_of_bay (mem_bays.mp member)
            (rescanSlot_touches script discovery firstError visited)⟩

/-- `disk_leds_cleanup` touches the bays of the chassis. -/
theorem cleanup_touches (wellFormed : disks.WellFormed) :
    TouchesOnly (CountedBay disks.slotCount) disks.controller
      (disks.cleanup script).controller := by
  refine
    foldl_bays_touches wellFormed ?_
      (fun _ _ identified => cleanupSlot_touches script identified)
  intro before visited index
  rw [cleanupSlot_slots]

/-- Starting a bay's blink touches the bay's LED. -/
theorem startBlink_touches (index : DiskIndex) :
    TouchesOnly (· = bayLed index) disks.controller
      (disks.startBlink script index).2 :=
  set_touches script disks.controller (ledIndex?_diskLedId index)
    (blinkRequest disks.config)

end Touches

/--
What a callback leaves behind: a table in order for the same chassis, and a
controller on which only bays of that chassis have been touched.
-/
structure StaysInChassis (disks after : DiskLeds) : Prop where
  wellFormed : after.WellFormed
  sameCount : after.slotCount = disks.slotCount
  touches :
    TouchesOnly (CountedBay disks.slotCount) disks.controller
      after.controller

section StaysInChassis

variable
  (script : Script)
  {disks : DiskLeds}
  (wellFormed : disks.WellFormed)

include wellFormed

/-- Doing nothing stays in the chassis. -/
theorem StaysInChassis.refl : StaysInChassis disks disks where
  wellFormed := wellFormed
  sameCount := rfl
  touches := Footprint.Touches.refl disks.controller

/-- A rescan stays in the chassis. -/
theorem rescan_stays (discovery : Except Errno Discovery) :
    StaysInChassis disks (rescan script disks discovery).2 where
  wellFormed := wellFormed.rescan script discovery
  sameCount := rescan_slotCount ..
  touches := rescan_touches script discovery

/-- `disk_leds_cleanup` stays in the chassis. -/
theorem cleanup_stays : StaysInChassis disks (disks.cleanup script) := by
  have sameSlots : (disks.cleanup script).slots = disks.slots :=
    LocalFold.frame_foldl DiskLeds.slots
      (fun _ visited => cleanupSlot_slots script visited) _ _
  have sameCount : (disks.cleanup script).slotCount = disks.slotCount := by
    refine LocalFold.frame_foldl DiskLeds.slotCount ?_ _ _
    intro after visited
    simp only [cleanupSlot]
    split <;> rfl
  exact
    { wellFormed :=
        ⟨by rw [sameSlots]; exact wellFormed.identified,
          by rw [sameSlots, sameCount]; exact wellFormed.occupied⟩
      sameCount := sameCount
      touches := cleanup_touches script wellFormed }

/-- `disk_leds_handle_timer` stays in the chassis. -/
theorem handleTimer_stays
    (clock : Option MonotonicTime)
    (read settime : Option Errno) :
    StaysInChassis disks
      (handleTimer script disks clock read settime).2 := by
  by_cases regular : ∀ error, read = some error → error = .eagain
  · obtain ⟨timer, same⟩ :=
      handleTimer_eq script disks clock regular settime
    rw [same]
    have timed : ({ disks with timer } : DiskLeds).WellFormed :=
      ⟨wellFormed.identified, wellFormed.occupied⟩
    have expires :=
      timed.expireAll script (monotonicNs clock)
    exact
      { wellFormed := ⟨expires.identified, expires.occupied⟩
        sameCount := expireAll_slotCount ..
        touches := expireAll_touches script timed _ }
  · push Not at regular
    obtain ⟨error, failed, serious⟩ := regular
    have unchanged :
        (handleTimer script disks clock read settime).2 = disks := by
      simp [handleTimer, failed, Timerfd.read, serious]
    rw [unchanged]
    exact .refl wellFormed

/-- A callback that moves one present bay's slot stays in the chassis. -/
theorem moved_stays
    {index : DiskIndex}
    (counted : index.val < disks.slotCount)
    (present : (disks.slots index).present = true)
    {after : DiskLeds}
    (sameCount : after.slotCount = disks.slotCount)
    (active : Bool)
    (deadlineNs : UInt64)
    (self :
      after.slots index =
        { disks.slots index with active, deadlineNs })
    (others :
      ∀ other, other ≠ index → after.slots other = disks.slots other)
    (touches :
      TouchesOnly (· = bayLed index) disks.controller
        after.controller) :
    StaysInChassis disks after where
  wellFormed :=
    wellFormed.move counted present sameCount active deadlineNs self
      others
  sameCount := sameCount
  touches := counted_of_bay counted touches

/-- `disk_leds_handle_activity` stays in the chassis. -/
theorem handleActivity_stays
    (ledId : UInt8)
    (clock : Option MonotonicTime)
    (settime : Option Errno) :
    StaysInChassis disks
      (handleActivity script disks ledId clock settime).2 := by
  rcases handleActivity_cases script disks ledId clock settime with
      ⟨unchanged, -⟩ | ⟨index, same, counted, present, handled⟩
  · rw [unchanged]
    exact .refl wellFormed
  · subst same
    have extended_self :
        (disks.extend index clock).slots index =
          { disks.slots index with
            deadlineNs :=
              monotonicNs clock + disks.config.diskHoldNs } :=
      setSlot_self disks index _
    have others :
        ∀ other, other ≠ index →
          (disks.extend index clock).slots other =
            disks.slots other :=
      fun _ different => setSlot_of_ne disks different _
    have blink :
        TouchesOnly (· = bayLed index) disks.controller
          (disks.startBlink script index).2 :=
      startBlink_touches script index
    rcases handled with
        ⟨active, extended⟩ |
          ⟨inactive, error, controller, started, failed⟩ |
          ⟨inactive, controller, started, activated⟩
    · rw [extended]
      exact
        moved_stays wellFormed counted present rfl _ _ extended_self
          others (Footprint.Touches.refl disks.controller)
    · rw [started] at blink
      rw [failed]
      exact
        moved_stays wellFormed counted present rfl _ _ extended_self
          others
          (blink.trans
            (invalidate_touches controller
              (ledIndex?_diskLedId index)))
    · rw [started] at blink
      rw [activated]
      refine
        moved_stays wellFormed counted present rfl true
          (monotonicNs clock + disks.config.diskHoldNs) ?_ ?_ blink
      · simp [extended_self]
      · intro other different
        simp [different, others]

/-- `disk_leds_handle_uevent` stays in the chassis. -/
theorem handleUevent_stays
    (runtime : BpfRuntime)
    (uevents : Uevents) :
    StaysInChassis disks
      (handleUevent script disks runtime uevents).2.1 := by
  have rescans :=
    rescan_stays script wellFormed uevents.discovery
  simp only [handleUevent]
  split
  · exact .refl wellFormed
  · split
    · exact .refl wellFormed
    · split <;> exact rescans

end StaysInChassis

end DiskLeds

end UgreenLeds
