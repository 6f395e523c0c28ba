import UgreenLeds.Config
import UgreenLeds.LedController
import UgreenLeds.Timerfd
import Mathlib.Data.List.FinRange

/-!
# The disk LED policy

The model of `disk_led.c`: the slot table, the shared one-shot timer, and the
three callbacks that change them, namely an activity event, the timer and a
rescan after a block-device event.  What a scan of sysfs finds, what the clock
reads and whether the timer's system calls fail are arguments; the outcomes of
the I2C transfers come from the controller's script.  Messages on standard error
and the device names they print are left out.
-/

namespace UgreenLeds

/-- A bay of the chassis. -/
abbrev DiskIndex := Fin diskCount

/-- `struct disk_slot`. -/
structure DiskSlot where
  ledId : UInt8
  present : Bool
  active : Bool
  dev : UInt32
  deadlineNs : UInt64
  deriving DecidableEq, Repr

/-- The LED identifier of a bay. -/
def diskLedId (index : DiskIndex) : UInt8 :=
  ledDiskFirst + UInt8.ofNat index.val

/-- `product_starts_with`. -/
def productStartsWith
    (productName : List UInt8)
    (name : String) : Bool :=
  (ascii name).isPrefixOf productName

/-- `disk_layout_slot_count`. -/
def diskLayoutSlotCount (productName : List UInt8) : Nat :=
  if productStartsWith productName "DXP2800" then
    2
  else if productStartsWith productName "DX4600" ||
      productStartsWith productName "DX4700" ||
      productStartsWith productName "DXP4800" then
    4
  else if productStartsWith productName "DXP6800" then
    6
  else
    diskCount

/-- What a scan found: the device in each bay that has one. -/
abbrev Discovery := DiskIndex → Option UInt32

/-- `struct disk_leds`. -/
structure DiskLeds where
  slots : DiskIndex → DiskSlot
  controller : LedController
  config : Config
  slotCount : Nat
  timer : Timerfd

namespace DiskLeds

/-- Replace one slot of the table. -/
def setSlot
    (disks : DiskLeds)
    (index : DiskIndex)
    (slot : DiskSlot) : DiskLeds :=
  { disks with slots := Function.update disks.slots index slot }

/-- The bays that a loop up to `slot_count` visits. -/
def bays (disks : DiskLeds) : List DiskIndex :=
  (List.finRange diskCount).filter fun index =>
    index.val < disks.slotCount

@[simp] theorem mem_bays
    {disks : DiskLeds}
    {index : DiskIndex} :
    index ∈ disks.bays ↔ index.val < disks.slotCount := by
  simp [bays]

/-- A loop over the bays visits none of them twice. -/
theorem bays_nodup (disks : DiskLeds) : disks.bays.Nodup :=
  (List.nodup_finRange diskCount).filter _

/-- A loop over the bays visits at most eight of them. -/
theorem bays_length_le (disks : DiskLeds) :
    disks.bays.length ≤ diskCount := by
  unfold bays
  exact (List.length_filter_le _ _).trans_eq List.length_finRange

/-- `set_steady`. -/
def setSteady
    (script : Script)
    (config : Config)
    (controller : LedController)
    (slot : DiskSlot) : Status × LedController :=
  let index := slot.ledId.toUInt32 - ledDiskFirst.toUInt32
  match controller.setColor script slot.ledId
      (config.diskColorOf index) with
  | (.error error, controller) =>
      (.error error, controller)
  | (.ok (), controller) =>
      match controller.setBrightness script slot.ledId
          config.diskBrightness.toUInt8 with
      | (.error error, controller) =>
          (.error error, controller)
      | (.ok (), controller) =>
          controller.setOn script slot.ledId config.diskInvert

/-- The earliest deadline of an active slot, or the maximum if there is none. -/
def earliest (disks : DiskLeds) : UInt64 :=
  disks.bays.foldl
    (fun earliest index =>
      let slot := disks.slots index
      if slot.active ∧ slot.deadlineNs < earliest then
        slot.deadlineNs
      else
        earliest)
    (-1)

/-- `arm_timer`. -/
def armTimer
    (disks : DiskLeds)
    (settime : Option Errno) : Status × DiskLeds :=
  let value : Itimerspec :=
    if disks.earliest = -1 then
      ⟨0, 0⟩
    else
      .ofNs disks.earliest.toNat
  let (status, timer) := disks.timer.settime settime value
  (status, { disks with timer })

section Rescan

/-- The slot `discover` leaves for a bay. -/
def foundSlot
    (discovery : Discovery)
    (index : DiskIndex) : DiskSlot where
  ledId := diskLedId index
  present := (discovery index).isSome
  active := false
  dev := (discovery index).getD 0
  deadlineNs := 0

/-- One pass through the loop of `rescan`, with the first error so far. -/
def rescanSlot
    (script : Script)
    (discovery : Discovery)
    (state : Status × DiskLeds)
    (index : DiskIndex) : Status × DiskLeds :=
  let (firstError, disks) := state
  let old := disks.slots index
  let new := foundSlot discovery index
  if old.present = new.present ∧ old.dev = new.dev then
    (firstError, disks)
  else
    let invalidated := disks.controller.invalidate new.ledId
    let (status, controller) :=
      if new.present then
        setSteady script disks.config invalidated new
      else
        invalidated.setOn script new.ledId false
    (match firstError with
      | .error error => .error error
      | .ok () => status,
      { disks with controller }.setSlot index new)

/-- `rescan`; the scan of sysfs itself can fail. -/
def rescan
    (script : Script)
    (disks : DiskLeds)
    (discovery : Except Errno Discovery) : Status × DiskLeds :=
  match discovery with
  | .error error =>
      (.error error, disks)
  | .ok discovery =>
      disks.bays.foldl (rescanSlot script discovery) (.ok (), disks)

end Rescan

/-- The state `disk_leds_init` has set up when it calls `rescan`. -/
def zeroed
    (controller : LedController)
    (config : Config)
    (productName : List UInt8) : DiskLeds where
  slots := fun index =>
    { ledId := diskLedId index
      present := false
      active := false
      dev := -1
      deadlineNs := 0 }
  controller
  config
  slotCount := diskLayoutSlotCount productName
  timer := none

/-- `disk_leds_init`, once its timer and its socket are open. -/
def init
    (script : Script)
    (controller : LedController)
    (config : Config)
    (productName : List UInt8)
    (discovery : Except Errno Discovery) : Status × DiskLeds :=
  rescan script (zeroed controller config productName) discovery

/-- The bay an LED identifier from `UGREEN_LED_DISK_FIRST` on denotes. -/
def bay?
    (disks : DiskLeds)
    (ledId : UInt8) : Option DiskIndex :=
  let index := ledId.toNat - ledDiskFirst.toNat
  if inRange : index < diskCount then
    if index < disks.slotCount then
      some ⟨index, inRange⟩
    else
      none
  else
    none

/-- The lit and dark times of a blinking bay. -/
def blinkTimes (config : Config) : UInt32 × UInt32 :=
  if config.diskInvert then
    (config.diskIntervalMs - config.diskPulseMs, config.diskPulseMs)
  else
    (config.diskPulseMs, config.diskIntervalMs - config.diskPulseMs)

/-- `disk_leds_handle_activity`. -/
def handleActivity
    (script : Script)
    (disks : DiskLeds)
    (ledId : UInt8)
    (clock : Option MonotonicTime)
    (settime : Option Errno) : Status × DiskLeds :=
  if ledId < ledDiskFirst then
    (.error .einval, disks)
  else
    match disks.bay? ledId with
    | none =>
        (.ok (), disks)
    | some index =>
        if !(disks.slots index).present then
          (.ok (), disks)
        else
          let slot :=
            { disks.slots index with
              deadlineNs := monotonicNs clock + disks.config.diskHoldNs }
          let extended := disks.setSlot index slot
          if slot.active then
            extended.armTimer settime
          else
            let (onMs, offMs) := blinkTimes disks.config
            match extended.controller.setBlink script ledId
                onMs.toUInt16 offMs.toUInt16 false with
            | (.error _, controller) =>
                (.ok (),
                  { extended with
                    controller := controller.invalidate ledId })
            | (.ok (), controller) =>
                ({ extended with controller }.setSlot index
                  { slot with active := true }).armTimer settime

/-- One pass through the loop of `disk_leds_handle_timer`. -/
def expireSlot
    (script : Script)
    (now : UInt64)
    (disks : DiskLeds)
    (index : DiskIndex) : DiskLeds :=
  let disk := disks.slots index
  if !disk.active ∨ disk.deadlineNs > now then
    disks
  else
    let controller :=
      match setSteady script disks.config disks.controller disk with
      | (.error _, controller) =>
          controller.invalidate disk.ledId
      | (.ok (), controller) =>
          controller
    { disks with controller }.setSlot index
      { disk with active := false, deadlineNs := 0 }

/-- `disk_leds_handle_timer`. -/
def handleTimer
    (script : Script)
    (disks : DiskLeds)
    (clock : Option MonotonicTime)
    (read settime : Option Errno) : Status × DiskLeds :=
  let now := monotonicNs clock
  match disks.timer.read read with
  | (.error error, timer) =>
      if error ≠ .eagain then
        (.error error, { disks with timer })
      else
        (({ disks with timer } : DiskLeds).bays.foldl
          (expireSlot script now) { disks with timer }).armTimer settime
  | (.ok (), timer) =>
      (({ disks with timer } : DiskLeds).bays.foldl
        (expireSlot script now) { disks with timer }).armTimer settime

/-- One pass through the loop of `disk_leds_cleanup`. -/
def cleanupSlot
    (script : Script)
    (disks : DiskLeds)
    (index : DiskIndex) : DiskLeds :=
  let slot := disks.slots index
  if slot.present then
    { disks with
      controller :=
        (setSteady script disks.config disks.controller slot).2 }
  else
    disks

/-- `disk_leds_cleanup`. -/
def cleanup
    (script : Script)
    (disks : DiskLeds) : DiskLeds :=
  { disks.bays.foldl (cleanupSlot script) disks with timer := none }

/-- A callback of the event loop, with what its system calls return. -/
inductive Event where
  | activity (ledId : UInt8)
      (clock : Option MonotonicTime) (settime : Option Errno)
  | timer (clock : Option MonotonicTime) (read settime : Option Errno)
  | rescan (discovery : Except Errno Discovery)

/-- Run one callback. -/
def handle
    (script : Script)
    (disks : DiskLeds) :
    Event → Status × DiskLeds
  | .activity ledId clock settime =>
      handleActivity script disks ledId clock settime
  | .timer clock read settime =>
      handleTimer script disks clock read settime
  | .rescan discovery =>
      DiskLeds.rescan script disks discovery

/-- A callback as a step of a run. -/
def step
    (script : Script)
    (disks : DiskLeds)
    (event : Event) : Option DiskLeds :=
  some (disks.handle script event).2

end DiskLeds

end UgreenLeds
