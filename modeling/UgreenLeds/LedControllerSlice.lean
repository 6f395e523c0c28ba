import UgreenLeds.LedController

/-!
# One LED's slice of the controller

Every setter touches one LED: its cache entry, its record in the MCU and its
position in the script.  This module gives each setter a meaning on that slice
alone and shows that the controller computes exactly it, leaving the slices of
all other LEDs unchanged.  Later modules reason about slices and never unfold
the retry loop again.
-/

namespace UgreenLeds

namespace LedController

/-- What a setter is asked to make of an LED. -/
inductive Request where
  | color : Rgb → Request
  | brightness : UInt8 → Request
  | onOff : Bool → Request
  | blink (onMs offMs : UInt16) (breath : Bool) : Request
  deriving DecidableEq, Repr

namespace Request

/-- The cache already shows the request, so no command is sent. -/
def cached : Request → LedCache → Bool
  | .color rgb, cache =>
      cache.colorValid && rgbEqual cache.color rgb
  | .brightness level, cache =>
      cache.brightnessValid && cache.brightness == level
  | .onOff lit, cache =>
      cache.mode == if lit then .on else .off
  | .blink onMs offMs breath, cache =>
      cache.mode == (if breath then .breath else .blink) &&
        cache.onMs == onMs && cache.offMs == offMs

/-- The cache entry after the request has been acknowledged. -/
def record : Request → LedCache → LedCache
  | .color rgb, cache =>
      { cache with color := rgb, colorValid := true }
  | .brightness level, cache =>
      { cache with brightness := level, brightnessValid := true }
  | .onOff lit, cache =>
      { cache with mode := if lit then .on else .off }
  | .blink onMs offMs breath, cache =>
      { cache with
        mode := if breath then .breath else .blink
        onMs
        offMs }

/-- The command that carries the request to the MCU. -/
def command : Request → Command
  | .color rgb =>
      .color rgb
  | .brightness level =>
      .brightness level
  | .onOff lit =>
      .onOff lit
  | .blink onMs offMs breath =>
      if breath then
        .breath (onMs + offMs) onMs
      else
        .blink (onMs + offMs) onMs

end Request

/-- The part of a controller and its bus that belongs to one LED. -/
@[ext] structure Slice where
  cache : LedCache
  device : McuLed
  served : Nat
  deriving DecidableEq, Repr

/-- One LED's slice. -/
def slice
    (controller : LedController)
    (led : LedIndex) : Slice where
  cache := controller.cache led
  device := controller.bus.mcu led
  served := controller.bus.served led

namespace Slice

section Send

variable (exchanges : Nat → Exchange)

/-- The answers the next command to this LED receives. -/
def answers (slice : Slice) : Nat → RetryLoop.Answer Errno :=
  fun attempt => answer (exchanges slice.served attempt)

/-- How the next command to this LED ends. -/
def outcome (slice : Slice) : RetryLoop.Outcome Errno :=
  RetryLoop.outcome (slice.answers exchanges) commandRetryCount 0 .eio

/-- Whether the MCU executes the next command to this LED. -/
def executes (slice : Slice) : Bool :=
  RetryLoop.executes (slice.answers exchanges) commandRetryCount 0

/-- `change_status` on one LED's slice. -/
def send
    (command : Command)
    (slice : Slice) : Status × Slice :=
  let device :=
    if slice.executes exchanges then
      command.execute slice.device
    else
      slice.device
  let served := slice.served + 1
  match slice.outcome exchanges with
  | .acknowledged =>
      (.ok (), { slice with device, served })
  | .aborted error =>
      (.error error, { slice with device, served })
  | .exhausted error =>
      (.error error, { cache := .zero, device, served })

/-- The common body of the setters on one LED's slice. -/
def set
    (request : Request)
    (slice : Slice) : Status × Slice :=
  if request.cached slice.cache then
    (.ok (), slice)
  else
    match slice.send exchanges request.command with
    | (.ok (), sent) =>
        (.ok (), { sent with cache := request.record sent.cache })
    | (.error error, sent) =>
        (.error error, sent)

/-- `led_controller_invalidate` on one LED's slice. -/
def invalidate (slice : Slice) : Slice :=
  { slice with cache := .zero }

end Send

end Slice

section Frame

@[simp] theorem slice_setCache_self
    (controller : LedController)
    (led : LedIndex)
    (entry : LedCache) :
    (controller.setCache led entry).slice led =
      { controller.slice led with cache := entry } := by
  simp [slice, setCache]

theorem slice_setCache_of_ne
    (controller : LedController)
    {led other : LedIndex}
    (different : other ≠ led)
    (entry : LedCache) :
    (controller.setCache led entry).slice other =
      controller.slice other := by
  simp [slice, setCache, Function.update_of_ne different]

/-- Invalidation zeroes the addressed entry. -/
theorem slice_invalidate_self
    (controller : LedController)
    {ledId : UInt8}
    {led : LedIndex}
    (addressed : ledIndex? ledId = some led) :
    (controller.invalidate ledId).slice led =
      (controller.slice led).invalidate := by
  simp [invalidate, addressed, Slice.invalidate]

/-- Invalidation leaves every other LED alone. -/
theorem slice_invalidate_of_ne
    (controller : LedController)
    {ledId : UInt8}
    {other : LedIndex}
    (different : ledIndex? ledId ≠ some other) :
    (controller.invalidate ledId).slice other =
      controller.slice other := by
  unfold invalidate
  cases addressed : ledIndex? ledId with
  | none =>
      rfl
  | some led =>
      have otherNe : other ≠ led := by
        intro same
        exact different (same ▸ addressed)
      exact slice_setCache_of_ne controller otherNe .zero

end Frame

section ChangeStatus

variable
  (script : Script)
  (controller : LedController)
  {ledId code p0 p1 p2 p3 : UInt8}
  {led : LedIndex}

/-- `change_status_once` always writes a frame the MCU accepts. -/
theorem changeStatusFrame_decode?
    (addressed : ledIndex? ledId = some led)
    {command : Command}
    (decoded : Command.decode? code p0 p1 p2 p3 = some command) :
    (changeStatusFrame ledId code p0 p1 p2 p3).decode? =
      some (led, command) := by
  refine Frame.decode?_change ?_ addressed decoded
  simp [checksum]

/-- What one command does to the bus, as the addressed slice sees it. -/
theorem command_slice
    {frame : Frame}
    {command : Command}
    (carries : frame.decode? = some (led, command)) :
    let slice := controller.slice led
    let result :=
      controller.bus.command script answer commandRetryCount led
        frame .eio
    result.1 = slice.outcome (script led) ∧
      result.2.mcu led =
        (if slice.executes (script led) then
          command.execute slice.device
        else
          slice.device) ∧
      result.2.served led = slice.served + 1 := by
  refine ⟨?_, ?_, ?_⟩
  · exact
      controller.bus.command_outcome script answer
        commandRetryCount led frame .eio
  · exact
      controller.bus.command_mcu_self script answer
        commandRetryCount led frame .eio carries
  · rw [Bus.command_served]
    simp [slice]

/-- A command leaves the other LEDs' records and positions unchanged. -/
theorem command_other
    {frame : Frame}
    {command : Command}
    (carries : frame.decode? = some (led, command))
    {other : LedIndex}
    (different : other ≠ led) :
    let result :=
      controller.bus.command script answer commandRetryCount led
        frame .eio
    result.2.mcu other = controller.bus.mcu other ∧
      result.2.served other = controller.bus.served other := by
  constructor
  · exact
      controller.bus.command_mcu_of_ne script answer
        commandRetryCount led frame .eio carries different
  · rw [Bus.command_served]
    simp [Function.update_of_ne different]

/-- `change_status` computes the slice meaning of its command. -/
theorem changeStatus_slice
    (addressed : ledIndex? ledId = some led)
    {command : Command}
    (decoded : Command.decode? code p0 p1 p2 p3 = some command) :
    let result :=
      controller.changeStatus script ledId code p0 p1 p2 p3
    (result.1, result.2.slice led) =
      (controller.slice led).send (script led) command := by
  obtain ⟨ended, device, position⟩ :=
    command_slice script controller
      (changeStatusFrame_decode? addressed decoded)
  simp only [changeStatus, addressed, Slice.send]
  rw [← ended, ← device, ← position]
  rcases controller.bus.command script answer commandRetryCount led
      (changeStatusFrame ledId code p0 p1 p2 p3) .eio with
    ⟨outcome, bus⟩
  cases outcome with
  | acknowledged =>
      rfl
  | aborted error =>
      rfl
  | exhausted error =>
      exact
        congrArg (Prod.mk (Except.error error))
          (slice_invalidate_self _ addressed)

/-- `change_status` leaves the slices of the other LEDs unchanged. -/
theorem changeStatus_other
    (addressed : ledIndex? ledId = some led)
    {command : Command}
    (decoded : Command.decode? code p0 p1 p2 p3 = some command)
    {other : LedIndex}
    (different : other ≠ led) :
    (controller.changeStatus script ledId
        code p0 p1 p2 p3).2.slice other =
      controller.slice other := by
  obtain ⟨device, position⟩ :=
    command_other script controller
      (changeStatusFrame_decode? addressed decoded) different
  have notAddressed : ledIndex? ledId ≠ some other := by
    rw [addressed]
    intro same
    exact different (Option.some.inj same).symm
  simp only [changeStatus, addressed]
  generalize
    controller.bus.command script answer commandRetryCount led
      (changeStatusFrame ledId code p0 p1 p2 p3) .eio =
        result at device position ⊢
  rcases result with ⟨outcome, bus⟩
  have kept :
      ({ controller with bus } : LedController).slice other =
        controller.slice other := by
    exact Slice.ext rfl device position
  cases outcome with
  | acknowledged =>
      exact kept
  | aborted error =>
      exact kept
  | exhausted error =>
      exact (slice_invalidate_of_ne _ notAddressed).trans kept

end ChangeStatus

section Setters

variable
  (script : Script)
  (controller : LedController)
  {ledId code p0 p1 p2 p3 : UInt8}
  {led : LedIndex}

/-- A setter that agrees with a request computes its slice meaning. -/
theorem setThrough_slice
    (addressed : ledIndex? ledId = some led)
    {request : Request}
    (decoded :
      Command.decode? code p0 p1 p2 p3 = some request.command) :
    let result :=
      controller.setThrough script ledId request.cached
        code p0 p1 p2 p3 request.record
    (result.1, result.2.slice led) =
      (controller.slice led).set (script led) request := by
  have sent :=
    changeStatus_slice script controller addressed decoded
  simp only [setThrough, addressed, Slice.set, ← sent]
  by_cases cached : request.cached (controller.cache led) = true
  · simp [cached, slice]
  · have notCached :
        request.cached (controller.slice led).cache = false := by
      simpa [slice] using cached
    simp only [cached, notCached, Bool.false_eq_true, ↓reduceIte]
    rcases controller.changeStatus script ledId code p0 p1 p2 p3
      with ⟨status, after⟩
    cases status with
    | ok done =>
        simp
        rfl
    | error error =>
        rfl

/-- A setter leaves the slices of the other LEDs unchanged. -/
theorem setThrough_other
    (addressed : ledIndex? ledId = some led)
    {cached : LedCache → Bool}
    {record : LedCache → LedCache}
    {command : Command}
    (decoded : Command.decode? code p0 p1 p2 p3 = some command)
    {other : LedIndex}
    (different : other ≠ led) :
    (controller.setThrough script ledId cached
        code p0 p1 p2 p3 record).2.slice other =
      controller.slice other := by
  have kept :=
    changeStatus_other script controller addressed decoded different
  simp only [setThrough, addressed]
  split
  · rfl
  · generalize
      controller.changeStatus script ledId code p0 p1 p2 p3 =
        result at kept ⊢
    rcases result with ⟨status, after⟩
    cases status with
    | ok done =>
        exact
          (slice_setCache_of_ne after different _).trans kept
    | error error =>
        exact kept

end Setters

/-- A request the setters do not reject: its cycle fits sixteen bits. -/
def Request.Fits : Request → Prop
  | .blink onMs offMs _ =>
      onMs.toNat + offMs.toNat < 65536
  | _ =>
      True

/-- Send a request through the setter that serves it. -/
def set
    (script : Script)
    (controller : LedController)
    (ledId : UInt8) :
    Request → Status × LedController
  | .color color =>
      controller.setColor script ledId color
  | .brightness brightness =>
      controller.setBrightness script ledId brightness
  | .onOff on =>
      controller.setOn script ledId on
  | .blink onMs offMs breath =>
      controller.setBlink script ledId onMs offMs breath

/-- The overflow check of `led_controller_set_blink` is exact. -/
theorem cycle_lt_iff
    (onMs offMs : UInt16) :
    onMs + offMs < onMs ↔ ¬ onMs.toNat + offMs.toNat < 65536 := by
  have := onMs.toNat_lt
  have := offMs.toNat_lt
  rw [UInt16.lt_iff_toNat_lt, UInt16.toNat_add]
  omega

section Set

variable
  (script : Script)
  (controller : LedController)
  {ledId : UInt8}

/-- An unknown LED is rejected without any effect. -/
theorem set_unknown
    (unknown : ledIndex? ledId = none)
    (request : Request) :
    controller.set script ledId request =
      (.error .einval, controller) := by
  cases request with
  | color color =>
      simp [set, setColor, setThrough, unknown]
  | brightness brightness =>
      simp [set, setBrightness, setThrough, unknown]
  | onOff on =>
      simp [set, setOn, setThrough, unknown]
  | blink onMs offMs breath =>
      simp [set, setBlink, setThrough, unknown]

/-- An overlong blink cycle is rejected without any effect. -/
theorem set_overlong
    {request : Request}
    (overlong : ¬ request.Fits) :
    controller.set script ledId request =
      (.error .einval, controller) := by
  cases request with
  | blink onMs offMs breath =>
      have rejected : onMs + offMs < onMs :=
        (cycle_lt_iff onMs offMs).mpr overlong
      simp [set, setBlink, rejected]
  | _ =>
      exact (overlong trivial).elim

/-- Every accepted request is the common setter body at its own command. -/
theorem set_eq_setThrough
    {request : Request}
    (fits : request.Fits) :
    ∃ code p0 p1 p2 p3,
      Command.decode? code p0 p1 p2 p3 = some request.command ∧
        controller.set script ledId request =
          controller.setThrough script ledId request.cached
            code p0 p1 p2 p3 request.record := by
  cases request with
  | color color =>
      exact ⟨0x02, color.r, color.g, color.b, 0, rfl, rfl⟩
  | brightness brightness =>
      exact ⟨0x01, brightness, 0, 0, 0, rfl, rfl⟩
  | onOff on =>
      cases on with
      | false =>
          exact ⟨0x03, 0, 0, 0, 0, rfl, rfl⟩
      | true =>
          exact ⟨0x03, 1, 0, 0, 0, rfl, rfl⟩
  | blink onMs offMs breath =>
      have accepted : ¬ onMs + offMs < onMs := by
        rw [cycle_lt_iff]
        exact not_not_intro fits
      refine
        ⟨if breath then 0x05 else 0x04,
          highByte (onMs + offMs), lowByte (onMs + offMs),
          highByte onMs, lowByte onMs, ?_, ?_⟩
      · cases breath <;>
          simp [Command.decode?, Request.command]
      · simp only [set, setBlink, accepted, ↓reduceIte]
        rfl

/-- An accepted request computes its slice meaning. -/
theorem set_slice
    {led : LedIndex}
    (addressed : ledIndex? ledId = some led)
    {request : Request}
    (fits : request.Fits) :
    let result := controller.set script ledId request
    (result.1, result.2.slice led) =
      (controller.slice led).set (script led) request := by
  obtain ⟨code, p0, p1, p2, p3, decoded, same⟩ :=
    set_eq_setThrough script controller fits
  rw [same]
  exact setThrough_slice script controller addressed decoded

/-- A request leaves the slices of the other LEDs unchanged. -/
theorem set_other
    {other : LedIndex}
    (different : ledIndex? ledId ≠ some other)
    (request : Request) :
    (controller.set script ledId request).2.slice other =
      controller.slice other := by
  cases addressed : ledIndex? ledId with
  | none =>
      rw [set_unknown script controller addressed request]
  | some led =>
      by_cases fits : request.Fits
      · obtain ⟨code, p0, p1, p2, p3, decoded, same⟩ :=
          set_eq_setThrough script controller fits
        rw [same]
        refine
          setThrough_other script controller addressed decoded ?_
        intro isLed
        exact different (isLed ▸ addressed)
      · rw [set_overlong script controller fits]

/-- A request leaves every LED but its own unchanged. -/
theorem set_of_ne
    {led other : LedIndex}
    (addressed : ledIndex? ledId = some led)
    (different : other ≠ led)
    (request : Request) :
    (controller.set script ledId request).2.slice other =
      controller.slice other := by
  refine set_other script controller ?_ request
  intro isOther
  rw [addressed] at isOther
  exact different (Option.some.inj isOther).symm

end Set

end LedController

end UgreenLeds
