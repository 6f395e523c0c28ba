import UgreenLeds.Mcu

/-!
# The daemon's LED controller

The model of `led_controller.c`: the per-LED cache, the retry loop of
`change_status`, and the four setters that elide a command on the strength of
the cache.  The file descriptor is the bus it reaches.  Diagnostics on standard
error are left out.
-/

namespace UgreenLeds

/-- `enum led_mode`. -/
inductive LedMode where
  | unknown
  | off
  | on
  | blink
  | breath
  deriving DecidableEq, Repr

/-- `struct led_cache`. -/
structure LedCache where
  colorValid : Bool
  brightnessValid : Bool
  color : Rgb
  brightness : UInt8
  mode : LedMode
  onMs : UInt16
  offMs : UInt16
  deriving DecidableEq, Repr

/-- A cache entry of zero bytes. -/
def LedCache.zero : LedCache where
  colorValid := false
  brightnessValid := false
  color := ⟨0, 0, 0⟩
  brightness := 0
  mode := .unknown
  onMs := 0
  offMs := 0

/-- `struct led_controller`, with the bus in place of its file descriptor. -/
structure LedController where
  cache : LedIndex → LedCache
  bus : Bus

/-- `COMMAND_RETRY_COUNT`. -/
def commandRetryCount : Nat := 5

namespace LedController

/-- The all-zero cache over an arbitrary MCU. -/
def initial (mcu : LedIndex → McuLed) : LedController where
  cache := fun _ => .zero
  bus := { mcu, served := fun _ => 0, sent := [] }

/-- Replace the cache entry of one LED. -/
def setCache
    (controller : LedController)
    (led : LedIndex)
    (entry : LedCache) : LedController :=
  { controller with cache := Function.update controller.cache led entry }

/-- `led_controller_invalidate`. -/
def invalidate
    (controller : LedController)
    (ledId : UInt8) : LedController :=
  match ledIndex? ledId with
  | none =>
      controller
  | some led =>
      controller.setCache led .zero

/-- The error of a `usleep` that the caller does not ignore. -/
def sleepFailure : Option Errno → Option Errno
  | none =>
      none
  | some error =>
      if error = .eintr then none else some error

/-- One pass through the loop of `change_status`. -/
def answer (attempt : Attempt) : RetryLoop.Answer Errno :=
  match sleepFailure attempt.delay with
  | some error =>
      ⟨.abort error, false, false⟩
  | none =>
      match attempt.write with
      | some error =>
          ⟨.retry error, true, attempt.applied⟩
      | none =>
          match sleepFailure attempt.settle with
          | some error =>
              ⟨.abort error, true, attempt.applied⟩
          | none =>
              match attempt.reply with
              | .error error =>
                  ⟨.retry error, true, attempt.applied⟩
              | .ok accepted =>
                  if accepted = 1 then
                    ⟨.success, true, true⟩
                  else
                    ⟨.retry .eremoteio, true, attempt.applied⟩

/-- The frame `change_status_once` writes. -/
def changeStatusFrame
    (ledId command p0 p1 p2 p3 : UInt8) : Frame :=
  -- The checksum is taken while `data[0]` is still zero.
  let sum :=
    checksum
      [0x00, 0xa0, 0x01, 0x00, 0x00, command, p0, p1, p2, p3]
  .change ledId command p0 p1 p2 p3 sum

/-- `change_status`. -/
def changeStatus
    (script : Script)
    (controller : LedController)
    (ledId command p0 p1 p2 p3 : UInt8) :
    Status × LedController :=
  match ledIndex? ledId with
  | none =>
      (.error .einval, controller)
  | some led =>
      let (outcome, bus) :=
        controller.bus.command script answer commandRetryCount led
          (changeStatusFrame ledId command p0 p1 p2 p3) .eio
      match outcome with
      | .acknowledged =>
          (.ok (), { controller with bus })
      | .aborted error =>
          -- A failing sleep returns at once and leaves the cache alone.
          (.error error, { controller with bus })
      | .exhausted error =>
          (.error error,
            invalidate { controller with bus } ledId)

/--
The common body of the setters: return at once when the cache shows the
request, otherwise send the command and record it once acknowledged.
-/
def setThrough
    (script : Script)
    (controller : LedController)
    (ledId : UInt8)
    (cached : LedCache → Bool)
    (command p0 p1 p2 p3 : UInt8)
    (record : LedCache → LedCache) :
    Status × LedController :=
  match ledIndex? ledId with
  | none =>
      (.error .einval, controller)
  | some led =>
      if cached (controller.cache led) then
        (.ok (), controller)
      else
        match controller.changeStatus script ledId
            command p0 p1 p2 p3 with
        | (.ok (), sent) =>
            (.ok (), sent.setCache led (record (sent.cache led)))
        | (.error error, sent) =>
            (.error error, sent)

/-- `led_controller_set_color`. -/
def setColor
    (script : Script)
    (controller : LedController)
    (ledId : UInt8)
    (color : Rgb) :
    Status × LedController :=
  controller.setThrough script ledId
    (fun cache => cache.colorValid && rgbEqual cache.color color)
    0x02 color.r color.g color.b 0
    (fun cache => { cache with color, colorValid := true })

/-- `led_controller_set_brightness`. -/
def setBrightness
    (script : Script)
    (controller : LedController)
    (ledId brightness : UInt8) :
    Status × LedController :=
  controller.setThrough script ledId
    (fun cache =>
      cache.brightnessValid && cache.brightness == brightness)
    0x01 brightness 0 0 0
    (fun cache => { cache with brightness, brightnessValid := true })

/-- `led_controller_set_on`. -/
def setOn
    (script : Script)
    (controller : LedController)
    (ledId : UInt8)
    (on : Bool) :
    Status × LedController :=
  let mode : LedMode := if on then .on else .off
  controller.setThrough script ledId
    (fun cache => cache.mode == mode)
    0x03 (if on then 1 else 0) 0 0 0
    (fun cache => { cache with mode })

/-- `led_controller_set_blink`. -/
def setBlink
    (script : Script)
    (controller : LedController)
    (ledId : UInt8)
    (onMs offMs : UInt16)
    (breath : Bool) :
    Status × LedController :=
  let mode : LedMode := if breath then .breath else .blink
  let cycle := onMs + offMs
  if cycle < onMs then
    (.error .einval, controller)
  else
    controller.setThrough script ledId
      (fun cache =>
        cache.mode == mode && cache.onMs == onMs &&
          cache.offMs == offMs)
      (if breath then 0x05 else 0x04)
      (highByte cycle) (lowByte cycle)
      (highByte onMs) (lowByte onMs)
      (fun cache => { cache with mode, onMs, offMs })

end LedController

end UgreenLeds
