import UgreenLeds.Mcu
import Mathlib.Data.List.FinRange

/-!
# The kernel LED driver

The model of `led-ugreen.c`: the per-LED state it caches, the retry loop around
a command, the setters that elide commands by comparing with the cached state,
the class-device and sysfs entry points that call them, and the probe that
reads the MCU and initialises every LED.  Kernel logging, the mutex (every entry
point holds it throughout) and the class-device registration itself are left
out.
-/

namespace UgreenLeds

namespace KernelDriver

/-- `UGREEN_LED_STATE_INVALID`; the other states are the status bytes. -/
def stateInvalid : UInt8 := 4

/-- `UGREEN_LED_CHANGE_STATE_RETRY_COUNT`. -/
def changeStateRetryCount : Nat := 5

/-- The cached fields of `struct ugreen_led_state`. -/
@[ext] structure LedState where
  status : UInt8
  r : UInt8
  g : UInt8
  b : UInt8
  brightness : UInt8
  tOn : UInt16
  tCycle : UInt16
  deriving DecidableEq, Repr

/-- A state of zero bytes, as `devm_kzalloc` leaves it. -/
def LedState.zero : LedState :=
  ⟨0, 0, 0, 0, 0, 0, 0⟩

/-- `struct ugreen_led_array`, with the bus in place of its client. -/
structure LedArray where
  state : LedIndex → LedState
  bus : Bus

/-- Replace the cached state of one LED. -/
def LedArray.setState
    (priv : LedArray)
    (led : LedIndex)
    (state : LedState) : LedArray :=
  { priv with state := Function.update priv.state led state }

/-- The register and identifier byte of an LED. -/
def ledByte (led : LedIndex) : UInt8 :=
  UInt8.ofNat led.val

section ChangeState

/-- The frame `ugreen_led_change_state` writes. -/
def changeStateFrame
    (ledId command param1 param2 param3 param4 : UInt8) : Frame where
  register := ledId
  payload :=
    let cksum : UInt16 :=
      0xa1 + command.toUInt16 + param1.toUInt16 + param2.toUInt16 +
        param3.toUInt16 + param4.toUInt16
    [ledId, 0xa0, 0x01, 0x00, 0x00, command,
      param1, param2, param3, param4,
      highByte cksum, lowByte cksum]

/--
One pass through the loop of `ugreen_led_change_state_robust`.  The kernel's
delays cannot fail, so the script's sleep results play no part.
-/
def answer (attempt : Attempt) : RetryLoop.Answer Unit :=
  match attempt.write with
  | some _ =>
      ⟨.retry (), true, attempt.applied⟩
  | none =>
      if attempt.reply = .ok 1 then
        ⟨.success, true, true⟩
      else
        ⟨.retry (), true, attempt.applied⟩

variable
  (script : Script)
  (priv : LedArray)
  (led : LedIndex)

/-- `ugreen_led_change_state_robust`; the result says whether it was `0`. -/
def changeStateRobust
    (command param1 param2 param3 param4 : UInt8) :
    Bool × LedArray :=
  let (outcome, bus) :=
    priv.bus.command script answer changeStateRetryCount led
      (changeStateFrame (ledByte led)
        command param1 param2 param3 param4) ()
  (outcome.isAcknowledged, { priv with bus })

/--
Send a command and, once it is acknowledged, record it in the cached state.  A
failure leaves the cached state as it was.
-/
def changeAndRecord
    (command param1 param2 param3 param4 : UInt8)
    (record : LedState → LedState) : LedArray :=
  let (done, sent) :=
    changeStateRobust script priv led
      command param1 param2 param3 param4
  if done then
    sent.setState led (record (sent.state led))
  else
    sent

/-- `ugreen_led_turn_on_or_off_unlock`. -/
def turnOnOrOff (on : Bool) : LedArray :=
  let status := if on then statusOn else statusOff
  if (priv.state led).status = status then
    priv
  else
    changeAndRecord script priv led 0x03 (if on then 1 else 0) 0 0 0
      (fun state => { state with status })

/-- `ugreen_led_set_brightness_unlock`; `enum led_brightness` is 32 bits. -/
def setBrightness (brightness : UInt32) : LedArray :=
  if brightness = 0 then
    turnOnOrOff script priv led false
  else
    let dimmed :=
      if (priv.state led).brightness.toUInt32 = brightness then
        priv
      else
        changeAndRecord script priv led 0x01 brightness.toUInt8 0 0 0
          (fun state =>
            { state with brightness := brightness.toUInt8 })
    if (dimmed.state led).status = statusOff then
      turnOnOrOff script dimmed led true
    else
      dimmed

/-- `ugreen_led_set_color_unlock`. -/
def setColor (r g b : UInt8) : LedArray :=
  if r = 0 ∧ g = 0 ∧ b = 0 then
    turnOnOrOff script priv led false
  else
    let state := priv.state led
    if state.r ≠ r ∨ state.g ≠ g ∨ state.b ≠ b then
      changeAndRecord script priv led 0x02 r g b 0
        (fun state => { state with r, g, b })
    else
      priv

/-- `ugreen_led_set_blink_or_breath_unlock`. -/
def setBlinkOrBreath
    (tOn tCycle : UInt16)
    (isBlink : Bool) : LedArray :=
  let state := priv.state led
  let status := if isBlink then statusBlink else statusBreath
  if state.tOn = tOn ∧ state.tCycle = tCycle ∧ state.status = status then
    priv
  else
    changeAndRecord script priv led (if isBlink then 0x04 else 0x05)
      (highByte tCycle) (lowByte tCycle) (highByte tOn) (lowByte tOn)
      (fun state => { state with tOn, tCycle, status })

end ChangeState

section Scan

/-- The kernel's `isspace` on one byte. -/
def isSpace (byte : UInt8) : Bool :=
  byte = 32 || (9 ≤ byte && byte ≤ 13) || byte = 160

/-- The kernel's `isdigit` on one byte. -/
def isDigit (byte : UInt8) : Bool :=
  48 ≤ byte && byte ≤ 57

/-- `skip_spaces`. -/
def skipSpaces (text : List UInt8) : List UInt8 :=
  text.dropWhile isSpace

/-- One directive of the scan formats the driver uses. -/
inductive Directive where
  | spaces
  | literal (byte : UInt8)
  | unsigned
  deriving DecidableEq, Repr

/-- `simple_strntoull` in base ten, which wraps around silently. -/
def strntoull (digits : List UInt8) : UInt64 :=
  digits.foldl
    (fun value digit => value * 10 + (digit - 48).toUInt64) 0

/--
`sscanf` for a format whose final `%n` follows its last conversion: the
converted values and what is left of the text, if every conversion succeeds.
-/
def sscanf :
    List Directive → List UInt8 → Option (List UInt64 × List UInt8)
  | [], text =>
      some ([], text)
  | .spaces :: format, text =>
      sscanf format (skipSpaces text)
  | .literal byte :: format, text =>
      match text with
      | [] =>
          none
      | first :: rest =>
          if first = byte then sscanf format rest else none
  | .unsigned :: format, text =>
      let field := skipSpaces text
      let digits := field.takeWhile isDigit
      if digits = [] then
        none
      else
        match sscanf format (field.dropWhile isDigit) with
        | none =>
            none
        | some (values, rest) =>
            some (strntoull digits :: values, rest)

/-- The C string at the start of a sysfs buffer. -/
def cString (buf : List UInt8) : List UInt8 :=
  buf.takeWhile (· ≠ 0)

/-- The format `"%hhu %hhu %hhu%n"`. -/
def colorFormat : List Directive :=
  [.unsigned, .spaces, .unsigned, .spaces, .unsigned]

/-- The formats `"blink %lu %lu%n"` and `"breath %lu %lu%n"`. -/
def blinkFormat (word : String) : List Directive :=
  (ascii word).map .literal ++
    [.spaces, .unsigned, .spaces, .unsigned]

/-- How much of the buffer a scan consumed: the `%n` of its format. -/
def consumed (buf rest : List UInt8) : Nat :=
  (cString buf).length - rest.length

/-- The colour `color_store` reads, with the character count. -/
def scanColor (buf : List UInt8) : Option (Rgb × Nat) :=
  match sscanf colorFormat (cString buf) with
  | some ([r, g, b], rest) =>
      some (⟨r.toUInt8, g.toUInt8, b.toUInt8⟩, consumed buf rest)
  | _ =>
      none

/-- The delays one format of `blink_type_store` reads, with the count. -/
def scanDelays
    (word : String)
    (buf : List UInt8) : Option (UInt64 × UInt64 × Nat) :=
  match sscanf (blinkFormat word) (cString buf) with
  | some ([delayOn, delayOff], rest) =>
      some (delayOn, delayOff, consumed buf rest)
  | _ =>
      none

end Scan

section EntryPoints

/-- One clamp of `truncate_blink_delay_time`. -/
def truncateDelay (delay : UInt64) : UInt64 :=
  if delay < 100 then 100
  else if delay > 0x7fff then 0x7fff
  else delay

variable
  (script : Script)
  (priv : LedArray)
  (led : LedIndex)

/-- `ugreen_led_set_brightness_blocking`. -/
def setBrightnessBlocking (brightness : UInt32) : Status × LedArray :=
  (.ok (), setBrightness script priv led brightness)

/-- `ugreen_led_set_blink`, with the two delays it writes back. -/
def setBlink
    (delayOn delayOff : UInt64) :
    Status × UInt64 × UInt64 × LedArray :=
  let delayOn := truncateDelay delayOn
  let delayOff := truncateDelay delayOff
  let after :=
    setBlinkOrBreath script priv led
      delayOn.toUInt16 (delayOn + delayOff).toUInt16 true
  let state := after.state led
  (if state.status = statusBlink then .ok () else .error .einval,
    state.tOn.toUInt64, state.tCycle.toUInt64 - state.tOn.toUInt64,
    after)

/-- `color_store`. -/
def colorStore (buf : List UInt8) : Except Errno Nat × LedArray :=
  match scanColor buf with
  | none =>
      (.error .einval, priv)
  | some (rgb, nrchars) =>
      if nrchars + 1 < buf.length then
        (.error .einval, priv)
      else
        (.ok buf.length,
          setColor script priv led rgb.r rgb.g rgb.b)

/-- What `blink_type_store` read from its buffer. -/
inductive BlinkType where
  | on
  | periodic (delayOn delayOff : UInt64) (isBlink : Bool)
  deriving DecidableEq, Repr

/-- The three formats of `blink_type_store`, in the order it tries them. -/
def scanBlinkType (buf : List UInt8) : Option (BlinkType × Nat) :=
  match scanDelays "blink" buf with
  | some (delayOn, delayOff, nrchars) =>
      some (.periodic delayOn delayOff true, nrchars)
  | none =>
      match scanDelays "breath" buf with
      | some (delayOn, delayOff, nrchars) =>
          some (.periodic delayOn delayOff false, nrchars)
      | none =>
          if cString buf = ascii "none\n" then
            some (.on, buf.length)
          else
            none

/-- `blink_type_store`. -/
def blinkTypeStore (buf : List UInt8) : Except Errno Nat × LedArray :=
  match scanBlinkType buf with
  | none =>
      (.error .einval, priv)
  | some (blinkType, nrchars) =>
      if nrchars + 1 < buf.length then
        (.error .einval, priv)
      else
        match blinkType with
        | .on =>
            (.ok buf.length, turnOnOrOff script priv led true)
        | .periodic delayOn delayOff isBlink =>
            let delayOn := truncateDelay delayOn
            let delayOff := truncateDelay delayOff
            (.ok buf.length,
              setBlinkOrBreath script priv led
                delayOn.toUInt16 (delayOn + delayOff).toUInt16
                isBlink)

end EntryPoints

section Probe

/-- `ugreen_led_get_state` on the bytes of one reply. -/
def getState (reply : List UInt8) : Option LedState :=
  match reply with
  | [b0, b1, b2, b3, b4, b5, b6, b7, b8, b9, b10] =>
      let sum :=
        checksum [b0, b1, b2, b3, b4, b5, b6, b7, b8]
      if sum = 0 ∨ sum ≠ (b9.toNat <<< 8 ||| b10.toNat) then
        none
      else
        some
          { status := b0
            brightness := b1
            r := b2
            g := b3
            b := b4
            tCycle := fromBytes b5 b6
            tOn := fromBytes b7 b8 }
  | _ =>
      none

/-- `ugreen_led_get_state_robust`: the first reply that is accepted. -/
def getStateRobust
    (replies : Nat → Except Errno (List UInt8))
    (state : LedState) : LedState :=
  let accepted :=
    (List.range changeStateRetryCount).findSome? fun attempt =>
      match replies attempt with
      | .ok reply =>
          getState reply
      | .error _ =>
          none
  accepted.getD { state with status := stateInvalid }

/-- One LED's turn in the first loop of `ugreen_led_probe`. -/
def probeLed
    (script : Script)
    (replies : LedIndex → Nat → Except Errno (List UInt8))
    (priv : LedArray)
    (led : LedIndex) : LedArray :=
  let read :=
    priv.setState led
      (getStateRobust (replies led) (priv.state led))
  if (read.state led).status = stateInvalid then
    read
  else
    let lit := setBrightness script read led 128
    setColor script lit led 0xff 0xff 0xff

/-- `ugreen_led_probe`. -/
def probe
    (script : Script)
    (replies : LedIndex → Nat → Except Errno (List UInt8))
    (mcu : LedIndex → McuLed) : LedArray :=
  (List.finRange ledCount).foldl (probeLed script replies)
    { state := fun _ => .zero
      bus := { mcu, served := fun _ => 0, sent := [] } }

end Probe

end KernelDriver

end UgreenLeds
