import UgreenLeds.Mcu
import UgreenLeds.ShadowedRegister

/-!
# The MCU as a device with three registers per LED

A client that caches what it sent to an LED keeps a shadow of three registers:
the colour, the brightness and the display, that is the mode together with its
timing where the mode has one.  Every command of the protocol writes exactly
one of them, so the daemon and the driver are both instances of a client with
a shadow.
-/

namespace UgreenLeds

/-- What an LED visibly does, with the timing of the periodic modes. -/
inductive Display where
  | off
  | on
  | blink (onMs cycleMs : Nat)
  | breath (onMs cycleMs : Nat)
  | other (status : UInt8)
  deriving DecidableEq, Repr

/-- The registers a command of the protocol can write. -/
inductive LedRegister where
  | color
  | brightness
  | display
  deriving DecidableEq, Repr

namespace LedRegister

/-- The values of each register. -/
abbrev Value : LedRegister → Type
  | color => Rgb
  | brightness => UInt8
  | display => Display

instance : ∀ register : LedRegister, DecidableEq register.Value
  | color => inferInstanceAs (DecidableEq Rgb)
  | brightness => inferInstanceAs (DecidableEq UInt8)
  | display => inferInstanceAs (DecidableEq Display)

end LedRegister

/-- The display a status byte and its timing describe. -/
def displayOf
    (status : UInt8)
    (onMs cycleMs : Nat) : Display :=
  if status = statusOff then
    .off
  else if status = statusOn then
    .on
  else if status = statusBlink then
    .blink onMs cycleMs
  else if status = statusBreath then
    .breath onMs cycleMs
  else
    .other status

/-- The status byte behind a display. -/
def Display.status : Display → UInt8
  | .off => statusOff
  | .on => statusOn
  | .blink _ _ => statusBlink
  | .breath _ _ => statusBreath
  | .other status => status

/-- A display determines its status byte. -/
@[simp] theorem Display.status_displayOf
    (status : UInt8)
    (onMs cycleMs : Nat) :
    (displayOf status onMs cycleMs).status = status := by
  unfold displayOf
  split
  · simp_all [Display.status]
  · split
    · simp_all [Display.status]
    · split
      · simp_all [Display.status]
      · split <;> simp_all [Display.status]

/-- The registers of one LED's record. -/
def McuLed.registers (led : McuLed) :
    ∀ register : LedRegister, register.Value
  | .color => led.color
  | .brightness => led.brightness
  | .display => displayOf led.status led.tOn.toNat led.tCycle.toNat

namespace Command

/-- The register a command writes. -/
def register : Command → LedRegister
  | .brightness _ => .brightness
  | .color _ => .color
  | .onOff _ | .blink _ _ | .breath _ _ => .display

/-- The value a command writes. -/
def value : (command : Command) → command.register.Value
  | .brightness level => level
  | .color rgb => rgb
  | .onOff lit => if lit then Display.on else Display.off
  | .blink cycle onTime => Display.blink onTime.toNat cycle.toNat
  | .breath cycle onTime => Display.breath onTime.toNat cycle.toNat

/-- Executing a command writes its value to its register and no other. -/
theorem registers_execute
    (command : Command)
    (led : McuLed) :
    (command.execute led).registers =
      Function.update led.registers command.register command.value := by
  funext register
  cases command with
  | brightness level =>
      cases register <;> rfl
  | color rgb =>
      cases register <;> rfl
  | onOff lit =>
      cases register with
      | color =>
          rfl
      | brightness =>
          rfl
      | display =>
          cases lit <;> rfl
  | blink cycle onTime =>
      cases register <;> rfl
  | breath cycle onTime =>
      cases register <;> rfl

end Command

/-- The status byte behind an off display. -/
theorem displayOf_eq_off
    {status : UInt8}
    {onMs cycleMs : Nat} :
    displayOf status onMs cycleMs = .off ↔ status = statusOff := by
  unfold displayOf
  split
  · simp_all
  · split <;> (try split) <;> (try split) <;> simp_all

/-- The status byte behind a steadily lit display. -/
theorem displayOf_eq_on
    {status : UInt8}
    {onMs cycleMs : Nat} :
    displayOf status onMs cycleMs = .on ↔ status = statusOn := by
  unfold displayOf
  split
  · rename_i isOff
    subst isOff
    simp [statusOff, statusOn]
  · split <;> (try split) <;> (try split) <;> simp_all

/-- The status byte and timing behind a blinking display. -/
theorem displayOf_eq_blink
    {status : UInt8}
    {onMs cycleMs onMs' cycleMs' : Nat} :
    displayOf status onMs cycleMs = .blink onMs' cycleMs' ↔
      status = statusBlink ∧ onMs = onMs' ∧ cycleMs = cycleMs' := by
  unfold displayOf
  by_cases off : status = statusOff
  · simp [off, statusOff, statusBlink]
  · by_cases on : status = statusOn
    · simp [on, statusOn, statusOff, statusBlink]
    · by_cases blink : status = statusBlink
      · simp [blink, statusOn, statusOff, statusBlink]
      · simp only [off, on, blink, ↓reduceIte, false_and, iff_false]
        split <;> simp

/-- The status byte and timing behind a breathing display. -/
theorem displayOf_eq_breath
    {status : UInt8}
    {onMs cycleMs onMs' cycleMs' : Nat} :
    displayOf status onMs cycleMs = .breath onMs' cycleMs' ↔
      status = statusBreath ∧ onMs = onMs' ∧ cycleMs = cycleMs' := by
  unfold displayOf
  by_cases breath : status = statusBreath
  · simp [breath, statusOn, statusOff, statusBlink, statusBreath]
  · simp only [breath, ↓reduceIte, false_and, iff_false]
    split <;> (try split) <;> (try split) <;> simp

end UgreenLeds
