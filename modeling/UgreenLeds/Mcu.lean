import UgreenLeds.RetryLoop
import UgreenLeds.Types

/-!
# The LED microcontroller and the bus in front of it

The MCU keeps one record per LED and executes the twelve-byte modification
frames of the protocol.  A frame with a wrong constant, identifier or checksum
is not a command and changes nothing.

The environment is a fixed script: the bus's answers to every attempt of every
command addressed to every LED.  A theorem that holds for all scripts therefore
holds for all outcomes of all transfers.  A frame that is not acknowledged is
executed or not, as the script decides; an acknowledged frame is executed.
-/

namespace UgreenLeds

/-- The status byte of an LED: `0` off, `1` on, `2` blink, `3` breath. -/
def statusOff : UInt8 := 0
def statusOn : UInt8 := 1
def statusBlink : UInt8 := 2
def statusBreath : UInt8 := 3

/-- The MCU's record of one LED. -/
structure McuLed where
  status : UInt8
  brightness : UInt8
  color : Rgb
  tOn : UInt16
  tCycle : UInt16
  deriving DecidableEq, Repr

/-- The five modification commands of the protocol. -/
inductive Command where
  | brightness : UInt8 → Command
  | color : Rgb → Command
  | onOff : Bool → Command
  | blink (cycle onTime : UInt16) : Command
  | breath (cycle onTime : UInt16) : Command
  deriving DecidableEq, Repr

namespace Command

/-- The effect of one command on the record of the addressed LED. -/
def execute : Command → McuLed → McuLed
  | .brightness level, led =>
      { led with brightness := level }
  | .color rgb, led =>
      { led with color := rgb }
  | .onOff lit, led =>
      { led with status := if lit then statusOn else statusOff }
  | .blink cycle onTime, led =>
      { led with status := statusBlink, tCycle := cycle, tOn := onTime }
  | .breath cycle onTime, led =>
      { led with status := statusBreath, tCycle := cycle, tOn := onTime }

/-- Every command only overwrites fields, so repeating it is harmless. -/
theorem execute_idempotent
    (command : Command)
    (led : McuLed) :
    command.execute (command.execute led) = command.execute led := by
  cases command <;> rfl

/-- Read a command byte and its four parameters. -/
def decode? (code p0 p1 p2 p3 : UInt8) : Option Command :=
  if code = 0x01 then
    some (.brightness p0)
  else if code = 0x02 then
    some (.color ⟨p0, p1, p2⟩)
  else if code = 0x03 then
    if p0 = 0 then
      some (.onOff false)
    else if p0 = 1 then
      some (.onOff true)
    else
      none
  else if code = 0x04 then
    some (.blink (fromBytes p0 p1) (fromBytes p2 p3))
  else if code = 0x05 then
    some (.breath (fromBytes p0 p1) (fromBytes p2 p3))
  else
    none

end Command

/-- The sum of a block of bytes, as an unsigned integer. -/
def checksum (data : List UInt8) : Nat :=
  (data.map UInt8.toNat).sum

/-- One I2C block write: the register and the bytes that follow it. -/
structure Frame where
  register : UInt8
  payload : List UInt8
  deriving DecidableEq, Repr

namespace Frame

/-- The command a frame carries, if the MCU accepts it. -/
def decode? (frame : Frame) : Option (LedIndex × Command) :=
  match frame.payload with
  | [ledId, c0, c1, c2, c3, code, p0, p1, p2, p3, sumHigh, sumLow] =>
      if ledId = frame.register ∧
          [c0, c1, c2, c3] = [0xa0, 0x01, 0x00, 0x00] ∧
          sumHigh.toNat * 256 + sumLow.toNat =
            checksum [c0, c1, c2, c3, code, p0, p1, p2, p3] then
        match ledIndex? ledId, Command.decode? code p0 p1 p2 p3 with
        | some led, some command =>
            some (led, command)
        | _, _ =>
            none
      else
        none
  | _ =>
      none

/-- The frame of the protocol for one command byte and its parameters. -/
def change
    (ledId code p0 p1 p2 p3 : UInt8)
    (sum : Nat) : Frame where
  register := ledId
  payload :=
    [ledId, 0xa0, 0x01, 0x00, 0x00, code, p0, p1, p2, p3,
      UInt8.ofNat (sum / 256), UInt8.ofNat sum]

/-- The checksum of the protocol fits the two bytes that carry it. -/
theorem checksum_lt
    (code p0 p1 p2 p3 : UInt8) :
    checksum [0xa0, 0x01, 0x00, 0x00, code, p0, p1, p2, p3] <
      65536 := by
  have := code.toNat_lt
  have := p0.toNat_lt
  have := p1.toNat_lt
  have := p2.toNat_lt
  have := p3.toNat_lt
  simp [checksum]
  omega

/-- A frame with the right checksum carries the command it was built from. -/
theorem decode?_change
    {ledId code p0 p1 p2 p3 : UInt8}
    {sum : Nat}
    (summed :
      sum = checksum
        [0xa0, 0x01, 0x00, 0x00, code, p0, p1, p2, p3])
    {led : LedIndex}
    (addressed : ledIndex? ledId = some led)
    {command : Command}
    (decoded : Command.decode? code p0 p1 p2 p3 = some command) :
    (change ledId code p0 p1 p2 p3 sum).decode? =
      some (led, command) := by
  have inRange : sum < 65536 :=
    summed ▸ checksum_lt code p0 p1 p2 p3
  have carried :
      (UInt8.ofNat (sum / 256)).toNat * 256 +
          (UInt8.ofNat sum).toNat =
        checksum
          [0xa0, 0x01, 0x00, 0x00, code, p0, p1, p2, p3] := by
    rw [← summed]
    simp only [UInt8.toNat_ofNat']
    omega
  simp only [decode?, change, addressed, decoded, carried,
    and_self, ↓reduceIte]

end Frame

/-- What the bus answers to one pass through a retry loop. -/
structure Attempt where
  /-- Error of the sleep before the frame, if it fails. -/
  delay : Option Errno
  /-- Error of the block write, if it fails. -/
  write : Option Errno
  /-- Error of the sleep between the frame and the acknowledgement read. -/
  settle : Option Errno
  /-- The read of register `0x80`. -/
  reply : Except Errno UInt8
  /-- Whether the MCU executes the frame although it is not acknowledged. -/
  applied : Bool

namespace Attempt

/-- An attempt that goes through. -/
def accepted : Attempt :=
  ⟨none, none, none, .ok 1, true⟩

/-- An attempt whose acknowledgement cannot be read. -/
def unanswered (applied : Bool) : Attempt :=
  ⟨none, none, none, .error .eio, applied⟩

end Attempt

/-- The answers to all attempts of one command. -/
abbrev Exchange := Nat → Attempt

/-- Some of the first attempts is written and answered with `1`. -/
def GoesThrough
    (exchange : Exchange)
    (retryCount : Nat) : Prop :=
  ∃ attempt < retryCount,
    (exchange attempt).write = none ∧
      (exchange attempt).reply = .ok 1

/-- None of the first attempts is executed without being acknowledged. -/
def NeverApplied
    (exchange : Exchange)
    (retryCount : Nat) : Prop :=
  ∀ attempt < retryCount, (exchange attempt).applied = false

/-- The answers to all commands, per addressed LED and in sending order. -/
abbrev Script := LedIndex → Nat → Exchange

/-- The I2C bus and the MCU behind it. -/
structure Bus where
  mcu : LedIndex → McuLed
  /-- How many commands addressed to an LED the script has answered. -/
  served : LedIndex → Nat
  /-- Every frame transmitted so far, oldest first. -/
  sent : List Frame

namespace Bus

/-- One block write, which the MCU executes or not. -/
def transmit
    (frame : Frame)
    (executed : Bool)
    (bus : Bus) : Bus :=
  { bus with
    mcu :=
      match executed, frame.decode? with
      | true, some (led, command) =>
          Function.update bus.mcu led (command.execute (bus.mcu led))
      | _, _ =>
          bus.mcu
    sent := bus.sent ++ [frame] }

/-- Drive one command to an LED, consuming one exchange of the script. -/
def command
    {Error : Type}
    (script : Script)
    (answer : Attempt → RetryLoop.Answer Error)
    (retryCount : Nat)
    (bus : Bus)
    (led : LedIndex)
    (frame : Frame)
    (initialError : Error) :
    RetryLoop.Outcome Error × Bus :=
  RetryLoop.drive
    (fun attempt => answer (script led (bus.served led) attempt))
    (transmit frame) retryCount 0 initialError
    { bus with
      served := Function.update bus.served led (bus.served led + 1) }

section Command

variable
  {Error : Type}
  (script : Script)
  (answer : Attempt → RetryLoop.Answer Error)
  (retryCount : Nat)
  (bus : Bus)
  (led : LedIndex)
  (frame : Frame)
  (initialError : Error)

/-- The answers that a command to an LED is about to receive. -/
def answersFor : Nat → RetryLoop.Answer Error :=
  fun attempt => answer (script led (bus.served led) attempt)

theorem command_outcome :
    (bus.command script answer retryCount led frame initialError).1 =
      RetryLoop.outcome (bus.answersFor script answer led)
        retryCount 0 initialError :=
  RetryLoop.drive_fst _ _ _ _ _ _

theorem command_served :
    (bus.command script answer retryCount led frame
        initialError).2.served =
      Function.update bus.served led (bus.served led + 1) :=
  RetryLoop.drive_frame _ (transmit frame) Bus.served
    (fun _ _ => rfl) _ _ _ _

theorem command_sent :
    (bus.command script answer retryCount led frame
        initialError).2.sent =
      bus.sent ++
        List.replicate
          (RetryLoop.transmissions
            (bus.answersFor script answer led) retryCount 0)
          frame :=
  RetryLoop.drive_log _ (transmit frame) Bus.sent
    (fun _ _ => rfl) _ _ _ _

/-- However often a command is repeated, the MCU executes it at most once. -/
theorem command_mcu
    {decoded : Command}
    (carries : frame.decode? = some (led, decoded)) :
    (bus.command script answer retryCount led frame
        initialError).2.mcu =
      if RetryLoop.executes (bus.answersFor script answer led)
          retryCount 0 then
        Function.update bus.mcu led (decoded.execute (bus.mcu led))
      else
        bus.mcu := by
  refine
    RetryLoop.drive_device _ (transmit frame) Bus.mcu
      (fun mcu =>
        Function.update mcu led (decoded.execute (mcu led)))
      ?_ ?_ ?_ _ _ _ _
  · intro mcu
    simp [decoded.execute_idempotent]
  · intro state
    simp [transmit, carries]
  · intro state
    simp [transmit]

/-- The record of the addressed LED after a command. -/
theorem command_mcu_self
    {decoded : Command}
    (carries : frame.decode? = some (led, decoded)) :
    (bus.command script answer retryCount led frame
        initialError).2.mcu led =
      if RetryLoop.executes (bus.answersFor script answer led)
          retryCount 0 then
        decoded.execute (bus.mcu led)
      else
        bus.mcu led := by
  rw [command_mcu _ _ _ _ _ _ _ carries]
  split <;> simp

/-- The record of every other LED after a command. -/
theorem command_mcu_of_ne
    {decoded : Command}
    (carries : frame.decode? = some (led, decoded))
    {other : LedIndex}
    (different : other ≠ led) :
    (bus.command script answer retryCount led frame
        initialError).2.mcu other =
      bus.mcu other := by
  rw [command_mcu _ _ _ _ _ _ _ carries]
  split <;> simp [Function.update_of_ne different]

end Command

end Bus

end UgreenLeds
