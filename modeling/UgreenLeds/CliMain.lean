import UgreenLeds.CliArguments

/-!
# The command-line tool's main function

The model of `main` of `ugreen_leds_cli.cpp` and of the I2C device below it.  A
script decides how every single transfer ends, and the transfers are logged with
their results.  LED names are parsed first, which may already read from the
device; then the options; and then every LED receives every operation.  What is
printed is left out.
-/

namespace UgreenLeds

namespace CliLeds

/-- How the transfers end, by their number in the order of the run. -/
structure Transfers where
  /-- The error of a block write, if it fails. -/
  write : Nat → Option Errno
  /-- The byte a read of a register gives, unless it fails. -/
  readByte : Nat → Option UInt8
  /-- The block a read gives, unless it fails. -/
  readBlock : Nat → Option (Vector UInt8 11)

/-- One transfer on the bus, with its result. -/
inductive Transfer where
  | write (frame : Frame) (error : Option Errno)
  | readByte (register : UInt8) (reply : Option UInt8)
  | readBlock (register : UInt8) (reply : Option (Vector UInt8 11))
  deriving DecidableEq

/-- Every transfer so far, oldest first. -/
abbrev Log := List Transfer

variable (transfers : Transfers)

section Device

/-- `i2c_device_t::write_block_data`; whether it returned `0`. -/
def writeFrame
    (frame : Frame)
    (log : Log) : Bool × Log :=
  let error := transfers.write log.length
  (error.isNone, log ++ [.write frame error])

/-- `i2c_device_t::read_byte_data`, which gives `0` when it fails. -/
def readByteData
    (register : UInt8)
    (log : Log) : UInt8 × Log :=
  let reply := transfers.readByte log.length
  (reply.getD 0, log ++ [.readByte register reply])

/-- `get_status` with the transfer it makes. -/
def readStatus
    (led : LedType)
    (log : Log) : LedData × Log :=
  let register := 0x81 + led.toByte
  let reply := transfers.readBlock log.length
  (getStatus ((reply.map Vector.toList).getD []),
    log ++ [.readBlock register reply])

/-- `is_last_modification_successful`. -/
def isLastModificationSuccessful (log : Log) : Bool × Log :=
  let (accepted, log) := readByteData transfers 0x80 log
  (accepted = 1, log)

end Device

section Status

/-- `MAX_RETRY_COUNT`. -/
def maxRetryCount : Nat := 5

/-- The loop of `get_status_robust`. -/
def retryStatus
    (led : LedType) :
    (retries : Nat) → LedData → Log → LedData × Log
  | 0, data, log =>
      (data, log)
  | retries + 1, data, log =>
      if data.isAvailable then
        (data, log)
      else
        let (data, log) := readStatus transfers led log
        retryStatus led retries data log

/-- `get_status_robust`. -/
def getStatusRobust
    (led : LedType)
    (log : Log) : LedData × Log :=
  let (data, log) := readStatus transfers led log
  retryStatus transfers led (maxRetryCount - 1) data log

/-- `show_leds_info`; only its transfers matter. -/
def showLedsInfo
    (leds : List LedTypePair)
    (log : Log) : Log :=
  leds.foldl (fun log led => (getStatusRobust transfers led.2 log).2) log

end Status

section Parse

/-- The LEDs that `all` selects. -/
def availableLeds :
    List LedTypePair → Log → List LedTypePair × Log
  | [], log =>
      ([], log)
  | led :: rest, log =>
      let (data, log) := getStatusRobust transfers led.2 log
      let (leds, log) := availableLeds rest log
      (if data.isAvailable then led :: leds else leds, log)

/-- The loop of `main` over the LED names, with the arguments it leaves. -/
def parseLeds :
    List Argument → List LedTypePair → Log →
      Except Stop (List LedTypePair × List Argument) × Log
  | [], leds, log =>
      (.ok (leds, []), log)
  | [] :: _, _, log =>
      (.error .emptyFront, log)
  | (first :: name) :: args, leds, log =>
      if first = 45 then
        (.ok (leds, (first :: name) :: args), log)
      else if first :: name = ascii "all" then
        let (available, log) := availableLeds transfers ledNameMap log
        parseLeds args (leds ++ available) log
      else
        match getLedType (first :: name) with
        | .error stop =>
            (.error stop, log)
        | .ok led =>
            parseLeds args (leds ++ [(first :: name, led)]) log

/-- The parsing phase of `main`: the LEDs and, if there are any, the options. -/
def parse
    (args : List Argument)
    (log : Log) :
    Except Stop (List LedTypePair × Option (List Operation)) × Log :=
  match parseLeds transfers args [] log with
  | (.error stop, log) =>
      (.error stop, log)
  | (.ok (leds, []), log) =>
      (.ok (leds, none), log)
  | (.ok (leds, option :: args), log) =>
      match parseOps (option :: args) with
      | .error stop =>
          (.error stop, log)
      | .ok ops =>
          (.ok (leds, some ops), log)

variable
  {args : List Argument}
  {leds : List LedTypePair}
  {log after : Log}

/-- Without options only the LEDs are parsed. -/
theorem parse_of_names
    (parsed : parseLeds transfers args [] log = (.ok (leds, []), after)) :
    parse transfers args log = (.ok (leds, none), after) := by
  unfold parse
  rw [parsed]

/-- The options are parsed after the LEDs. -/
theorem parse_of_options
    {option : Argument}
    {rest : List Argument}
    (parsed :
      parseLeds transfers args [] log =
        (.ok (leds, option :: rest), after)) :
    parse transfers args log =
      ((parseOps (option :: rest)).map fun ops => (leds, some ops),
        after) := by
  unfold parse
  rw [parsed]
  cases ended : parseOps (option :: rest) <;>
    simp only [ended, Except.map]

/-- Nothing is parsed after an LED name that stops the program. -/
theorem parse_of_error
    {stop : Stop}
    (parsed : parseLeds transfers args [] log = (.error stop, after)) :
    parse transfers args log = (.error stop, after) := by
  unfold parse
  rw [parsed]

end Parse

section Run

/-- One pass of the retry loop: whether `last_status` is `0` afterwards. -/
def attempt
    (led : LedTypePair)
    (op : Operation)
    (log : Log) : Bool × Log :=
  if op.isModification then
    match op.frame? led.2 with
    | none =>
        (false, log)
    | some frame =>
        match writeFrame transfers frame log with
        | (false, log) =>
            (false, log)
        | (true, log) =>
            isLastModificationSuccessful transfers log
  else
    (true, showLedsInfo transfers [led] log)

/-- The retry loop for one LED and one operation. -/
def retryOp
    (led : LedTypePair)
    (op : Operation) :
    (retries : Nat) → Log → Bool × Log
  | 0, log =>
      (false, log)
  | retries + 1, log =>
      match attempt transfers led op log with
      | (true, log) =>
          (true, log)
      | (false, log) =>
          retryOp led op retries log

/-- The loop over the operations for one LED. -/
def runOps
    (led : LedTypePair) :
    List Operation → Log → Bool × Log
  | [], log =>
      (true, log)
  | op :: ops, log =>
      match retryOp transfers led op maxRetryCount log with
      | (false, log) =>
          (false, log)
      | (true, log) =>
          runOps led ops log

/-- The loop over the LEDs. -/
def runLeds
    (ops : List Operation) :
    List LedTypePair → Log → Bool × Log
  | [], log =>
      (true, log)
  | led :: leds, log =>
      match runOps transfers led ops log with
      | (false, log) =>
          (false, log)
      | (true, log) =>
          runLeds ops leds log

/-- How the program ends. -/
inductive Exit where
  | exited (status : Int)
  | stopped (stop : Stop)
  deriving DecidableEq, Repr

/-- `main`; `opened` says whether the I2C device could be opened. -/
def main
    (opened : Bool)
    (args : List Argument) : Exit × Log :=
  if args = [] then
    (.exited 0, [])
  else if !opened then
    (.exited (-1), [])
  else
    match parse transfers args [] with
    | (.error stop, log) =>
        (.stopped stop, log)
    | (.ok (leds, none), log) =>
        (.exited 0, showLedsInfo transfers leds log)
    | (.ok (leds, some ops), log) =>
        match runLeds transfers ops leds log with
        | (false, log) =>
            (.exited (-1), log)
        | (true, log) =>
            (.exited 0, log)

end Run

end CliLeds

end UgreenLeds
