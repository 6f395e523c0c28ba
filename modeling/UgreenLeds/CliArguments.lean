import UgreenLeds.CliLeds
import UgreenLeds.CString

/-!
# The arguments of the command-line tool

The model of the parsing functions of `ugreen_leds_cli.cpp`.  An argument is a
string without null bytes.  Parsing an argument list can stop in three ways: at an
error it reports itself, at an exception of `std::stoi` that nobody catches, and
at the first character of an empty string, which does not exist.  The texts of the
error messages and the pauses between the I2C transfers are left out.
-/

namespace UgreenLeds

namespace CliLeds

/-- An element of `args`. -/
abbrev Argument := List UInt8

/-- How parsing ends before it is complete. -/
inductive Stop where
  /-- `show_help_and_exit`. -/
  | help
  /-- An exception of `std::stoi`, which terminates the program. -/
  | uncaught
  /-- `front()` of an empty string, which is undefined. -/
  | emptyFront
  deriving DecidableEq, Repr

/-- The two exceptions of `std::stoi`. -/
inductive StoiError where
  | invalidArgument
  | outOfRange
  deriving DecidableEq, Repr

/-- `std::stoi`, with the number of characters it has read. -/
def stoi (str : Argument) : Except StoiError (Int × Nat) :=
  let (negative, numeral) :=
    CString.splitSign (str.dropWhile CString.isSpace)
  let digits := numeral.takeWhile CString.isDigit
  if digits = [] then
    .error .invalidArgument
  else
    let magnitude : Int := CString.digitsValue digits
    let value := if negative then -magnitude else magnitude
    if value < -2147483648 ∨ 2147483647 < value then
      .error .outOfRange
    else
      .ok
        (value,
          str.length - (numeral.dropWhile CString.isDigit).length)

/-- `parse_integer`. -/
def parseInteger
    (str : Argument)
    (low high : Int) : Except Stop Int :=
  match stoi str with
  | .error _ =>
      .error .uncaught
  | .ok (value, size) =>
      if size ≠ str.length then
        .error .help
      else if value < low ∨ high < value then
        .error .help
      else
        .ok value

/-- `led_type_pair`. -/
abbrev LedTypePair := Argument × LedType

/-- `led_name_map`, in the order in which a map is traversed. -/
def ledNameMap : List LedTypePair :=
  [(ascii "disk1", .disk1), (ascii "disk2", .disk2),
    (ascii "disk3", .disk3), (ascii "disk4", .disk4),
    (ascii "disk5", .disk5), (ascii "disk6", .disk6),
    (ascii "disk7", .disk7), (ascii "disk8", .disk8),
    (ascii "netdev", .netdev), (ascii "power", .power)]

/-- `get_led_type`. -/
def getLedType (name : Argument) : Except Stop LedType :=
  match ledNameMap.find? fun entry => entry.1 = name with
  | none =>
      .error .help
  | some entry =>
      .ok entry.2

/-- An element of `ops_seq`: what its callback has captured. -/
inductive Operation where
  | onoff (lit : UInt8)
  | blinkOrBreath (isBlink : Bool) (tOn tOff : UInt16)
  | rgb (r g b : UInt8)
  | brightness (level : UInt8)
  | status
  deriving DecidableEq, Repr

/-- `is_modification`. -/
def Operation.isModification : Operation → Bool
  | .status =>
      false
  | _ =>
      true

/-- The frame that the callback of a modification writes. -/
def Operation.frame?
    (led : LedType) :
    Operation → Option Frame
  | .onoff lit =>
      setOnoff led lit
  | .blinkOrBreath isBlink tOn tOff =>
      some (setBlinkOrBreath (if isBlink then 0x04 else 0x05) led tOn tOff)
  | .rgb r g b =>
      some (setRgb led r g b)
  | .brightness level =>
      some (setBrightness led level)
  | .status =>
      none

/-- The loop of `main` over the options. -/
def parseOps : List Argument → Except Stop (List Operation)
  | [] =>
      .ok []
  | option :: args =>
      if option = ascii "-on" ∨ option = ascii "-off" then do
        let lit : UInt8 := if option = ascii "-on" then 1 else 0
        let rest ← parseOps args
        return .onoff lit :: rest
      else if option = ascii "-blink" ∨ option = ascii "-breath" then
        match args with
        | first :: second :: args => do
            let isBlink : Bool := option = ascii "-blink"
            let tOn ← parseInteger first 0x0000 0xffff
            let tOff ← parseInteger second 0x0000 0xffff
            let rest ← parseOps args
            return .blinkOrBreath isBlink (UInt16.ofInt tOn)
              (UInt16.ofInt tOff) :: rest
        | _ =>
            .error .help
      else if option = ascii "-color" then
        match args with
        | first :: second :: third :: args => do
            let r ← parseInteger first 0x00 0xff
            let g ← parseInteger second 0x00 0xff
            let b ← parseInteger third 0x00 0xff
            let rest ← parseOps args
            return .rgb (UInt8.ofInt r) (UInt8.ofInt g) (UInt8.ofInt b) ::
              rest
        | _ =>
            .error .help
      else if option = ascii "-brightness" then
        match args with
        | first :: args => do
            let level ← parseInteger first 0x00 0xff
            let rest ← parseOps args
            return .brightness (UInt8.ofInt level) :: rest
        | _ =>
            .error .help
      else if option = ascii "-status" then do
        let rest ← parseOps args
        return .status :: rest
      else
        .error .help

end CliLeds

end UgreenLeds
