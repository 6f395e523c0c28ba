import UgreenLeds.CString
import UgreenLeds.Types
import Mathlib.Data.List.DropRight

/-!
# The configuration as it is being read

The model of `struct config` with all its fields, its defaults, and the parsers
of single values in `config.c`.  While the file and the options are read,
nothing keeps the fields in a consistent state, so the structure carries no
invariant.  Memory allocations succeed.
-/

namespace UgreenLeds

open CString (isSpace content)

/-- `enum power_mode`. -/
inductive PowerMode where
  | on
  | blink
  | breath
  deriving DecidableEq, Repr

/-- `enum disk_mapping_method`. -/
inductive DiskMappingMethod where
  | ata
  | hctl
  | serial
  deriving DecidableEq, Repr

/-- `IFNAMSIZ`. -/
def ifNameSize : Nat := 16

/-- `UGREEN_MAX_SERIAL_LENGTH`. -/
def maxSerialLength : Nat := 128

/-- `struct config`. -/
structure ConfigData where
  /-- The bytes of the array, of which there are `IFNAMSIZ`. -/
  interface : List UInt8
  bpfObject : List UInt8
  configPath : List UInt8
  i2cDevice : Option (List UInt8)
  verbose : Bool
  networkEnabled : Bool
  disksEnabled : Bool
  powerEnabled : Bool
  networkIntervalMs : UInt32
  networkPulseMs : UInt32
  networkBrightness : UInt32
  networkRxColor : Rgb
  networkTxColor : Rgb
  diskIntervalMs : UInt32
  diskHoldMs : UInt32
  diskPulseMs : UInt32
  diskBrightness : UInt32
  diskColor : Rgb
  diskColors : Fin diskCount → Rgb
  diskColorSet : Fin diskCount → Bool
  diskInvert : Bool
  diskMapping : DiskMappingMethod
  diskSerials : Fin diskCount → List UInt8
  powerBrightness : UInt32
  powerColor : Rgb
  powerMode : PowerMode
  powerOnMs : UInt32
  powerOffMs : UInt32

namespace ConfigData

/-- `UGREEN_DEFAULT_BPF_OBJECT`. -/
def defaultBpfObject : List UInt8 := ascii "./ugreen_led.bpf.o"

/-- `UGREEN_DEFAULT_CONFIG_PATH`. -/
def defaultConfigPath : List UInt8 := ascii "/etc/ugreen-leds.conf"

/-- `config_set_defaults`. -/
def defaults : ConfigData where
  interface := List.replicate ifNameSize 0
  bpfObject := defaultBpfObject
  configPath := defaultConfigPath
  i2cDevice := none
  verbose := false
  networkEnabled := false
  disksEnabled := true
  powerEnabled := true
  networkIntervalMs := 100
  networkPulseMs := 45
  networkBrightness := 255
  networkRxColor := ⟨0, 96, 255⟩
  networkTxColor := ⟨255, 0, 0⟩
  diskIntervalMs := 100
  diskHoldMs := 200
  diskPulseMs := 45
  diskBrightness := 255
  diskColor := ⟨255, 255, 255⟩
  diskColors := fun _ => ⟨0, 0, 0⟩
  diskColorSet := fun _ => false
  diskInvert := false
  diskMapping := .ata
  diskSerials := fun _ => []
  powerBrightness := 255
  powerColor := ⟨255, 255, 255⟩
  powerMode := .on
  powerOnMs := 0
  powerOffMs := 0

end ConfigData

section Parsers

/-- `parse_unsigned`. -/
def parseUnsigned
    (text : List UInt8)
    (minimum maximum : UInt32) : Except Errno UInt32 :=
  let conversion := CString.strtoul text
  if conversion.rangeError ∨ conversion.rest = text ∨
      conversion.rest ≠ [] ∨ conversion.value < minimum.toUInt64 ∨
      conversion.value > maximum.toUInt64 then
    .error .einval
  else
    .ok conversion.value.toUInt32

/-- `parse_boolean`. -/
def parseBoolean (text : List UInt8) : Except Errno Bool :=
  if CString.equalIgnoringCase text (ascii "true") ∨
      text = ascii "1" ∨
      CString.equalIgnoringCase text (ascii "yes") then
    .ok true
  else if CString.equalIgnoringCase text (ascii "false") ∨
      text = ascii "0" ∨
      CString.equalIgnoringCase text (ascii "no") then
    .ok false
  else
    .error .einval

/-- The three numbers one of the formats of `parse_rgb` reads. -/
def scanRgb?
    (format : List CString.Directive)
    (text : List UInt8) : Option (UInt32 × UInt32 × UInt32) :=
  match CString.sscanf format text with
  | [.unsigned r, .unsigned g, .unsigned b] =>
      some (r, g, b)
  | _ =>
      none

/-- The format `"%u,%u,%u%c"`. -/
def commaFormat : List CString.Directive :=
  [.unsigned, .literal 44, .unsigned, .literal 44, .unsigned, .char]

/-- The format `"%u %u %u%c"`. -/
def blankFormat : List CString.Directive :=
  [.unsigned, .space, .unsigned, .space, .unsigned, .char]

/-- `parse_rgb`. -/
def parseRgb (text : List UInt8) : Except Errno Rgb :=
  match (scanRgb? commaFormat text).or (scanRgb? blankFormat text) with
  | none =>
      .error .einval
  | some (r, g, b) =>
      if r > 255 ∨ g > 255 ∨ b > 255 then
        .error .erange
      else
        .ok ⟨r.toUInt8, g.toUInt8, b.toUInt8⟩

/-- `trim`. -/
def trim (text : List UInt8) : List UInt8 :=
  (text.dropWhile isSpace).rdropWhile isSpace

/-- The loop of `config_value`, which cuts off a comment outside quotes. -/
def cutComment : Option UInt8 → List UInt8 → List UInt8
  | _, [] =>
      []
  | quote, first :: rest =>
      if (first = 39 ∨ first = 34) ∧
          (quote = none ∨ quote = some first) then
        first ::
          cutComment (if quote = none then some first else none) rest
      else if first = 35 ∧ quote = none then
        []
      else
        first :: cutComment quote rest

/-- The end of `config_value`, which strips one pair of quotes. -/
def unquote (text : List UInt8) : List UInt8 :=
  if 2 ≤ text.length ∧
      ((text.head? = some 34 ∧ text.getLast? = some 34) ∨
        (text.head? = some 39 ∧ text.getLast? = some 39)) then
    text.tail.dropLast
  else
    text

/-- `config_value`. -/
def configValue (text : List UInt8) : List UInt8 :=
  unquote (trim (cutComment none text))

/-- `parse_mapping`. -/
def parseMapping (text : List UInt8) : Except Errno DiskMappingMethod :=
  if text = ascii "ata" then
    .ok .ata
  else if text = ascii "hctl" then
    .ok .hctl
  else if text = ascii "serial" then
    .ok .serial
  else
    .error .einval

/-- `copy_interface`. -/
def copyInterface
    (text : List UInt8)
    (config : ConfigData) : Status × ConfigData :=
  let name := content text
  if name = [] ∨ ifNameSize ≤ name.length then
    (.error .einval, config)
  else
    (.ok (),
      { config with
        interface :=
          name ++ 0 :: config.interface.drop (name.length + 1)
        networkEnabled := true })

/-- The delimiters of `parse_serials`. -/
def isSerialDelimiter (byte : UInt8) : Bool :=
  byte = 32 || byte = 9 || byte = 44

/-- The loop of `parse_serials`. -/
def fillSerials
    (serials : Fin diskCount → List UInt8) :
    (slot : Nat) → List (List UInt8) →
      Status × (Fin diskCount → List UInt8)
  | _, [] =>
      (.ok (), serials)
  | slot, token :: rest =>
      if fits : slot < diskCount then
        if maxSerialLength ≤ token.length then
          (.error .e2big, serials)
        else
          fillSerials (Function.update serials ⟨slot, fits⟩ token)
            (slot + 1) rest
      else
        (.error .e2big, serials)

/-- `parse_serials`. -/
def parseSerials
    (text : List UInt8)
    (config : ConfigData) : Status × ConfigData :=
  let (status, diskSerials) :=
    fillSerials (fun _ => []) 0 (CString.tokens isSerialDelimiter text)
  (status, { config with diskSerials })

/-- The format `"%15s %u %u %c"`. -/
def powerFormat : List CString.Directive :=
  [.word 15, .space, .unsigned, .space, .unsigned, .space, .char]

/-- `parse_power_mode`. -/
def parsePowerMode
    (text : List UInt8)
    (config : ConfigData) : Status × ConfigData :=
  match CString.sscanf powerFormat text with
  | [.word mode] =>
      if mode = ascii "none" then
        (.ok (), { config with powerMode := .on })
      else
        (.error .einval, config)
  | [.word mode, .unsigned onMs, .unsigned offMs] =>
      if onMs > 65535 ∨ offMs > 65535 ∨ onMs + offMs > 65535 then
        (.error .einval, config)
      else if mode = ascii "blink" then
        (.ok (),
          { config with
            powerMode := .blink
            powerOnMs := onMs
            powerOffMs := offMs })
      else if mode = ascii "breath" then
        (.ok (),
          { config with
            powerMode := .breath
            powerOnMs := onMs
            powerOffMs := offMs })
      else
        (.error .einval, config)
  | _ =>
      (.error .einval, config)

/-- The format `"COLOR_DISK_HEALTH_PER_DISK[disk%u]%c"`. -/
def perDiskFormat : List CString.Directive :=
  (ascii "COLOR_DISK_HEALTH_PER_DISK[disk").map .literal ++
    [.unsigned, .literal 93, .char]

/-- `per_disk_color_slot`. -/
def perDiskColorSlot (key : List UInt8) : Option (Fin diskCount) :=
  match CString.sscanf perDiskFormat key with
  | [.unsigned disk] =>
      if inRange : 1 ≤ disk.toNat ∧ disk.toNat ≤ diskCount then
        some ⟨disk.toNat - 1, by omega⟩
      else
        none
  | _ =>
      none

end Parsers

end UgreenLeds
