import UgreenLeds.Mcu

/-!
# The command-line tool's LED controller

The model of `ugreen_leds.cpp`: the encoder of modification frames, the decoder
of status replies and the setters on top of the encoder.  An `int` is an
integer whose additions wrap at 32 bits.  Finding and opening the I2C device is
left out; a failed read is an empty reply, as in `i2c.cpp`.
-/

namespace UgreenLeds

namespace CliLeds

/-- `op_mode_t`. -/
inductive OpMode where
  | off
  | on
  | blink
  | breath
  deriving DecidableEq, Repr

/-- The value of an `op_mode_t`. -/
def OpMode.toByte : OpMode → UInt8
  | .off => 0
  | .on => 1
  | .blink => 2
  | .breath => 3

/-- The `switch` of `get_status` over the status byte. -/
def opModeOf (status : UInt8) : Option OpMode :=
  if status = 0 then some .off
  else if status = 1 then some .on
  else if status = 2 then some .blink
  else if status = 3 then some .breath
  else none

/-- `led_type_t`. -/
inductive LedType where
  | power
  | netdev
  | disk1
  | disk2
  | disk3
  | disk4
  | disk5
  | disk6
  | disk7
  | disk8
  deriving DecidableEq, Repr

/-- The value of a `led_type_t`. -/
def LedType.toByte : LedType → UInt8
  | .power => 0
  | .netdev => 1
  | .disk1 => 2
  | .disk2 => 3
  | .disk3 => 4
  | .disk4 => 5
  | .disk5 => 6
  | .disk6 => 7
  | .disk7 => 8
  | .disk8 => 9

/-- `led_data_t`. -/
structure LedData where
  isAvailable : Bool
  opMode : OpMode
  brightness : UInt8
  colorR : UInt8
  colorG : UInt8
  colorB : UInt8
  tOn : UInt16
  tOff : UInt16
  deriving DecidableEq, Repr

/-- A value-initialised `led_data_t`. -/
def LedData.zero : LedData :=
  ⟨false, .off, 0, 0, 0, 0, 0, 0⟩

section Checksum

/-- `sum += (int)byte`. -/
def addInt
    (sum : Int)
    (byte : UInt8) : Int :=
  (sum + byte.toNat).bmod (2 ^ 32)

/-- `compute_checksum`. -/
def computeChecksum
    (data : List UInt8)
    (size : Nat) : Int :=
  if size < 2 ∨ size > data.length then
    0
  else
    (data.take size).foldl addInt 0

/-- `verify_checksum`. -/
def verifyChecksum (data : List UInt8) : Bool :=
  let size := data.length
  if size < 2 then
    false
  else
    let sum := computeChecksum data (size - 2)
    let low := data.getD (size - 1) 0
    let high := data.getD (size - 2) 0
    sum ≠ 0 && sum = ((low.toNat ||| (high.toNat <<< 8) : Nat) : Int)

/-- `append_checksum`; the masks with `0xff` are the conversions to a byte. -/
def appendChecksum (data : List UInt8) : List UInt8 :=
  let sum := computeChecksum data data.length
  data ++ [UInt8.ofInt (sum.shiftRight 8), UInt8.ofInt sum]

end Checksum

/-- The block write of `i2c_device_t`, which is cut at `I2C_SMBUS_BLOCK_MAX`. -/
def writeBlockData
    (command : UInt8)
    (data : List UInt8) : Frame where
  register := command
  payload := data.take 32

section Encoder

/-- The frame `_change_status` writes. -/
def changeStatus
    (id : LedType)
    (command : UInt8)
    (params : Vector (Option UInt8) 4) : Frame :=
  let data :=
    [0x00, 0xa0, 0x01, 0x00, 0x00, command,
      (params.getD 0 none).getD 0x00, (params.getD 1 none).getD 0x00,
      (params.getD 2 none).getD 0x00, (params.getD 3 none).getD 0x00]
  writeBlockData id.toByte ((appendChecksum data).set 0 id.toByte)

/-- `set_onoff`; only a status of `0` or `1` is sent. -/
def setOnoff
    (id : LedType)
    (status : UInt8) : Option Frame :=
  if 2 ≤ status then
    none
  else
    some (changeStatus id 0x03 #v[some status, none, none, none])

/-- `set_rgb`. -/
def setRgb
    (id : LedType)
    (r g b : UInt8) : Frame :=
  changeStatus id 0x02 #v[some r, some g, some b, none]

/-- `set_brightness`. -/
def setBrightness
    (id : LedType)
    (brightness : UInt8) : Frame :=
  changeStatus id 0x01 #v[some brightness, none, none, none]

/-- `_set_blink_or_breath`; the cycle is a `uint16_t` and wraps. -/
def setBlinkOrBreath
    (command : UInt8)
    (id : LedType)
    (tOn tOff : UInt16) : Frame :=
  let tHight := tOn + tOff
  let tLow := tOn
  changeStatus id command
    #v[some (highByte tHight), some (lowByte tHight),
      some (highByte tLow), some (lowByte tLow)]

end Encoder

/-- `get_status` on the bytes of one reply. -/
def getStatus (rawData : List UInt8) : LedData :=
  if rawData.length ≠ 0xb ∨ ¬ verifyChecksum rawData then
    .zero
  else
    let byte := fun position => rawData.getD position 0
    match opModeOf (byte 0) with
    | none =>
        .zero
    | some opMode =>
        let tHight : Int := ((byte 5).toNat <<< 8 ||| (byte 6).toNat : Nat)
        let tLow : Int := ((byte 7).toNat <<< 8 ||| (byte 8).toNat : Nat)
        { isAvailable := true
          opMode
          brightness := byte 1
          colorR := byte 2
          colorG := byte 3
          colorB := byte 4
          tOn := UInt16.ofInt tLow
          tOff := UInt16.ofInt (tHight - tLow) }

end CliLeds

end UgreenLeds
