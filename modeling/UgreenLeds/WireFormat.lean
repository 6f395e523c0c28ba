import UgreenLeds.CliLeds
import UgreenLeds.KernelDriverSlice
import UgreenLeds.LedController
import UgreenLeds.RunningSum

/-!
# One wire format behind three encoders

The driver folds the constant bytes into its checksum and adds up 16-bit words,
the daemon loops over an array whose first byte is still zero, and the
command-line tool sums a growing vector of bytes before it patches the first
one.  All three arrive at `Frame.change`, because none of their sums comes near
the limit of its type.
-/

namespace UgreenLeds

open RunningSum

section Accumulators

/-- One addition of the driver's `u16` sum. -/
def addU16
    (sum : UInt16)
    (byte : UInt8) : UInt16 :=
  sum + byte.toUInt16

/-- One addition of the daemon's `unsigned` sum. -/
def addUnsigned
    (sum : UInt32)
    (byte : UInt8) : UInt32 :=
  sum + byte.toUInt32

theorem addU16_exactBelow :
    ExactBelow (fun sum : UInt16 => (sum.toNat : Int)) UInt8.toNat
      (2 ^ 16) addU16 := by
  intro sum byte total value below
  have same : sum.toNat = total := Int.ofNat_inj.mp value
  simp only [addU16, UInt16.toNat_add, UInt8.toNat_toUInt16, same,
    Nat.mod_eq_of_lt below]

theorem addUnsigned_exactBelow :
    ExactBelow (fun sum : UInt32 => (sum.toNat : Int)) UInt8.toNat
      (2 ^ 32) addUnsigned := by
  intro sum byte total value below
  have same : sum.toNat = total := Int.ofNat_inj.mp value
  simp only [addUnsigned, UInt32.toNat_add, UInt8.toNat_toUInt32, same,
    Nat.mod_eq_of_lt below]

theorem addInt_exactBelow :
    ExactBelow id UInt8.toNat (2 ^ 31) CliLeds.addInt := by
  intro sum byte total value below
  simp only [id] at value ⊢
  rw [CliLeds.addInt, value, Int.bmod_eq_of_le] <;> omega

/-- `compute_checksum` is exact on every sum below the limit of an `int`. -/
theorem CliLeds.computeChecksum_eq
    (data : List UInt8)
    {size : Nat}
    (enough : 2 ≤ size)
    (inside : size ≤ data.length)
    (fits : checksum (data.take size) < 2 ^ 31) :
    computeChecksum data size =
      (checksum (data.take size) : Int) := by
  have accepted : ¬ (size < 2 ∨ size > data.length) := by
    omega
  have belowLimit :
      0 + ((data.take size).map UInt8.toNat).sum < 2 ^ 31 := by
    rwa [Nat.zero_add]
  have summed := addInt_exactBelow.foldl_eq 0 0 rfl belowLimit
  rw [Nat.zero_add, id] at summed
  rw [computeChecksum, if_neg accepted]
  exact summed

end Accumulators

section Encoders

variable (ledId command p0 p1 p2 p3 : UInt8)

/-- The bytes a modification frame carries before its identifier is set. -/
def unaddressed : List UInt8 :=
  [0x00, 0xa0, 0x01, 0x00, 0x00, command, p0, p1, p2, p3]

/-- The checksum of the protocol, as a number. -/
def frameSum : Nat :=
  checksum [0xa0, 0x01, 0x00, 0x00, command, p0, p1, p2, p3]

/-- The daemon's `checksum` in its own type. -/
def checksumUnsigned (data : List UInt8) : UInt32 :=
  data.foldl addUnsigned 0

/-- `change_status_once` with the sum in its own type. -/
def changeStatusOnce : Frame where
  register := ledId
  payload :=
    let sum := checksumUnsigned (unaddressed command p0 p1 p2 p3)
    [ledId, 0xa0, 0x01, 0x00, 0x00, command, p0, p1, p2, p3,
      (sum >>> 8).toUInt8, sum.toUInt8]

/-- The values of the driver's `cksum` while its terms are added. -/
def driverSums : List UInt16 :=
  running addU16 0xa1 [command, p0, p1, p2, p3]

/-- The values of `sum` in the daemon's `checksum`. -/
def daemonSums : List UInt32 :=
  running addUnsigned 0 (unaddressed command p0 p1 p2 p3)

/-- The values of `sum` in the tool's `compute_checksum`. -/
def cliSums : List Int :=
  running CliLeds.addInt 0 (unaddressed command p0 p1 p2 p3)

/-- The leading zero adds nothing to the checksum. -/
theorem sum_unaddressed :
    ((unaddressed command p0 p1 p2 p3).map UInt8.toNat).sum =
      frameSum command p0 p1 p2 p3 := by
  simp [unaddressed, frameSum, checksum]

/-- The folded constant is the sum of the constant bytes. -/
theorem sum_folded :
    0xa1 + ([command, p0, p1, p2, p3].map UInt8.toNat).sum =
      frameSum command p0 p1 p2 p3 := by
  simp [frameSum, checksum]
  omega

theorem frameSum_lt : frameSum command p0 p1 p2 p3 < 65536 :=
  Frame.checksum_lt command p0 p1 p2 p3

/-- `change_status_once` writes the frame of the protocol. -/
theorem changeStatusOnce_eq :
    changeStatusOnce ledId command p0 p1 p2 p3 =
      .change ledId command p0 p1 p2 p3
        (frameSum command p0 p1 p2 p3) := by
  have inRange := frameSum_lt command p0 p1 p2 p3
  have total :
      (checksumUnsigned (unaddressed command p0 p1 p2 p3)).toNat =
        frameSum command p0 p1 p2 p3 := by
    have fits :
        0 + ((unaddressed command p0 p1 p2 p3).map UInt8.toNat).sum <
          2 ^ 32 := by
      rw [sum_unaddressed]
      omega
    have summed := addUnsigned_exactBelow.foldl_eq 0 0 rfl fits
    rw [sum_unaddressed, Nat.zero_add] at summed
    exact Int.ofNat_inj.mp summed
  have high :
      (checksumUnsigned (unaddressed command p0 p1 p2 p3) >>> 8).toUInt8 =
        UInt8.ofNat (frameSum command p0 p1 p2 p3 / 256) := by
    apply UInt8.toNat_inj.mp
    rw [← total]
    simp [Nat.shiftRight_eq_div_pow]
  have low :
      (checksumUnsigned (unaddressed command p0 p1 p2 p3)).toUInt8 =
        UInt8.ofNat (frameSum command p0 p1 p2 p3) := by
    apply UInt8.toNat_inj.mp
    rw [← total]
    simp
  simp only [changeStatusOnce, Frame.change, high, low]

/-- `ugreen_led_change_state` writes the frame of the protocol. -/
theorem changeStateFrame_eq :
    KernelDriver.changeStateFrame ledId command p0 p1 p2 p3 =
      .change ledId command p0 p1 p2 p3
        (frameSum command p0 p1 p2 p3) := by
  have total :
      ([command, p0, p1, p2, p3].foldl addU16 0xa1).toNat =
        frameSum command p0 p1 p2 p3 := by
    have fits :
        0xa1 + ([command, p0, p1, p2, p3].map UInt8.toNat).sum <
          2 ^ 16 := by
      rw [sum_folded]
      exact frameSum_lt command p0 p1 p2 p3
    have summed := addU16_exactBelow.foldl_eq 0xa1 0xa1 rfl fits
    rw [sum_folded] at summed
    exact Int.ofNat_inj.mp summed
  rw [← total]
  simp only [KernelDriver.changeStateFrame, Frame.change, highByte_eq,
    lowByte_eq]
  rfl

/-- Converting a number from `int` to a byte keeps its low bits. -/
theorem ofInt_natCast (number : Nat) :
    UInt8.ofInt (number : Int) = UInt8.ofNat number := by
  apply UInt8.toNat_inj.mp
  simp only [UInt8.ofInt, UInt8.toNat_ofNat']
  omega

/-- The bytes `append_checksum` adds are those of the exact sum. -/
theorem appendChecksum_eq :
    CliLeds.appendChecksum (unaddressed command p0 p1 p2 p3) =
      unaddressed command p0 p1 p2 p3 ++
        [UInt8.ofNat (frameSum command p0 p1 p2 p3 / 256),
          UInt8.ofNat (frameSum command p0 p1 p2 p3)] := by
  have inRange := frameSum_lt command p0 p1 p2 p3
  have whole :
      checksum
          ((unaddressed command p0 p1 p2 p3).take
            (unaddressed command p0 p1 p2 p3).length) =
        frameSum command p0 p1 p2 p3 := by
    rw [List.take_length]
    exact sum_unaddressed command p0 p1 p2 p3
  have total :
      CliLeds.computeChecksum (unaddressed command p0 p1 p2 p3)
          (unaddressed command p0 p1 p2 p3).length =
        (frameSum command p0 p1 p2 p3 : Int) := by
    have exactSum :=
      CliLeds.computeChecksum_eq
        (unaddressed command p0 p1 p2 p3)
        (by simp [unaddressed]) (Nat.le_refl _) (by rw [whole]; omega)
    rwa [whole] at exactSum
  have high :
      (frameSum command p0 p1 p2 p3 : Int).shiftRight 8 =
        ((frameSum command p0 p1 p2 p3 / 256 : Nat) : Int) :=
    congrArg Int.ofNat (Nat.shiftRight_eq_div_pow _ 8)
  rw [CliLeds.appendChecksum, total, high, ofInt_natCast, ofInt_natCast]

/-- `_change_status` writes the frame of the protocol. -/
theorem cli_changeStatus_eq
    (id : CliLeds.LedType)
    (params : Vector (Option UInt8) 4) :
    let param (index : Nat) : UInt8 := (params.getD index none).getD 0
    CliLeds.changeStatus id command params =
      .change id.toByte command (param 0) (param 1) (param 2) (param 3)
        (frameSum command (param 0) (param 1) (param 2) (param 3)) := by
  intro param
  have appended :=
    appendChecksum_eq command (param 0) (param 1) (param 2) (param 3)
  simp only [unaddressed, param] at appended
  simp only [CliLeds.changeStatus, CliLeds.writeBlockData, appended]
  rfl

/-- Lists of numbers that agree as integers agree. -/
theorem map_toNat_eq
    {Machine : Type}
    {toNat : Machine → Nat}
    {sums : List Machine}
    {exact : List Nat}
    (same :
      sums.map (fun sum => (toNat sum : Int)) =
        exact.map (fun sum : Nat => (sum : Int))) :
    sums.map toNat = exact := by
  have injective : Function.Injective (fun sum : Nat => (sum : Int)) :=
    Int.ofNat_injective
  apply List.map_injective_iff.mpr injective
  rw [List.map_map]
  exact same

/-- The driver's sum never wraps. -/
theorem driverSums_eq :
    (driverSums command p0 p1 p2 p3).map UInt16.toNat =
      exactly UInt8.toNat 0xa1 [command, p0, p1, p2, p3] := by
  apply map_toNat_eq
  apply addU16_exactBelow.running_eq 0xa1 0xa1 rfl
  rw [sum_folded]
  exact frameSum_lt command p0 p1 p2 p3

/-- The daemon's sum never wraps. -/
theorem daemonSums_eq :
    (daemonSums command p0 p1 p2 p3).map UInt32.toNat =
      exactly UInt8.toNat 0 (unaddressed command p0 p1 p2 p3) := by
  have inRange := frameSum_lt command p0 p1 p2 p3
  apply map_toNat_eq
  apply addUnsigned_exactBelow.running_eq 0 0 rfl
  rw [sum_unaddressed]
  omega

/-- The tool's sum never wraps. -/
theorem cliSums_eq :
    cliSums command p0 p1 p2 p3 =
      (exactly UInt8.toNat 0
        (unaddressed command p0 p1 p2 p3)).map Int.ofNat := by
  have inRange := frameSum_lt command p0 p1 p2 p3
  have fits :
      0 + ((unaddressed command p0 p1 p2 p3).map UInt8.toNat).sum <
        2 ^ 31 := by
    rw [sum_unaddressed]
    omega
  have summed := addInt_exactBelow.running_eq 0 0 rfl fits
  rw [List.map_id] at summed
  exact summed

end Encoders

/-- The last two bytes of a payload are the sum of its bytes 1 to 9. -/
def EndsWithSum (payload : List UInt8) : Prop :=
  payload.length = 12 ∧
    (payload.getD 10 0).toNat * 256 + (payload.getD 11 0).toNat =
      checksum ((payload.drop 1).take 9)

/-- A frame of the protocol ends with its sum. -/
theorem endsWithSum_change (ledId command p0 p1 p2 p3 : UInt8) :
    EndsWithSum
      (Frame.change ledId command p0 p1 p2 p3
        (frameSum command p0 p1 p2 p3)).payload := by
  have inRange := frameSum_lt command p0 p1 p2 p3
  have carried :
      (UInt8.ofNat (frameSum command p0 p1 p2 p3 / 256)).toNat * 256 +
          (UInt8.ofNat (frameSum command p0 p1 p2 p3)).toNat =
        frameSum command p0 p1 p2 p3 := by
    simp only [UInt8.toNat_ofNat']
    omega
  exact ⟨rfl, carried⟩

/--
For every LED, command byte and parameters, absent ones being zero, the three
encoders write the same register and the same twelve bytes, which end with the
sum of bytes 1 to 9, and no intermediate sum of any of them wraps.
-/
theorem one_wire_format
    (id : CliLeds.LedType)
    (command : UInt8)
    (params : Vector (Option UInt8) 4) :
    let p0 := (params.getD 0 none).getD 0
    let p1 := (params.getD 1 none).getD 0
    let p2 := (params.getD 2 none).getD 0
    let p3 := (params.getD 3 none).getD 0
    let frame := CliLeds.changeStatus id command params
    KernelDriver.changeStateFrame id.toByte command p0 p1 p2 p3 = frame ∧
      changeStatusOnce id.toByte command p0 p1 p2 p3 = frame ∧
      EndsWithSum frame.payload ∧
      (driverSums command p0 p1 p2 p3).map UInt16.toNat =
        exactly UInt8.toNat 0xa1 [command, p0, p1, p2, p3] ∧
      (daemonSums command p0 p1 p2 p3).map UInt32.toNat =
        exactly UInt8.toNat 0 (unaddressed command p0 p1 p2 p3) ∧
      cliSums command p0 p1 p2 p3 =
        (exactly UInt8.toNat 0
          (unaddressed command p0 p1 p2 p3)).map Int.ofNat := by
  intro p0 p1 p2 p3 frame
  have written : frame = _ := cli_changeStatus_eq command id params
  rw [written]
  refine ⟨changeStateFrame_eq _ _ _ _ _ _,
    changeStatusOnce_eq _ _ _ _ _ _,
    endsWithSum_change _ _ _ _ _ _, ?_, ?_, ?_⟩
  · exact driverSums_eq command p0 p1 p2 p3
  · exact daemonSums_eq command p0 p1 p2 p3
  · exact cliSums_eq command p0 p1 p2 p3

end UgreenLeds
