import Mathlib.Logic.Function.Basic
import Mathlib.Data.UInt

/-!
# Shared types of the LED programs

The constants and small types that the daemon, the kernel driver and the
command-line tool have in common: LED identifiers, colours and error numbers.
-/

namespace UgreenLeds

/-- An error number as `errno` reports it: never zero. -/
structure Errno where
  code : Nat
  positive : 0 < code
  deriving DecidableEq, Repr

namespace Errno

def enoent : Errno := ⟨2, by decide⟩
def eintr : Errno := ⟨4, by decide⟩
def eio : Errno := ⟨5, by decide⟩
def e2big : Errno := ⟨7, by decide⟩
def eagain : Errno := ⟨11, by decide⟩
def eexist : Errno := ⟨17, by decide⟩
def enodev : Errno := ⟨19, by decide⟩
def einval : Errno := ⟨22, by decide⟩
def erange : Errno := ⟨34, by decide⟩
def enametoolong : Errno := ⟨36, by decide⟩
def enobufs : Errno := ⟨105, by decide⟩
def eremoteio : Errno := ⟨121, by decide⟩

end Errno

/-- The C convention of returning `0` or a negated error number. -/
abbrev Status := Except Errno Unit

instance : DecidableEq Status
  | .ok (), .ok () => isTrue rfl
  | .ok (), .error _ => isFalse (by simp)
  | .error _, .ok () => isFalse (by simp)
  | .error first, .error second =>
      decidable_of_iff (first = second) (by simp)

/-- `UGREEN_LED_COUNT`, and `UGREEN_MAX_LED_NUMBER` in the driver. -/
abbrev ledCount : Nat := 10

/-- `UGREEN_DISK_COUNT`. -/
abbrev diskCount : Nat := 8

/-- `UGREEN_LED_POWER`. -/
def ledPower : UInt8 := 0

/-- `UGREEN_LED_NETWORK`. -/
def ledNetwork : UInt8 := 1

/-- `UGREEN_LED_DISK_FIRST`. -/
def ledDiskFirst : UInt8 := 2

/-- An LED that exists on the front panel. -/
abbrev LedIndex := Fin ledCount

/-- The range check that guards every use of a raw LED identifier. -/
def ledIndex? (ledId : UInt8) : Option LedIndex :=
  if inRange : ledId.toNat < ledCount then
    some ⟨ledId.toNat, inRange⟩
  else
    none

/-- An accepted identifier denotes the LED with the same number. -/
theorem ledIndex?_eq_some
    {ledId : UInt8}
    {led : LedIndex} :
    ledIndex? ledId = some led ↔ ledId.toNat = led.val := by
  unfold ledIndex?
  split
  · rename_i inRange
    simp [Fin.ext_iff]
  · rename_i outOfRange
    constructor
    · intro impossible
      cases impossible
    · intro same
      exact (outOfRange (same ▸ led.isLt)).elim

/-- The bytes of an ASCII literal. -/
def ascii (text : String) : List UInt8 :=
  text.toList.map fun char => UInt8.ofNat char.toNat

/-- `struct rgb`. -/
structure Rgb where
  r : UInt8
  g : UInt8
  b : UInt8
  deriving DecidableEq, Repr

/-- `rgb_equal`. -/
def rgbEqual (first second : Rgb) : Bool :=
  first.r == second.r && first.g == second.g && first.b == second.b

@[simp] theorem rgbEqual_eq_true
    {first second : Rgb} :
    rgbEqual first second = true ↔ first = second := by
  cases first
  cases second
  simp [rgbEqual, and_assoc]

/-- The high byte of a big-endian 16-bit field. -/
def highByte (value : UInt16) : UInt8 :=
  (value >>> 8).toUInt8

/-- The low byte of a big-endian 16-bit field. -/
def lowByte (value : UInt16) : UInt8 :=
  value.toUInt8

theorem highByte_eq (value : UInt16) :
    highByte value = UInt8.ofNat (value.toNat / 256) := by
  have inRange : value.toNat < 65536 := value.toNat_lt
  apply UInt8.toNat_inj.mp
  simp only [highByte, UInt16.toNat_toUInt8, UInt16.toNat_shiftRight,
    Nat.shiftRight_eq_div_pow, UInt8.toNat_ofNat']
  change value.toNat / 2 ^ 8 % 2 ^ 8 = value.toNat / 256 % 2 ^ 8
  omega

theorem lowByte_eq (value : UInt16) :
    lowByte value = UInt8.ofNat value.toNat := by
  apply UInt8.toNat_inj.mp
  simp [lowByte]

/-- A 16-bit field read back from its two big-endian bytes. -/
def fromBytes (high low : UInt8) : UInt16 :=
  UInt16.ofNat ((high.toNat <<< 8) ||| low.toNat)

/-- Splitting a 16-bit field into bytes and joining them is the identity. -/
@[simp] theorem fromBytes_highByte_lowByte
    (value : UInt16) :
    fromBytes (highByte value) (lowByte value) = value := by
  have inRange : value.toNat < 65536 := value.toNat_lt
  have lowRange : value.toNat % 2 ^ 8 < 2 ^ 8 :=
    Nat.mod_lt _ (by decide)
  unfold fromBytes
  rw [highByte_eq, lowByte_eq, UInt8.toNat_ofNat', UInt8.toNat_ofNat',
    ← Nat.shiftLeft_add_eq_or_of_lt lowRange, Nat.shiftLeft_eq]
  apply UInt16.toNat_inj.mp
  simp only [UInt16.toNat_ofNat']
  omega

end UgreenLeds
