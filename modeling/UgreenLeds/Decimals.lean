import UgreenLeds.Numerals

/-!
# Canonical decimal numerals

How a natural number is written without a sign and without leading zeros, as a
numeral.  Whatever follows it, unless it is one more digit, the conversions of the
C library read the number back.
-/

namespace CString

/-- The digits of a natural number. -/
def decimal (number : Nat) : List UInt8 :=
  (Nat.toDigits 10 number).map fun char => UInt8.ofNat char.toNat

/-- The code of a decimal digit. -/
theorem toNat_ofNat_digit
    {char : Char}
    (digit : char.isDigit = true) :
    (UInt8.ofNat char.toNat).toNat = char.toNat ∧
      48 ≤ char.toNat ∧ char.toNat ≤ 57 := by
  obtain ⟨lower, upper⟩ := Char.isDigit_iff_toNat.mp digit
  refine ⟨?_, lower, upper⟩
  change char.toNat ≤ 57 at upper
  rw [UInt8.toNat_ofNat']
  omega

/-- A number is written with digits only. -/
theorem isDigit_of_mem_decimal
    {number : Nat}
    {byte : UInt8}
    (member : byte ∈ decimal number) :
    isDigit byte = true := by
  obtain ⟨char, inDigits, rfl⟩ := List.mem_map.mp member
  obtain ⟨code, lower, upper⟩ :=
    toNat_ofNat_digit
      (Nat.isDigit_of_mem_toDigits (by omega) le_rfl inDigits)
  simp only [isDigit, Bool.and_eq_true, decide_eq_true_eq,
    UInt8.le_iff_toNat_le, code]
  exact ⟨lower, upper⟩

/-- A number is written with at least one digit. -/
theorem decimal_ne_nil (number : Nat) : decimal number ≠ [] := by
  rw [decimal, ne_eq, List.map_eq_nil_iff]
  exact Nat.toDigits_ne_nil

/-- The value of digits is the number that is formed from them. -/
theorem foldl_digits
    {digits : List Char}
    (allDigits : ∀ char ∈ digits, char.isDigit = true)
    (value : Nat) :
    (digits.map fun char => UInt8.ofNat char.toNat).foldl
        (fun value digit => value * 10 + (digit.toNat - 48)) value =
      Nat.ofDigitChars 10 digits value := by
  induction digits generalizing value with
  | nil =>
      rfl
  | cons first rest inductionHypothesis =>
      obtain ⟨isDigit, others⟩ := List.forall_mem_cons.mp allDigits
      obtain ⟨code, -, -⟩ := toNat_ofNat_digit isDigit
      rw [List.map_cons, List.foldl_cons, code, Nat.mul_comm value,
        inductionHypothesis others]
      rfl

/-- The digits of a number denote it. -/
theorem digitsValue_decimal (number : Nat) :
    digitsValue (decimal number) = number := by
  rw [digitsValue, decimal, foldl_digits, Nat.ofDigitChars_ten_toDigits]
  intro char member
  exact Nat.isDigit_of_mem_toDigits (by omega) le_rfl member

namespace Numeral

/-- The canonical numeral of a number. -/
def ofNat (number : Nat) : Numeral where
  sign := .absent
  digits := decimal number
  nonempty := decimal_ne_nil number
  allDigits := fun _ member => isDigit_of_mem_decimal member

@[simp] theorem value_ofNat (number : Nat) :
    (ofNat number).value = number :=
  congrArg Nat.cast (digitsValue_decimal number)

/-- A number that fits an `unsigned` is stored as it is. -/
theorem stored_ofNat
    {number : Nat}
    (fits : number < 2 ^ 32) :
    (ofNat number).stored = UInt32.ofNat number := by
  have notOverlong : ¬ (ofNat number).Overlong := by
    rw [not_overlong_iff, value_ofNat]
    omega
  have stored := (ofNat number).stored_toNat notOverlong
  rw [value_ofNat] at stored
  apply UInt32.toNat_inj.mp
  rw [UInt32.toNat_ofNat']
  omega

end Numeral

/-- A byte that is no digit ends a number. -/
theorem head_stops
    {byte : UInt8}
    (noDigit : isDigit byte = false)
    (rest : List UInt8) :
    ∀ first ∈ (byte :: rest).head?, isDigit first = false := by
  intro first head
  cases head
  exact noDigit

/-- A number that is written is read, unless it goes on behind its end. -/
theorem reads_decimal
    (number : Nat)
    {rest : List UInt8}
    (stops : ∀ byte ∈ rest.head?, isDigit byte = false) :
    Reads (decimal number ++ rest) (.ofNat number) rest :=
  ⟨⟨[], by simp, rfl⟩, stops⟩

end CString
