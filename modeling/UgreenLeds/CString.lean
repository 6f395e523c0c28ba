import Mathlib.Data.List.DropRight
import Mathlib.Data.UInt

/-!
# C strings and the conversions of the C library

Byte strings as the C library sees them: the classification of bytes in the "C"
locale, splitting and tokenizing, and the two conversions from text to numbers
with their documented corner cases.  `strtoul` skips white space, accepts a
sign, negates modulo `2 ^ 64` and saturates with an error; `sscanf` converts
directive by directive and stops at the first that fails.
-/

namespace CString

section Bytes

/-- The part of a buffer before its first null byte. -/
def content (buffer : List UInt8) : List UInt8 :=
  buffer.takeWhile (· ≠ 0)

/-- `isspace`. -/
def isSpace (byte : UInt8) : Bool :=
  byte = 32 || (9 ≤ byte && byte ≤ 13)

/-- `isdigit`. -/
def isDigit (byte : UInt8) : Bool :=
  48 ≤ byte && byte ≤ 57

/-- `tolower`. -/
def toLower (byte : UInt8) : UInt8 :=
  if 65 ≤ byte ∧ byte ≤ 90 then byte + 32 else byte

/-- `strcasecmp` finds no difference. -/
def equalIgnoringCase (first second : List UInt8) : Bool :=
  first.map toLower = second.map toLower

/-- The text before and after the first occurrence of a byte. -/
def splitAtFirst?
    (byte : UInt8)
    (text : List UInt8) : Option (List UInt8 × List UInt8) :=
  match text.dropWhile (· ≠ byte) with
  | [] =>
      none
  | _ :: rest =>
      some (text.takeWhile (· ≠ byte), rest)

/-- The tokens `strtok_r` returns one after the other. -/
def tokens
    (isDelimiter : UInt8 → Bool)
    (text : List UInt8) : List (List UInt8) :=
  (text.splitOnP isDelimiter).filter (· ≠ [])

/-- No null byte is left in the content of a buffer. -/
theorem ne_zero_of_mem_content
    {buffer : List UInt8}
    {byte : UInt8}
    (member : byte ∈ content buffer) :
    byte ≠ 0 := by
  simpa using List.mem_takeWhile_imp member

/-- A text that does not start with white space has none to skip. -/
theorem dropWhile_isSpace_eq_self
    {text : List UInt8}
    (visible : ∀ byte ∈ text.head?, isSpace byte = false) :
    text.dropWhile isSpace = text := by
  cases text with
  | nil =>
      rfl
  | cons first later =>
      have stops := visible first rfl
      rw [List.dropWhile_cons_of_neg (by simp [stops])]

/-- A part of a text ends where a byte follows that does not belong to it. -/
theorem takeWhile_append_of_stops
    {belongs : UInt8 → Bool}
    {part rest : List UInt8}
    (inside : ∀ byte ∈ part, belongs byte = true)
    (stops : ∀ byte ∈ rest.head?, belongs byte = false) :
    (part ++ rest).takeWhile belongs = part ∧
      (part ++ rest).dropWhile belongs = rest := by
  rw [List.takeWhile_append_of_pos inside,
    List.dropWhile_append_of_pos inside]
  cases rest with
  | nil =>
      simp
  | cons first later =>
      have outside := stops first rfl
      simp [outside]

/-- What is said of all bytes of a text can be computed. -/
theorem forall_mem_of_all
    {isGood : UInt8 → Prop}
    [DecidablePred isGood]
    {text : List UInt8}
    (computed : text.all (fun byte => decide (isGood byte)) = true) :
    ∀ byte ∈ text, isGood byte := by
  simpa using computed

/-- What is said of the first byte of a text can be computed. -/
theorem forall_mem_head?_of_all
    {isGood : UInt8 → Prop}
    [DecidablePred isGood]
    {text : List UInt8}
    (computed : text.head?.all (fun byte => decide (isGood byte)) = true) :
    ∀ byte ∈ text.head?, isGood byte := by
  simpa [Option.all_eq_true] using computed

end Bytes

section Strtoul

/-- What `strtoul` reports: the value, what is left, and an overflow. -/
structure Conversion where
  value : UInt64
  rest : List UInt8
  rangeError : Bool
  deriving DecidableEq, Repr

/-- The number that a string of digits denotes. -/
def digitsValue (digits : List UInt8) : Nat :=
  digits.foldl (fun value digit => value * 10 + (digit.toNat - 48)) 0

/-- The sign in front of a numeral, if there is one. -/
def splitSign : List UInt8 → Bool × List UInt8
  | 45 :: rest =>
      (true, rest)
  | 43 :: rest =>
      (false, rest)
  | text =>
      (false, text)

/-- `strtoul` in base ten. -/
def strtoul (text : List UInt8) : Conversion :=
  let (negative, numeral) := splitSign (text.dropWhile isSpace)
  let digits := numeral.takeWhile isDigit
  let rest := numeral.dropWhile isDigit
  if digits = [] then
    -- Nothing is converted, and the end pointer stays at the start.
    ⟨0, text, false⟩
  else
    let magnitude := digitsValue digits
    if 2 ^ 64 ≤ magnitude then
      ⟨-1, rest, true⟩
    else
      ⟨if negative then -UInt64.ofNat magnitude
        else UInt64.ofNat magnitude, rest, false⟩

end Strtoul

section Sscanf

/-- A directive of a scan format. -/
inductive Directive where
  | space
  | literal (byte : UInt8)
  | unsigned
  | char
  | word (width : Nat)
  deriving DecidableEq, Repr

/-- A value that a conversion stores. -/
inductive Value where
  | unsigned (value : UInt32)
  | char (byte : UInt8)
  | word (text : List UInt8)
  deriving DecidableEq, Repr

/--
`sscanf`: the values stored before the first directive that fails.  Their
number is its result, except that an empty text may also give `EOF`.
-/
def sscanf : List Directive → List UInt8 → List Value
  | [], _ =>
      []
  | .space :: format, text =>
      sscanf format (text.dropWhile isSpace)
  | .literal byte :: format, text =>
      match text with
      | [] =>
          []
      | first :: rest =>
          if first = byte then sscanf format rest else []
  | .unsigned :: format, text =>
      let conversion := strtoul text
      if conversion.rest = text then
        []
      else
        -- An `unsigned` keeps the low 32 bits of what `strtoul` returns.
        .unsigned conversion.value.toUInt32 ::
          sscanf format conversion.rest
  | .char :: format, text =>
      match text with
      | [] =>
          []
      | first :: rest =>
          .char first :: sscanf format rest
  | .word width :: format, text =>
      let field := text.dropWhile isSpace
      let word := (field.takeWhile fun byte => !isSpace byte).take width
      if word = [] then
        []
      else
        .word word :: sscanf format (field.drop word.length)

end Sscanf

end CString
