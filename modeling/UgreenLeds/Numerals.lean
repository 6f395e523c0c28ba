import UgreenLeds.CString

/-!
# Signed decimal numerals

The numerals that the conversions of the C library read, each with the integer it
denotes.  A text reads as a numeral in one way only, and that numeral decides what
`strtoul` and the `%u` of `sscanf` do: both keep the integer modulo a power of
two, so that numerals outside the range of the type are taken for numbers inside
it.
-/

namespace CString

/-- The sign that may stand in front of the digits. -/
inductive Sign where
  | absent
  | plus
  | minus
  deriving DecidableEq, Repr

namespace Sign

/-- How a sign is written. -/
def text : Sign → List UInt8
  | .absent =>
      []
  | .plus =>
      [43]
  | .minus =>
      [45]

/-- The sign at the start of a text, and what follows it. -/
def split : List UInt8 → Sign × List UInt8
  | 45 :: rest =>
      (.minus, rest)
  | 43 :: rest =>
      (.plus, rest)
  | text =>
      (.absent, text)

end Sign

/-- A decimal numeral. -/
@[ext]
structure Numeral where
  sign : Sign
  digits : List UInt8
  nonempty : digits ≠ []
  allDigits : ∀ byte ∈ digits, isDigit byte = true
  deriving DecidableEq

namespace Numeral

/-- How a numeral is written. -/
def text (numeral : Numeral) : List UInt8 :=
  numeral.sign.text ++ numeral.digits

/-- The number that the digits denote. -/
def magnitude (numeral : Numeral) : Nat :=
  digitsValue numeral.digits

/-- The integer that a numeral denotes. -/
def value (numeral : Numeral) : Int :=
  match numeral.sign with
  | .minus =>
      -numeral.magnitude
  | _ =>
      numeral.magnitude

/-- The digits alone exceed an `unsigned long`. -/
def Overlong (numeral : Numeral) : Prop :=
  2 ^ 64 ≤ numeral.magnitude

instance (numeral : Numeral) : Decidable numeral.Overlong :=
  inferInstanceAs (Decidable (_ ≤ _))

/-- What `strtoul` returns for a numeral. -/
def word (numeral : Numeral) : UInt64 :=
  if numeral.Overlong then -1 else UInt64.ofInt numeral.value

/-- What `%u` stores for a numeral. -/
def stored (numeral : Numeral) : UInt32 :=
  numeral.word.toUInt32

end Numeral

/--
After white space, a text starts with a numeral that goes on for as long as there
are digits.
-/
structure Reads
    (text : List UInt8)
    (numeral : Numeral)
    (rest : List UInt8) : Prop where
  position :
    ∃ blanks,
      (∀ byte ∈ blanks, isSpace byte = true) ∧
        text = blanks ++ (numeral.text ++ rest)
  longest : ∀ byte ∈ rest.head?, isDigit byte = false

/-- The numeral at the start of a text, and what follows it. -/
def numeral? (text : List UInt8) : Option (Numeral × List UInt8) :=
  let (sign, digits) := Sign.split (text.dropWhile isSpace)
  if nonempty : digits.takeWhile isDigit ≠ [] then
    some
      ({ sign
         digits := digits.takeWhile isDigit
         nonempty
         allDigits := fun _ member => List.mem_takeWhile_imp member },
        digits.dropWhile isDigit)
  else
    none

section Bytes

variable
  {byte : UInt8}

/-- A digit is no white space. -/
theorem isSpace_of_isDigit (digit : isDigit byte = true) :
    isSpace byte = false := by
  simp only [isDigit, isSpace, Bool.and_eq_true, Bool.or_eq_false_iff,
    Bool.and_eq_false_iff, decide_eq_true_eq, decide_eq_false_iff_not,
    UInt8.le_iff_toNat_le, ← UInt8.toNat_inj] at digit ⊢
  obtain ⟨above, -⟩ := digit
  change 48 ≤ byte.toNat at above
  refine ⟨?_, Or.inr ?_⟩
  · change byte.toNat ≠ 32
    omega
  · change ¬ byte.toNat ≤ 13
    omega

/-- A digit is no sign. -/
theorem ne_sign_of_isDigit (digit : isDigit byte = true) :
    byte ≠ 45 ∧ byte ≠ 43 := by
  constructor
  · rintro rfl
    cases digit
  · rintro rfl
    cases digit

end Bytes

namespace Sign

/-- The sign that was written is the sign that is read. -/
theorem split_append
    (sign : Sign)
    {digits : List UInt8}
    (nonempty : digits ≠ [])
    (allDigits : ∀ byte ∈ digits, isDigit byte = true)
    (rest : List UInt8) :
    split (sign.text ++ digits ++ rest) = (sign, digits ++ rest) := by
  cases sign with
  | plus =>
      rfl
  | minus =>
      rfl
  | absent =>
      cases digits with
      | nil =>
          exact absurd rfl nonempty
      | cons first later =>
          obtain ⟨noMinus, noPlus⟩ :=
            ne_sign_of_isDigit (allDigits first List.mem_cons_self)
          simp only [text, List.nil_append, List.cons_append]
          unfold split
          split
          · rename_i same
            exact absurd (List.cons.inj same).1 noMinus
          · rename_i same
            exact absurd (List.cons.inj same).1 noPlus
          · rfl

/-- A text is the sign in front of it and what follows. -/
theorem text_split (text : List UInt8) :
    (split text).1.text ++ (split text).2 = text := by
  unfold split
  split <;> rfl

end Sign

namespace Numeral

/-- A numeral does not start with white space. -/
theorem head?_text
    (numeral : Numeral)
    (rest : List UInt8) :
    ∀ byte ∈ (numeral.text ++ rest).head?, isSpace byte = false := by
  intro byte head
  rcases numeral with ⟨sign, digits, nonempty, allDigits⟩
  cases digits with
  | nil =>
      exact absurd rfl nonempty
  | cons first later =>
      cases sign with
      | absent =>
          cases head
          exact isSpace_of_isDigit (allDigits _ List.mem_cons_self)
      | plus =>
          cases head
          rfl
      | minus =>
          cases head
          rfl

end Numeral

section Reading

variable
  {text rest : List UInt8}
  {numeral : Numeral}

/-- Skipping white space in front makes no difference to what is read. -/
@[simp] theorem numeral?_dropWhile (text : List UInt8) :
    numeral? (text.dropWhile isSpace) = numeral? text := by
  have skipped :
      (text.dropWhile isSpace).dropWhile isSpace =
        text.dropWhile isSpace :=
    List.dropWhile_idempotent isSpace text
  rw [numeral?, numeral?, skipped]

/-- The numeral of a text is found. -/
theorem Reads.numeral?_eq (reads : Reads text numeral rest) :
    numeral? text = some (numeral, rest) := by
  obtain ⟨⟨blanks, allBlank, rfl⟩, longest⟩ := reads
  have visible := numeral.head?_text rest
  obtain ⟨taken, dropped⟩ :=
    takeWhile_append_of_stops numeral.allDigits longest
  have signed :
      Sign.split (numeral.text ++ rest) =
        (numeral.sign, numeral.digits ++ rest) :=
    numeral.sign.split_append numeral.nonempty numeral.allDigits rest
  simp only [numeral?, List.dropWhile_append_of_pos allBlank,
    dropWhile_isSpace_eq_self visible, signed, taken, dropped]
  rw [dif_pos numeral.nonempty]

/-- What is found is the numeral of the text. -/
theorem reads_of_numeral?_eq
    (found : numeral? text = some (numeral, rest)) :
    Reads text numeral rest := by
  unfold numeral? at found
  simp only at found
  split at found
  · cases found
    refine ⟨⟨text.takeWhile isSpace, ?_, ?_⟩, ?_⟩
    · intro byte member
      exact List.mem_takeWhile_imp member
    · rw [Numeral.text, List.append_assoc,
        List.takeWhile_append_dropWhile, Sign.text_split,
        List.takeWhile_append_dropWhile]
    · intro byte head
      have stops :=
        List.head?_dropWhile_not isDigit
          (Sign.split (text.dropWhile isSpace)).2
      rw [Option.mem_def.mp head] at stops
      simpa using stops
  · cases found

/-- No numeral is found where none is. -/
theorem numeral?_eq_none :
    numeral? text = none ↔
      ∀ numeral rest, ¬ Reads text numeral rest := by
  constructor
  · intro notFound numeral rest reads
    rw [reads.numeral?_eq] at notFound
    cases notFound
  · intro noReading
    cases found : numeral? text with
    | none =>
        rfl
    | some reading =>
        exact (noReading _ _ (reads_of_numeral?_eq found)).elim

/-- A numeral starts with white space, a sign or a digit. -/
theorem numeral?_eq_none_of_head?
    (noNumeral :
      ∀ byte ∈ text.head?,
        isSpace byte = false ∧
          byte ≠ 45 ∧ byte ≠ 43 ∧ isDigit byte = false) :
    numeral? text = none := by
  cases text with
  | nil =>
      rfl
  | cons first later =>
      obtain ⟨noSpace, noMinus, noPlus, noDigit⟩ := noNumeral first rfl
      have unsigned :
          Sign.split (first :: later) = (.absent, first :: later) := by
        unfold Sign.split
        split
        · rename_i same
          exact absurd (List.cons.inj same).1 noMinus
        · rename_i same
          exact absurd (List.cons.inj same).1 noPlus
        · rfl
      simp [numeral?, noSpace, unsigned, noDigit]

/-- A text reads as a numeral in one way. -/
theorem Reads.unique
    {other : Numeral}
    {otherRest : List UInt8}
    (reads : Reads text numeral rest)
    (otherReads : Reads text other otherRest) :
    other = numeral ∧ otherRest = rest := by
  have same := otherReads.numeral?_eq
  rw [reads.numeral?_eq] at same
  cases same
  exact ⟨rfl, rfl⟩

/-- Something is used up when a numeral is read. -/
theorem Reads.rest_ne (reads : Reads text numeral rest) :
    rest ≠ text := by
  obtain ⟨⟨blanks, -, rfl⟩, -⟩ := reads
  intro same
  have lengths := congrArg List.length same
  have some := List.length_pos_of_ne_nil numeral.nonempty
  simp only [Numeral.text, List.length_append] at lengths
  omega

end Reading

section Conversions

/-- `strtoul` looks at the sign only to see whether it is a minus. -/
theorem splitSign_eq (text : List UInt8) :
    splitSign text =
      (decide ((Sign.split text).1 = .minus), (Sign.split text).2) := by
  unfold splitSign Sign.split
  split <;> simp

/-- A natural number keeps its word. -/
theorem ofInt_natCast (number : Nat) :
    UInt64.ofInt number = UInt64.ofNat number := by
  have reduced :
      ((number : Int) % 2 ^ 64).toNat = number % 2 ^ 64 := by
    omega
  rw [UInt64.ofInt, reduced, UInt64.ofNat_eq_iff_mod_eq_toNat,
    UInt64.toNat_ofNat', Nat.mod_mod]

/-- The word of a numeral that is not overlong, from sign and digits. -/
theorem Numeral.word_of_not_overlong
    {numeral : Numeral}
    (fits : ¬ numeral.Overlong) :
    numeral.word =
      if numeral.sign = .minus then -UInt64.ofNat numeral.magnitude
      else UInt64.ofNat numeral.magnitude := by
  rw [word, if_neg fits, value]
  cases numeral.sign with
  | absent =>
      exact ofInt_natCast _
  | plus =>
      exact ofInt_natCast _
  | minus =>
      simp only [↓reduceIte]
      rw [UInt64.ofInt_neg, ofInt_natCast]

/-- `strtoul` in terms of the numeral at the start of the text. -/
theorem strtoul_eq (text : List UInt8) :
    strtoul text =
      match numeral? text with
      | none =>
          ⟨0, text, false⟩
      | some (numeral, rest) =>
          ⟨numeral.word, rest, numeral.Overlong⟩ := by
  unfold strtoul numeral?
  simp only [splitSign_eq]
  generalize Sign.split (text.dropWhile isSpace) = signed
  rcases signed with ⟨sign, digits⟩
  by_cases empty : digits.takeWhile isDigit = []
  · simp only
    rw [if_pos empty, dif_neg (not_not_intro empty)]
  · simp only
    rw [if_neg empty, dif_pos empty]
    let numeral : Numeral :=
      ⟨sign, digits.takeWhile isDigit, empty,
        fun _ member => List.mem_takeWhile_imp member⟩
    change
      (if numeral.Overlong then
          (⟨-1, digits.dropWhile isDigit, true⟩ : Conversion)
        else
          ⟨if decide (sign = .minus) then -UInt64.ofNat numeral.magnitude
            else UInt64.ofNat numeral.magnitude,
            digits.dropWhile isDigit, false⟩) =
        ⟨numeral.word, digits.dropWhile isDigit,
          decide numeral.Overlong⟩
    by_cases overlong : numeral.Overlong
    · rw [if_pos overlong, Numeral.word, if_pos overlong,
        decide_eq_true overlong]
    · rw [if_neg overlong, Numeral.word_of_not_overlong overlong,
        decide_eq_false overlong]
      simp [numeral]

/-- `%u` in terms of the numeral at the start of the text. -/
theorem sscanf_unsigned
    (format : List Directive)
    (text : List UInt8) :
    sscanf (.unsigned :: format) text =
      match numeral? text with
      | none =>
          []
      | some (numeral, rest) =>
          .unsigned numeral.stored :: sscanf format rest := by
  rw [sscanf]
  simp only [strtoul_eq]
  cases found : numeral? text with
  | none =>
      simp
  | some reading =>
      rcases reading with ⟨numeral, rest⟩
      have shorter := (reads_of_numeral?_eq found).rest_ne
      simp [shorter, Numeral.stored]

/-- A number is stored for the numeral at the start of the text. -/
theorem sscanf_unsigned_eq_cons
    {format : List Directive}
    {text : List UInt8}
    {value : UInt32}
    {later : List Value} :
    sscanf (.unsigned :: format) text = .unsigned value :: later ↔
      ∃ numeral rest,
        Reads text numeral rest ∧
          numeral.stored = value ∧
          sscanf format rest = later := by
  rw [sscanf_unsigned]
  constructor
  · intro scanned
    cases found : numeral? text with
    | none =>
        rw [found] at scanned
        cases scanned
    | some reading =>
        rcases reading with ⟨numeral, rest⟩
        rw [found] at scanned
        cases scanned
        exact ⟨numeral, rest, reads_of_numeral?_eq found, rfl, rfl⟩
  · rintro ⟨numeral, rest, reads, rfl, rfl⟩
    rw [reads.numeral?_eq]

/-- No number is stored where no numeral is. -/
theorem sscanf_unsigned_eq_nil
    {format : List Directive}
    {text : List UInt8} :
    sscanf (.unsigned :: format) text = [] ↔ numeral? text = none := by
  rw [sscanf_unsigned]
  cases numeral? text with
  | none =>
      simp
  | some reading =>
      simp

/-- White space in front of a numeral need not be asked for. -/
theorem sscanf_space_unsigned
    (format : List Directive)
    (text : List UInt8) :
    sscanf (.space :: .unsigned :: format) text =
      sscanf (.unsigned :: format) text := by
  rw [sscanf, sscanf_unsigned, sscanf_unsigned, numeral?_dropWhile]

/-- Something is stored after a literal that matches. -/
theorem sscanf_literal_eq_cons
    {byte : UInt8}
    {format : List Directive}
    {text : List UInt8}
    {value : Value}
    {later : List Value} :
    sscanf (.literal byte :: format) text = value :: later ↔
      ∃ rest,
        text = byte :: rest ∧ sscanf format rest = value :: later := by
  cases text with
  | nil =>
      simp [sscanf]
  | cons first rest =>
      by_cases same : first = byte
      · simp [sscanf, same]
      · simp [sscanf, same]

/-- Literals read the text that they spell. -/
theorem sscanf_literals_append
    (word : List UInt8)
    (format : List Directive)
    (rest : List UInt8) :
    sscanf (word.map .literal ++ format) (word ++ rest) =
      sscanf format rest := by
  induction word with
  | nil =>
      rfl
  | cons first others inductionHypothesis =>
      simp only [List.map_cons, List.cons_append, sscanf, ↓reduceIte]
      exact inductionHypothesis

/-- Something is stored after literals that spell the start of the text. -/
theorem sscanf_literals_eq_cons
    {word : List UInt8}
    {format : List Directive}
    {text : List UInt8}
    {value : Value}
    {later : List Value} :
    sscanf (word.map .literal ++ format) text = value :: later ↔
      ∃ rest,
        text = word ++ rest ∧ sscanf format rest = value :: later := by
  induction word generalizing text with
  | nil =>
      simp
  | cons first others inductionHypothesis =>
      rw [List.map_cons, List.cons_append, sscanf_literal_eq_cons]
      simp only [inductionHypothesis]
      constructor
      · rintro ⟨_, rfl, rest, rfl, scanned⟩
        exact ⟨rest, rfl, scanned⟩
      · rintro ⟨rest, rfl, scanned⟩
        exact ⟨_, rfl, rest, rfl, scanned⟩

/-- The trailing probe stores nothing at the end of the text. -/
theorem sscanf_char_eq_nil
    {format : List Directive}
    {text : List UInt8} :
    sscanf (.char :: format) text = [] ↔ text = [] := by
  cases text with
  | nil =>
      simp [sscanf]
  | cons first rest =>
      simp [sscanf]

/-- A probe behind a literal stores nothing unless both find a byte. -/
theorem sscanf_literal_char_eq_nil
    {byte : UInt8}
    {format : List Directive}
    {text : List UInt8} :
    sscanf (.literal byte :: .char :: format) text = [] ↔
      text = [byte] ∨ text.head? ≠ some byte := by
  cases text with
  | nil =>
      simp [sscanf]
  | cons first rest =>
      by_cases same : first = byte
      · subst same
        rw [sscanf]
        simp only [↓reduceIte, sscanf_char_eq_nil]
        simp
      · simp [sscanf, same]

end Conversions

namespace Numeral

variable
  (numeral : Numeral)

/-- The word of a numeral is its value modulo `2 ^ 64`. -/
theorem word_toNat (fits : ¬ numeral.Overlong) :
    (numeral.word.toNat : Int) = numeral.value % 2 ^ 64 := by
  rw [word, if_neg fits, UInt64.ofInt, UInt64.toNat_ofNat']
  have inWord := Int.emod_lt_of_pos numeral.value (b := 2 ^ 64) (by decide)
  have natural := Int.emod_nonneg numeral.value (b := 2 ^ 64) (by decide)
  omega

/-- What is stored for a numeral is its value modulo `2 ^ 32`. -/
theorem stored_toNat (fits : ¬ numeral.Overlong) :
    (numeral.stored.toNat : Int) = numeral.value % 2 ^ 32 := by
  have word := numeral.word_toNat fits
  rw [stored, UInt64.toNat_toUInt32]
  omega

/-- The largest number is stored for an overlong numeral. -/
theorem stored_of_overlong (overlong : numeral.Overlong) :
    numeral.stored = 4294967295 := by
  rw [stored, word, if_pos overlong]
  rfl

/-- A small number is stored for the numerals that wrap around to one. -/
theorem stored_le_iff
    {limit : Nat}
    (small : limit < 2 ^ 32 - 1) :
    numeral.stored.toNat ≤ limit ↔
      ¬ numeral.Overlong ∧ numeral.value % 2 ^ 32 ≤ limit := by
  by_cases overlong : numeral.Overlong
  · rw [numeral.stored_of_overlong overlong]
    simp only [overlong, not_true_eq_false, false_and, iff_false]
    change ¬ 4294967295 ≤ limit
    omega
  · have stored := numeral.stored_toNat overlong
    simp only [overlong, not_false_eq_true, true_and]
    omega

/-- A numeral is overlong exactly if its value is that far from zero. -/
theorem not_overlong_iff :
    ¬ numeral.Overlong ↔
      -2 ^ 64 < numeral.value ∧ numeral.value < 2 ^ 64 := by
  unfold Overlong value
  cases numeral.sign <;> simp only <;> omega

end Numeral

end CString
