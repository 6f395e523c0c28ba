import UgreenLeds.ConfigFile
import UgreenLeds.Numerals
import UgreenLeds.TextWords

/-!
# The numerals of the settings

What the three parsers of numbers in `config.c` accept, in terms of the numerals
in the text and the integers they denote.  Each of them checks ranges only after
the C library has reduced the integer modulo a power of two, so that it stores
what a numeral denotes exactly if no numeral outside the range wraps around into
it.
-/

namespace UgreenLeds

open CString (Numeral Reads ReadsWord)

/-- A parser reports an error, and no field is assigned. -/
def Rejected
    {Value : Type}
    (parsed : Except Errno Value) : Prop :=
  ∃ error,
    parsed = .error error ∧
      ∀ (config : ConfigData) (store : Value → ConfigData),
        storeParsed config parsed store = (.error error, config)

/-- What is not accepted is rejected. -/
theorem rejected_of_forall_ne
    {Value : Type}
    {parsed : Except Errno Value}
    (refused : ∀ value, parsed ≠ .ok value) :
    Rejected parsed := by
  cases parsed with
  | error error =>
      exact ⟨error, rfl, fun _ _ => rfl⟩
  | ok value =>
      exact absurd rfl (refused value)

/-- What is rejected is not accepted. -/
theorem Rejected.ne_ok
    {Value : Type}
    {parsed : Except Errno Value}
    (rejected : Rejected parsed)
    (value : Value) :
    parsed ≠ .ok value := by
  obtain ⟨error, rfl, -⟩ := rejected
  intro same
  cases same

section Unsigned

variable
  {text : List UInt8}
  {minimum maximum : UInt32}

/-- `parse_unsigned` accepts a text with the numeral whose word is in range. -/
theorem parseUnsigned_ok_iff
    {value : UInt32} :
    parseUnsigned text minimum maximum = .ok value ↔
      ∃ numeral,
        Reads text numeral [] ∧
          ¬ numeral.Overlong ∧
          minimum.toNat ≤ numeral.word.toNat ∧
          numeral.word.toNat ≤ maximum.toNat ∧
          numeral.stored = value := by
  have accepts :
      ∀ (numeral : Numeral) (rest : List UInt8),
        Reads text numeral rest →
        (parseUnsigned text minimum maximum = .ok value ↔
          rest = [] ∧
            ¬ numeral.Overlong ∧
            minimum.toNat ≤ numeral.word.toNat ∧
            numeral.word.toNat ≤ maximum.toNat ∧
            numeral.stored = value) := by
    intro numeral rest reads
    simp only [parseUnsigned, CString.strtoul_eq, reads.numeral?_eq,
      reads.rest_ne, UInt64.lt_iff_toNat_lt, gt_iff_lt,
      UInt32.toNat_toUInt64]
    split
    · rename_i refused
      simp only [reduceCtorEq, false_iff, not_and]
      rintro rfl fits above below
      simp [fits] at refused
      omega
    · rename_i accepted
      simp only [decide_eq_true_eq, false_or, not_or, not_not,
        not_lt] at accepted
      obtain ⟨fits, ended, above, below⟩ := accepted
      simp [fits, ended, above, below, Numeral.stored]
  constructor
  · intro parsed
    cases found : CString.numeral? text with
    | none =>
        simp [parseUnsigned, CString.strtoul_eq, found] at parsed
    | some reading =>
        rcases reading with ⟨numeral, rest⟩
        have reads := CString.reads_of_numeral?_eq found
        obtain ⟨rfl, accepted⟩ := (accepts numeral rest reads).mp parsed
        exact ⟨numeral, reads, accepted⟩
  · rintro ⟨numeral, reads, accepted⟩
    exact (accepts numeral [] reads).mpr ⟨rfl, accepted⟩

/-- Each number that `parse_unsigned` accepts is what the text says. -/
structure UnsignedExact
    (text : List UInt8)
    (minimum maximum : UInt32) : Prop where
  accepted :
    ∀ value,
      parseUnsigned text minimum maximum = .ok value →
      ∃ numeral,
        Reads text numeral [] ∧
          (value.toNat : Int) = numeral.value ∧
          (minimum.toNat : Int) ≤ numeral.value ∧
          numeral.value ≤ maximum.toNat
  rejected :
    ∀ numeral rest,
      Reads text numeral rest →
      numeral.value < minimum.toNat ∨
        (maximum.toNat : Int) < numeral.value →
      Rejected (parseUnsigned text minimum maximum)

/-- A text is a negative numeral that `strtoul` takes into the range. -/
def UnsignedAliases
    (text : List UInt8)
    (minimum maximum : UInt32) : Prop :=
  ∃ numeral,
    Reads text numeral [] ∧
      -2 ^ 64 < numeral.value ∧
      numeral.value < 0 ∧
      (minimum.toNat : Int) ≤ numeral.value + 2 ^ 64 ∧
      numeral.value + 2 ^ 64 ≤ maximum.toNat

/-- `parse_unsigned` says what the text says unless a numeral wraps around. -/
theorem unsignedExact_iff :
    UnsignedExact text minimum maximum ↔
      ¬ UnsignedAliases text minimum maximum := by
  have inWord := maximum.toNat_lt
  constructor
  · rintro exact ⟨numeral, reads, above, negative, atLeast, atMost⟩
    have fits : ¬ numeral.Overlong :=
      numeral.not_overlong_iff.mpr ⟨above, by omega⟩
    have word := numeral.word_toNat fits
    have parsed :
        parseUnsigned text minimum maximum = .ok numeral.stored :=
      parseUnsigned_ok_iff.mpr
        ⟨numeral, reads, fits, by omega, by omega, rfl⟩
    have rejected := exact.rejected numeral [] reads (Or.inl (by omega))
    exact rejected.ne_ok _ parsed
  · intro distinct
    have accepted :
        ∀ value,
          parseUnsigned text minimum maximum = .ok value →
          ∃ numeral,
            Reads text numeral [] ∧
              (value.toNat : Int) = numeral.value ∧
              (minimum.toNat : Int) ≤ numeral.value ∧
              numeral.value ≤ maximum.toNat := by
      intro value parsed
      obtain ⟨numeral, reads, fits, above, below, rfl⟩ :=
        parseUnsigned_ok_iff.mp parsed
      have word := numeral.word_toNat fits
      have stored := numeral.stored_toNat fits
      obtain ⟨lower, upper⟩ := numeral.not_overlong_iff.mp fits
      have natural : 0 ≤ numeral.value := by
        by_contra negative
        exact distinct
          ⟨numeral, reads, lower, by omega, by omega, by omega⟩
      exact ⟨numeral, reads, by omega, by omega, by omega⟩
    refine ⟨accepted, ?_⟩
    intro numeral rest reads outside
    refine rejected_of_forall_ne fun value parsed => ?_
    obtain ⟨other, otherReads, -, above, below⟩ := accepted value parsed
    obtain ⟨rfl, -⟩ := reads.unique otherReads
    omega

end Unsigned

section Colors

/-- A text is three numerals between commas or between white space. -/
inductive RgbReading
    (text : List UInt8)
    (red green blue : Numeral) : Prop where
  | commas
      {afterRed afterGreen : List UInt8} :
      Reads text red (44 :: afterRed) →
      Reads afterRed green (44 :: afterGreen) →
      Reads afterGreen blue [] →
      RgbReading text red green blue
  | blanks
      {afterRed afterGreen : List UInt8} :
      Reads text red afterRed →
      Reads afterRed green afterGreen →
      Reads afterGreen blue [] →
      RgbReading text red green blue

variable
  {text : List UInt8}
  {red green blue : Numeral}
  {r g b : UInt32}

/-- A format of `parse_rgb` succeeds if it stores three numbers. -/
theorem scanRgb?_eq_some
    {format : List CString.Directive} :
    scanRgb? format text = some (r, g, b) ↔
      CString.sscanf format text =
        [.unsigned r, .unsigned g, .unsigned b] := by
  unfold scanRgb?
  constructor
  · intro scanned
    split at scanned
    · rename_i stored
      cases scanned
      exact stored
    · cases scanned
  · intro stored
    rw [stored]

/-- The format with commas reads the numerals between commas. -/
theorem scanRgb?_comma :
    scanRgb? commaFormat text = some (r, g, b) ↔
      ∃ red green blue afterRed afterGreen,
        Reads text red (44 :: afterRed) ∧
          Reads afterRed green (44 :: afterGreen) ∧
          Reads afterGreen blue [] ∧
          red.stored = r ∧
          green.stored = g ∧
          blue.stored = b := by
  rw [scanRgb?_eq_some, commaFormat,
    CString.sscanf_unsigned_eq_cons]
  simp only [CString.sscanf_literal_eq_cons,
    CString.sscanf_unsigned_eq_cons, CString.sscanf_char_eq_nil]
  constructor
  · rintro ⟨red, _, readsRed, sameRed, afterRed, rfl, green, _,
      readsGreen, sameGreen, afterGreen, rfl, blue, _, readsBlue,
      sameBlue, rfl⟩
    exact
      ⟨red, green, blue, afterRed, afterGreen, readsRed, readsGreen,
        readsBlue, sameRed, sameGreen, sameBlue⟩
  · rintro ⟨red, green, blue, afterRed, afterGreen, readsRed,
      readsGreen, readsBlue, sameRed, sameGreen, sameBlue⟩
    exact
      ⟨red, _, readsRed, sameRed, afterRed, rfl, green, _, readsGreen,
        sameGreen, afterGreen, rfl, blue, _, readsBlue, sameBlue, rfl⟩

/-- The format with blanks reads numerals that follow one another. -/
theorem scanRgb?_blank :
    scanRgb? blankFormat text = some (r, g, b) ↔
      ∃ red green blue afterRed afterGreen,
        Reads text red afterRed ∧
          Reads afterRed green afterGreen ∧
          Reads afterGreen blue [] ∧
          red.stored = r ∧
          green.stored = g ∧
          blue.stored = b := by
  rw [scanRgb?_eq_some, blankFormat,
    CString.sscanf_unsigned_eq_cons]
  simp only [CString.sscanf_space_unsigned,
    CString.sscanf_unsigned_eq_cons, CString.sscanf_char_eq_nil]
  constructor
  · rintro ⟨red, afterRed, readsRed, sameRed, green, afterGreen,
      readsGreen, sameGreen, blue, _, readsBlue, sameBlue, rfl⟩
    exact
      ⟨red, green, blue, afterRed, afterGreen, readsRed, readsGreen,
        readsBlue, sameRed, sameGreen, sameBlue⟩
  · rintro ⟨red, green, blue, afterRed, afterGreen, readsRed,
      readsGreen, readsBlue, sameRed, sameGreen, sameBlue⟩
    exact
      ⟨red, afterRed, readsRed, sameRed, green, afterGreen, readsGreen,
        sameGreen, blue, _, readsBlue, sameBlue, rfl⟩

/-- A comma does not start a numeral. -/
theorem not_reads_comma
    {numeral : Numeral}
    {text rest : List UInt8} :
    ¬ Reads (44 :: text) numeral rest := by
  intro reads
  cases reads.numeral?_eq

/-- Both formats together read the numerals of a color. -/
theorem scanRgb?_iff :
    (scanRgb? commaFormat text).or (scanRgb? blankFormat text) =
        some (r, g, b) ↔
      ∃ red green blue,
        RgbReading text red green blue ∧
          red.stored = r ∧
          green.stored = g ∧
          blue.stored = b := by
  rw [Option.or_eq_some_iff, scanRgb?_comma, scanRgb?_blank]
  constructor
  · rintro (⟨red, green, blue, _, _, readsRed, readsGreen, readsBlue,
      same⟩ |
      ⟨-, red, green, blue, _, _, readsRed, readsGreen, readsBlue,
        same⟩)
    · exact
        ⟨red, green, blue, .commas readsRed readsGreen readsBlue, same⟩
    · exact
        ⟨red, green, blue, .blanks readsRed readsGreen readsBlue, same⟩
  · rintro ⟨red, green, blue, reading, same⟩
    cases reading with
    | commas readsRed readsGreen readsBlue =>
        exact Or.inl
          ⟨red, green, blue, _, _, readsRed, readsGreen, readsBlue,
            same⟩
    | blanks readsRed readsGreen readsBlue =>
        refine Or.inr
          ⟨?_, red, green, blue, _, _, readsRed, readsGreen, readsBlue,
            same⟩
        -- A comma after the first numeral would not start the second.
        cases scanned : scanRgb? commaFormat text with
        | none =>
            rfl
        | some values =>
            rcases values with ⟨r, g, b⟩
            obtain ⟨_, _, _, _, _, otherRed, -⟩ :=
              scanRgb?_comma.mp scanned
            obtain ⟨-, rfl⟩ := readsRed.unique otherRed
            exact (not_reads_comma readsGreen).elim

/-- A text is three numerals in one way. -/
theorem RgbReading.unique
    {otherRed otherGreen otherBlue : Numeral}
    (reading : RgbReading text red green blue)
    (other : RgbReading text otherRed otherGreen otherBlue) :
    otherRed = red ∧ otherGreen = green ∧ otherBlue = blue := by
  cases reading with
  | commas readsRed readsGreen readsBlue =>
      cases other with
      | commas againRed againGreen againBlue =>
          obtain ⟨rfl, after⟩ := readsRed.unique againRed
          cases after
          obtain ⟨rfl, after⟩ := readsGreen.unique againGreen
          cases after
          exact ⟨rfl, rfl, (readsBlue.unique againBlue).1⟩
      | blanks againRed againGreen againBlue =>
          obtain ⟨rfl, rfl⟩ := readsRed.unique againRed
          exact (not_reads_comma againGreen).elim
  | blanks readsRed readsGreen readsBlue =>
      cases other with
      | commas againRed againGreen againBlue =>
          obtain ⟨rfl, rfl⟩ := readsRed.unique againRed
          exact (not_reads_comma readsGreen).elim
      | blanks againRed againGreen againBlue =>
          obtain ⟨rfl, rfl⟩ := readsRed.unique againRed
          obtain ⟨rfl, rfl⟩ := readsGreen.unique againGreen
          exact ⟨rfl, rfl, (readsBlue.unique againBlue).1⟩

/-- `parse_rgb` accepts three numerals for which it stores bytes. -/
theorem parseRgb_ok_iff
    {rgb : Rgb} :
    parseRgb text = .ok rgb ↔
      ∃ red green blue,
        RgbReading text red green blue ∧
          red.stored.toNat ≤ 255 ∧
          green.stored.toNat ≤ 255 ∧
          blue.stored.toNat ≤ 255 ∧
          rgb =
            ⟨red.stored.toUInt8, green.stored.toUInt8,
              blue.stored.toUInt8⟩ := by
  unfold parseRgb
  constructor
  · intro parsed
    split at parsed
    · cases parsed
    · rename_i r g b scanned
      obtain ⟨red, green, blue, reading, rfl, rfl, rfl⟩ :=
        scanRgb?_iff.mp scanned
      split at parsed
      · cases parsed
      · rename_i inRange
        simp only [not_or, UInt32.not_lt, UInt32.le_iff_toNat_le,
          gt_iff_lt] at inRange
        cases parsed
        exact
          ⟨red, green, blue, reading, inRange.1, inRange.2.1,
            inRange.2.2, rfl⟩
  · rintro ⟨red, green, blue, reading, smallRed, smallGreen, smallBlue,
      rfl⟩
    rw [scanRgb?_iff.mpr ⟨red, green, blue, reading, rfl, rfl, rfl⟩]
    simp only
    rw [if_neg]
    simp only [not_or, UInt32.not_lt, UInt32.le_iff_toNat_le, gt_iff_lt]
    exact ⟨smallRed, smallGreen, smallBlue⟩

/-- The value of a numeral is the value of a color channel. -/
def InByte (numeral : Numeral) : Prop :=
  0 ≤ numeral.value ∧ numeral.value ≤ 255

/-- A numeral that `%u` takes for the value of a color channel. -/
def WrapsIntoByte (numeral : Numeral) : Prop :=
  -2 ^ 64 < numeral.value ∧
    numeral.value < 2 ^ 64 ∧
    numeral.value % 2 ^ 32 ≤ 255

/-- The numerals that `%u` takes for the value of a color channel. -/
theorem wrapsIntoByte_iff
    {numeral : Numeral} :
    WrapsIntoByte numeral ↔ numeral.stored.toNat ≤ 255 := by
  rw [numeral.stored_le_iff (by decide), numeral.not_overlong_iff,
    WrapsIntoByte, and_assoc]
  rfl

/-- The value of a channel is stored as it is. -/
theorem InByte.toUInt8_stored
    {numeral : Numeral}
    (inside : InByte numeral) :
    (numeral.stored.toUInt8.toNat : Int) = numeral.value := by
  obtain ⟨natural, small⟩ := inside
  have fits : ¬ numeral.Overlong :=
    numeral.not_overlong_iff.mpr ⟨by omega, by omega⟩
  have stored := numeral.stored_toNat fits
  rw [UInt32.toNat_toUInt8]
  omega

/-- Each color that `parse_rgb` accepts is what the text says. -/
structure RgbExact (text : List UInt8) : Prop where
  accepted :
    ∀ rgb,
      parseRgb text = .ok rgb →
      ∃ red green blue,
        RgbReading text red green blue ∧
          (rgb.r.toNat : Int) = red.value ∧
          (rgb.g.toNat : Int) = green.value ∧
          (rgb.b.toNat : Int) = blue.value
  rejected :
    ∀ red green blue,
      RgbReading text red green blue →
      ¬ (InByte red ∧ InByte green ∧ InByte blue) →
      Rejected (parseRgb text)

/-- All numerals of a color become bytes, but not all of them are bytes. -/
def RgbAliases (text : List UInt8) : Prop :=
  ∃ red green blue,
    RgbReading text red green blue ∧
      (WrapsIntoByte red ∧ WrapsIntoByte green ∧ WrapsIntoByte blue) ∧
      ¬ (InByte red ∧ InByte green ∧ InByte blue)

/-- `parse_rgb` says what the text says unless a numeral wraps around. -/
theorem rgbExact_iff : RgbExact text ↔ ¬ RgbAliases text := by
  constructor
  · rintro exact ⟨red, green, blue, reading, ⟨wrapsRed, wrapsGreen,
      wrapsBlue⟩, outside⟩
    have parsed :=
      parseRgb_ok_iff.mpr
        ⟨red, green, blue, reading, wrapsIntoByte_iff.mp wrapsRed,
          wrapsIntoByte_iff.mp wrapsGreen,
          wrapsIntoByte_iff.mp wrapsBlue, rfl⟩
    have rejected := exact.rejected red green blue reading outside
    exact rejected.ne_ok _ parsed
  · intro distinct
    refine ⟨?_, ?_⟩
    · intro rgb parsed
      obtain ⟨red, green, blue, reading, smallRed, smallGreen,
        smallBlue, rfl⟩ := parseRgb_ok_iff.mp parsed
      have wraps :=
        And.intro (wrapsIntoByte_iff.mpr smallRed)
          (And.intro (wrapsIntoByte_iff.mpr smallGreen)
            (wrapsIntoByte_iff.mpr smallBlue))
      have inside : InByte red ∧ InByte green ∧ InByte blue := by
        by_contra outside
        exact distinct ⟨red, green, blue, reading, wraps, outside⟩
      exact
        ⟨red, green, blue, reading, inside.1.toUInt8_stored,
          inside.2.1.toUInt8_stored, inside.2.2.toUInt8_stored⟩
    · intro red green blue reading outside
      refine rejected_of_forall_ne fun rgb parsed => ?_
      obtain ⟨otherRed, otherGreen, otherBlue, other, smallRed,
        smallGreen, smallBlue, -⟩ := parseRgb_ok_iff.mp parsed
      obtain ⟨rfl, rfl, rfl⟩ := reading.unique other
      exact distinct
        ⟨_, _, _, reading,
          ⟨wrapsIntoByte_iff.mpr smallRed,
            wrapsIntoByte_iff.mpr smallGreen,
            wrapsIntoByte_iff.mpr smallBlue⟩, outside⟩

end Colors

section Power

/-- The words of the modes with times. -/
inductive CycleWord : PowerMode → List UInt8 → Prop where
  | blink :
      CycleWord .blink (ascii "blink")
  | breath :
      CycleWord .breath (ascii "breath")

/-- A text is a word and two numerals that follow one another. -/
inductive CycleReading
    (text word : List UInt8)
    (on off : Numeral) : Prop where
  | intro
      {afterWord afterOn afterOff : List UInt8} :
      ReadsWord text word afterWord →
      Reads afterWord on afterOn →
      Reads afterOn off afterOff →
      (∀ byte ∈ afterOff, CString.isSpace byte = true) →
      CycleReading text word on off

variable
  {text word : List UInt8}
  {mode : PowerMode}
  {on off : Numeral}
  {config changed : ConfigData}

/-- The word of a mode is shorter than the buffer for it. -/
theorem CycleWord.short (named : CycleWord mode word) :
    word.length < 15 := by
  cases named <;> decide

/-- A text is a word and two numerals in one way. -/
theorem CycleReading.unique
    {other : List UInt8}
    {otherOn otherOff : Numeral}
    (reading : CycleReading text word on off)
    (otherReading : CycleReading text other otherOn otherOff) :
    other = word ∧ otherOn = on ∧ otherOff = off := by
  obtain ⟨readsWord, readsOn, readsOff, -⟩ := reading
  obtain ⟨againWord, againOn, againOff, -⟩ := otherReading
  obtain ⟨rfl, rfl⟩ := readsWord.unique againWord
  obtain ⟨rfl, rfl⟩ := readsOn.unique againOn
  exact ⟨rfl, rfl, (readsOff.unique againOff).1⟩

/-- Only a word is stored if no numeral follows it. -/
theorem scanPower_word
    (short : word.length < 15) :
    CString.sscanf powerFormat text = [.word word] ↔
      ∃ rest,
        ReadsWord text word rest ∧ CString.numeral? rest = none := by
  rw [powerFormat, CString.sscanf_word_eq_cons short]
  simp only [CString.sscanf_space_unsigned,
    CString.sscanf_unsigned_eq_nil]

/-- A word and two numbers are stored if that is the whole text. -/
theorem scanPower_cycle
    {onMs offMs : UInt32}
    (short : word.length < 15) :
    CString.sscanf powerFormat text =
        [.word word, .unsigned onMs, .unsigned offMs] ↔
      ∃ on off,
        CycleReading text word on off ∧
          on.stored = onMs ∧
          off.stored = offMs := by
  rw [powerFormat, CString.sscanf_word_eq_cons short]
  simp only [CString.sscanf_space_unsigned,
    CString.sscanf_unsigned_eq_cons, CString.sscanf_space_char_eq_nil]
  constructor
  · rintro ⟨_, readsWord, on, _, readsOn, sameOn, off, _, readsOff,
      sameOff, blank⟩
    exact
      ⟨on, off, .intro readsWord readsOn readsOff blank, sameOn, sameOff⟩
  · rintro ⟨on, off, ⟨readsWord, readsOn, readsOff, blank⟩, sameOn,
      sameOff⟩
    exact
      ⟨_, readsWord, on, _, readsOn, sameOn, off, _, readsOff, sameOff,
        blank⟩

/-- The range check of `parse_power_mode` adds without overflow. -/
theorem inRange_iff
    {onMs offMs : UInt32} :
    ¬ (onMs > 65535 ∨ offMs > 65535 ∨ onMs + offMs > 65535) ↔
      onMs.toNat + offMs.toNat ≤ 65535 := by
  simp only [not_or, gt_iff_lt, UInt32.not_lt, UInt32.le_iff_toNat_le,
    UInt32.toNat_add]
  change
    onMs.toNat ≤ 65535 ∧ offMs.toNat ≤ 65535 ∧
        (onMs.toNat + offMs.toNat) % 2 ^ 32 ≤ 65535 ↔
      onMs.toNat + offMs.toNat ≤ 65535
  omega

/-- What `parse_power_mode` does with a mode without times. -/
theorem parsePowerMode_of_none
    {rest : List UInt8}
    (readsWord : ReadsWord text (ascii "none") rest)
    (noNumeral : CString.numeral? rest = none) :
    parsePowerMode text config =
      (.ok (), { config with powerMode := .on }) := by
  unfold parsePowerMode
  rw [(scanPower_word (by decide)).mpr ⟨rest, readsWord, noNumeral⟩]
  rfl

/-- What `parse_power_mode` does with a mode with times. -/
theorem parsePowerMode_of_cycle
    (named : CycleWord mode word)
    (reading : CycleReading text word on off)
    (inRange : on.stored.toNat + off.stored.toNat ≤ 65535) :
    parsePowerMode text config =
      (.ok (),
        { config with
          powerMode := mode
          powerOnMs := on.stored
          powerOffMs := off.stored }) := by
  unfold parsePowerMode
  rw [(scanPower_cycle named.short).mpr ⟨on, off, reading, rfl, rfl⟩]
  simp only
  rw [if_neg (inRange_iff.mpr inRange)]
  cases named with
  | blink =>
      rfl
  | breath =>
      rfl

/-- The texts that `parse_power_mode` accepts, and what it stores for them. -/
theorem parsePowerMode_ok_iff :
    parsePowerMode text config = (.ok (), changed) ↔
      (∃ rest,
        ReadsWord text (ascii "none") rest ∧
          CString.numeral? rest = none ∧
          changed = { config with powerMode := .on }) ∨
      ∃ mode word on off,
        CycleWord mode word ∧
          CycleReading text word on off ∧
          on.stored.toNat + off.stored.toNat ≤ 65535 ∧
          changed =
            { config with
              powerMode := mode
              powerOnMs := on.stored
              powerOffMs := off.stored } := by
  constructor
  · intro parsed
    unfold parsePowerMode at parsed
    split at parsed
    · rename_i mode scanned
      split at parsed
      · rename_i isNone
        subst isNone
        cases parsed
        obtain ⟨rest, readsWord, noNumeral⟩ :=
          (scanPower_word (by decide)).mp scanned
        exact Or.inl ⟨rest, readsWord, noNumeral, rfl⟩
      · cases parsed
    · rename_i word onMs offMs scanned
      split at parsed
      · cases parsed
      · rename_i inRange
        split at parsed
        · rename_i isBlink
          subst isBlink
          cases parsed
          obtain ⟨on, off, reading, rfl, rfl⟩ :=
            (scanPower_cycle (by decide)).mp scanned
          exact Or.inr
            ⟨.blink, _, on, off, .blink, reading,
              inRange_iff.mp inRange, rfl⟩
        · split at parsed
          · rename_i isBreath
            subst isBreath
            cases parsed
            obtain ⟨on, off, reading, rfl, rfl⟩ :=
              (scanPower_cycle (by decide)).mp scanned
            exact Or.inr
              ⟨.breath, _, on, off, .breath, reading,
                inRange_iff.mp inRange, rfl⟩
          · cases parsed
    · cases parsed
  · rintro (⟨rest, readsWord, noNumeral, rfl⟩ |
      ⟨mode, word, on, off, named, reading, inRange, rfl⟩)
    · exact parsePowerMode_of_none readsWord noNumeral
    · exact parsePowerMode_of_cycle named reading inRange

/-- A text that is not accepted leaves the configuration as it is. -/
theorem parsePowerMode_refused
    (refused : ∀ changed, parsePowerMode text config ≠ (.ok (), changed)) :
    parsePowerMode text config = (.error .einval, config) := by
  generalize result : parsePowerMode text config = outcome at refused ⊢
  unfold parsePowerMode at result
  split at result
  · split at result
    · exact absurd result.symm (refused _)
    · exact result.symm
  · split at result
    · exact result.symm
    · split at result
      · exact absurd result.symm (refused _)
      · split at result
        · exact absurd result.symm (refused _)
        · exact result.symm
  · exact result.symm

/-- Two numerals are times that fit into a cycle. -/
def InCycle (on off : Numeral) : Prop :=
  0 ≤ on.value ∧ 0 ≤ off.value ∧ on.value + off.value ≤ 65535

/-- Two numerals that `%u` takes for times that fit into a cycle. -/
def WrapsIntoCycle (on off : Numeral) : Prop :=
  (-2 ^ 64 < on.value ∧ on.value < 2 ^ 64) ∧
    (-2 ^ 64 < off.value ∧ off.value < 2 ^ 64) ∧
    on.value % 2 ^ 32 + off.value % 2 ^ 32 ≤ 65535

/-- The times of a cycle are stored as they are. -/
theorem InCycle.stored
    (inside : InCycle on off) :
    (on.stored.toNat : Int) = on.value ∧
      (off.stored.toNat : Int) = off.value := by
  obtain ⟨naturalOn, naturalOff, small⟩ := inside
  have fitsOn : ¬ on.Overlong :=
    on.not_overlong_iff.mpr ⟨by omega, by omega⟩
  have fitsOff : ¬ off.Overlong :=
    off.not_overlong_iff.mpr ⟨by omega, by omega⟩
  have storedOn := on.stored_toNat fitsOn
  have storedOff := off.stored_toNat fitsOff
  constructor <;> omega

/-- The numerals that `%u` takes for times that fit into a cycle. -/
theorem wrapsIntoCycle_iff :
    WrapsIntoCycle on off ↔
      on.stored.toNat + off.stored.toNat ≤ 65535 := by
  unfold WrapsIntoCycle
  rw [← on.not_overlong_iff, ← off.not_overlong_iff]
  constructor
  · rintro ⟨fitsOn, fitsOff, small⟩
    have storedOn := on.stored_toNat fitsOn
    have storedOff := off.stored_toNat fitsOff
    omega
  · intro small
    obtain ⟨fitsOn, -⟩ :=
      (@Numeral.stored_le_iff on 65535 (by decide)).mp (by omega)
    obtain ⟨fitsOff, -⟩ :=
      (@Numeral.stored_le_iff off 65535 (by decide)).mp (by omega)
    have storedOn := on.stored_toNat fitsOn
    have storedOff := off.stored_toNat fitsOff
    exact ⟨fitsOn, fitsOff, by omega⟩

/-- The times that `parse_power_mode` accepts are what the text says. -/
structure PowerExact (text : List UInt8) : Prop where
  accepted :
    ∀ config changed,
      parsePowerMode text config = (.ok (), changed) →
      (∃ rest,
        ReadsWord text (ascii "none") rest ∧
          changed = { config with powerMode := .on }) ∨
      ∃ word on off,
        CycleReading text word on off ∧
          (changed.powerOnMs.toNat : Int) = on.value ∧
          (changed.powerOffMs.toNat : Int) = off.value ∧
          on.value + off.value ≤ 65535
  rejected :
    ∀ word on off,
      CycleReading text word on off →
      ¬ InCycle on off →
      ∀ config, parsePowerMode text config = (.error .einval, config)

/-- The numerals of a mode wrap around to times, but are not times. -/
def PowerAliases (text : List UInt8) : Prop :=
  ∃ mode word on off,
    CycleWord mode word ∧
      CycleReading text word on off ∧
      WrapsIntoCycle on off ∧
      ¬ InCycle on off

/-- `parse_power_mode` says what the text says unless a numeral wraps around. -/
theorem powerExact_iff : PowerExact text ↔ ¬ PowerAliases text := by
  constructor
  · rintro exact ⟨mode, word, on, off, named, reading, wraps, outside⟩
    have rejected :=
      exact.rejected word on off reading outside .defaults
    rw [parsePowerMode_of_cycle named reading
      (wrapsIntoCycle_iff.mp wraps)] at rejected
    cases rejected
  · intro distinct
    have inside :
        ∀ mode word on off,
          CycleWord mode word →
          CycleReading text word on off →
          on.stored.toNat + off.stored.toNat ≤ 65535 →
          InCycle on off := by
      intro mode word on off named reading small
      by_contra outside
      exact distinct
        ⟨mode, word, on, off, named, reading,
          wrapsIntoCycle_iff.mpr small, outside⟩
    refine ⟨?_, ?_⟩
    · intro config changed parsed
      rcases parsePowerMode_ok_iff.mp parsed with
        ⟨rest, readsWord, -, rfl⟩ |
          ⟨mode, word, on, off, named, reading, small, rfl⟩
      · exact Or.inl ⟨rest, readsWord, rfl⟩
      · have inCycle := inside mode word on off named reading small
        obtain ⟨storedOn, storedOff⟩ := inCycle.stored
        exact Or.inr
          ⟨word, on, off, reading, storedOn, storedOff, inCycle.2.2⟩
    · intro word on off reading outside config
      refine parsePowerMode_refused fun changed parsed => ?_
      rcases parsePowerMode_ok_iff.mp parsed with
        ⟨rest, readsWord, noNumeral, -⟩ |
          ⟨mode, other, otherOn, otherOff, named, otherReading, small,
            -⟩
      · obtain ⟨againWord, readsOn, -, -⟩ := reading
        obtain ⟨-, rfl⟩ := againWord.unique readsWord
        exact CString.numeral?_eq_none.mp noNumeral _ _ readsOn
      · obtain ⟨rfl, rfl, rfl⟩ := reading.unique otherReading
        exact outside (inside _ _ _ _ named reading small)

end Power

/--
Each of the three parsers stores what the numerals of a text denote, and rejects
those outside the range, exactly if no numerals outside the range wrap around into
it.
-/
theorem numbersExact_iff
    (text : List UInt8)
    (minimum maximum : UInt32) :
    (UnsignedExact text minimum maximum ↔
      ¬ UnsignedAliases text minimum maximum) ∧
    (RgbExact text ↔ ¬ RgbAliases text) ∧
    (PowerExact text ↔ ¬ PowerAliases text) :=
  ⟨unsignedExact_iff, rgbExact_iff, powerExact_iff⟩

/-- Numerals far outside the range that are accepted. -/
theorem aliases_accepted :
    (parseUnsigned (ascii "-18446744073709551615") 1 1000 = .ok 1 ∧
      ¬ UnsignedExact (ascii "-18446744073709551615") 1 1000) ∧
    (parseRgb (ascii "4294967297,0,-4294967294") = .ok ⟨1, 0, 2⟩ ∧
      ¬ RgbExact (ascii "4294967297,0,-4294967294")) ∧
    ¬ PowerExact (ascii "blink -4294967196 5") := by
  refine ⟨⟨?_, ?_⟩, ⟨?_, ?_⟩, ?_⟩
  · decide
  · intro exact
    obtain ⟨numeral, reads, stored, -⟩ := exact.accepted 1 (by decide)
    cases reads.numeral?_eq
    revert stored
    decide
  · decide
  · refine fun exact => rgbExact_iff.mp exact ?_
    exact
      ⟨⟨.absent, ascii "4294967297", by decide,
          CString.forall_mem_of_all (by decide)⟩,
        ⟨.absent, ascii "0", by decide,
          CString.forall_mem_of_all (by decide)⟩,
        ⟨.minus, ascii "4294967294", by decide,
          CString.forall_mem_of_all (by decide)⟩,
        .commas (CString.reads_of_numeral?_eq rfl)
          (CString.reads_of_numeral?_eq rfl)
          (CString.reads_of_numeral?_eq rfl),
        by unfold WrapsIntoByte; decide,
        by unfold InByte; decide⟩
  · refine fun exact => powerExact_iff.mp exact ?_
    have readsWord :
        ReadsWord (ascii "blink -4294967196 5") (ascii "blink")
          (ascii " -4294967196 5") :=
      ⟨⟨[], by simp, rfl⟩, by decide,
        CString.forall_mem_of_all (by decide),
        CString.forall_mem_head?_of_all (by decide)⟩
    exact
      ⟨.blink, _, ⟨.minus, ascii "4294967196", by decide,
          CString.forall_mem_of_all (by decide)⟩,
        ⟨.absent, ascii "5", by decide,
          CString.forall_mem_of_all (by decide)⟩, .blink,
        .intro readsWord (CString.reads_of_numeral?_eq rfl)
          (CString.reads_of_numeral?_eq rfl) (List.forall_mem_nil _),
        by unfold WrapsIntoCycle; decide,
        by unfold InCycle; decide⟩

end UgreenLeds
