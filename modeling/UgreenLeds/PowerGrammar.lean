import UgreenLeds.ConfigNumerals

/-!
# The grammar of the power mode

The README documents the values of `BLINK_TYPE_POWER` word by word, while
`parse_power_mode` tells them apart by the number of conversions of one `sscanf`.
The two agree except for two kinds of texts, which the documentation excludes and
the code accepts.
-/

namespace UgreenLeds

open CString (Numeral Reads ReadsWord isSpace tokens)

/-- An unsigned decimal numeral. -/
structure IsNumber (word : List UInt8) : Prop where
  nonempty : word ≠ []
  allDigits : ∀ byte ∈ word, CString.isDigit byte = true

/-- The words of a documented value, and the configuration they ask for. -/
inductive Documented (config : ConfigData) :
    List (List UInt8) → ConfigData → Prop where
  | none :
      Documented config [ascii "none"]
        { config with powerMode := .on }
  | cycle
      {mode : PowerMode}
      {word on off : List UInt8} :
      CycleWord mode word →
      IsNumber on →
      IsNumber off →
      CString.digitsValue on ≤ 65535 →
      CString.digitsValue off ≤ 65535 →
      CString.digitsValue on + CString.digitsValue off ≤ 65535 →
      Documented config [word, on, off]
        { config with
          powerMode := mode
          powerOnMs := UInt32.ofNat (CString.digitsValue on)
          powerOffMs := UInt32.ofNat (CString.digitsValue off) }

/-- `parse_power_mode` accepts a text exactly if it is documented. -/
structure PowerGrammarExact (text : List UInt8) : Prop where
  accepted :
    ∀ config changed,
      parsePowerMode text config = (.ok (), changed) ↔
        Documented config (tokens isSpace text) changed
  refused :
    ∀ config,
      (∀ changed, ¬ Documented config (tokens isSpace text) changed) →
      parsePowerMode text config = (.error .einval, config)

/-- Something that does not start with a numeral follows the word `none`. -/
def NoneWithRest (text : List UInt8) : Prop :=
  ∃ rest,
    ReadsWord text (ascii "none") rest ∧
      (∃ byte ∈ rest, isSpace byte = false) ∧
      ∀ numeral other, ¬ Reads rest numeral other

/-- Two numerals without a sign are times that fit into a cycle. -/
def PlainCycle (on off : Numeral) : Prop :=
  on.sign = .absent ∧
    off.sign = .absent ∧
    on.magnitude + off.magnitude ≤ 65535

/-- The numerals of a mode are taken for times, but not plainly so. -/
def UndocumentedCycle (text : List UInt8) : Prop :=
  ∃ mode word on off,
    CycleWord mode word ∧
      CycleReading text word on off ∧
      WrapsIntoCycle on off ∧
      ¬ PlainCycle on off

section Words

variable
  {text word rest : List UInt8}
  {numeral : Numeral}

/-- White space is no digit. -/
theorem isDigit_of_isSpace
    {byte : UInt8}
    (space : isSpace byte = true) :
    CString.isDigit byte = false := by
  cases digit : CString.isDigit byte with
  | false =>
      rfl
  | true =>
      rw [CString.isSpace_of_isDigit digit] at space
      cases space

/-- A word of digits is a numeral without a sign. -/
theorem IsNumber.reads
    (number : IsNumber word)
    (reads : ReadsWord text word rest) :
    Reads text ⟨.absent, word, number.nonempty, number.allDigits⟩ rest where
  position := reads.position
  longest := fun byte head => isDigit_of_isSpace (reads.ends byte head)

/-- The digits of a numeral are an unsigned numeral. -/
theorem isNumber_digits (numeral : Numeral) : IsNumber numeral.digits where
  nonempty := numeral.nonempty
  allDigits := numeral.allDigits

/-- A numeral without a sign is a word if white space follows it. -/
theorem readsWord_digits
    (reads : Reads text numeral rest)
    (signless : numeral.sign = .absent)
    (ends : ∀ byte ∈ rest.head?, isSpace byte = true) :
    ReadsWord text numeral.digits rest where
  position := by
    obtain ⟨blanks, allBlank, same⟩ := reads.position
    refine ⟨blanks, allBlank, ?_⟩
    rw [same, Numeral.text, signless]
    rfl
  nonempty := numeral.nonempty
  visible := fun byte member =>
    CString.isSpace_of_isDigit (numeral.allDigits byte member)
  ends := ends

/-- White space stands in front of digits that do not follow other digits. -/
theorem isSpace_head_of_reads
    (reads : Reads text numeral rest)
    (signless : numeral.sign = .absent)
    (starts : ∀ byte ∈ text.head?, CString.isDigit byte = false) :
    ∀ byte ∈ text.head?, isSpace byte = true := by
  intro byte head
  obtain ⟨blanks, allBlank, rfl⟩ := reads.position
  cases blanks with
  | cons first later =>
      cases head
      exact allBlank _ List.mem_cons_self
  | nil =>
      rcases numeral with ⟨sign, digits, nonempty, allDigits⟩
      cases digits with
      | nil =>
          exact absurd rfl nonempty
      | cons first later =>
          cases signless
          have noDigit := starts first rfl
          rw [allDigits first List.mem_cons_self] at noDigit
          cases noDigit

/-- White space does not start with a numeral. -/
theorem not_reads_blank
    (blank : ∀ byte ∈ text, isSpace byte = true) :
    ¬ Reads text numeral rest := by
  intro reads
  obtain ⟨blanks, -, rfl⟩ := reads.position
  have visible := numeral.head?_text rest
  cases written : numeral.text ++ rest with
  | nil =>
      rw [List.append_eq_nil_iff, Numeral.text, List.append_eq_nil_iff]
        at written
      exact numeral.nonempty written.1.2
  | cons first later =>
      rw [written] at blank visible
      have space := blank first (by simp)
      rw [visible first rfl] at space
      cases space

end Words

section Grammar

variable
  {text : List UInt8}
  {config changed : ConfigData}
  {on off : Numeral}

/-- Without a sign, a numeral denotes what its digits denote. -/
theorem value_of_signless
    {numeral : Numeral}
    (signless : numeral.sign = .absent) :
    numeral.value = numeral.magnitude := by
  rw [Numeral.value, signless]

/-- Plain times are times that fit into a cycle. -/
theorem PlainCycle.inCycle (plain : PlainCycle on off) :
    InCycle on off := by
  obtain ⟨plainOn, plainOff, small⟩ := plain
  have valueOn := value_of_signless plainOn
  have valueOff := value_of_signless plainOff
  exact ⟨by omega, by omega, by omega⟩

/-- What is stored for plain times is what their digits denote. -/
theorem PlainCycle.stored (plain : PlainCycle on off) :
    on.stored = UInt32.ofNat on.magnitude ∧
      off.stored = UInt32.ofNat off.magnitude := by
  have valueOn := value_of_signless plain.1
  have valueOff := value_of_signless plain.2.1
  have small := plain.2.2
  obtain ⟨storedOn, storedOff⟩ := plain.inCycle.stored
  rw [← UInt32.toNat_inj, ← UInt32.toNat_inj, UInt32.toNat_ofNat',
    UInt32.toNat_ofNat', Nat.mod_eq_of_lt (by omega),
    Nat.mod_eq_of_lt (by omega)]
  constructor <;> omega

/-- Plain times after a word are three words. -/
theorem tokens_of_plainCycle
    {word : List UInt8}
    (reading : CycleReading text word on off)
    (plain : PlainCycle on off) :
    tokens isSpace text = [word, on.digits, off.digits] := by
  obtain ⟨readsWord, readsOn, readsOff, blank⟩ := reading
  have wordOn :=
    readsWord_digits readsOn plain.1
      (isSpace_head_of_reads readsOff plain.2.1 readsOn.longest)
  have wordOff :=
    readsWord_digits readsOff plain.2.1 fun byte head =>
      blank byte (List.mem_of_mem_head? head)
  rw [readsWord.tokens_eq, wordOn.tokens_eq, wordOff.tokens_eq,
    CString.tokens_blank blank]

/-- A documented value is `none`, or a mode with plain times. -/
theorem documented_iff :
    Documented config (tokens isSpace text) changed ↔
      (∃ rest,
        ReadsWord text (ascii "none") rest ∧
          (∀ byte ∈ rest, isSpace byte = true) ∧
          changed = { config with powerMode := .on }) ∨
      ∃ mode word on off,
        CycleWord mode word ∧
          CycleReading text word on off ∧
          PlainCycle on off ∧
          changed =
            { config with
              powerMode := mode
              powerOnMs := on.stored
              powerOffMs := off.stored } := by
  constructor
  · intro documented
    generalize divided : tokens isSpace text = words at documented
    cases documented with
    | none =>
        obtain ⟨rest, readsWord, others⟩ :=
          CString.tokens_eq_cons.mp divided
        exact Or.inl
          ⟨rest, readsWord, CString.tokens_eq_nil.mp others, rfl⟩
    | @cycle mode word on off named numberOn numberOff smallOn smallOff
        small =>
        obtain ⟨afterWord, readsWord, others⟩ :=
          CString.tokens_eq_cons.mp divided
        obtain ⟨afterOn, wordOn, others⟩ :=
          CString.tokens_eq_cons.mp others
        obtain ⟨afterOff, wordOff, others⟩ :=
          CString.tokens_eq_cons.mp others
        have reading :=
          CycleReading.intro readsWord (numberOn.reads wordOn)
            (numberOff.reads wordOff)
            (CString.tokens_eq_nil.mp others)
        have plain :
            PlainCycle
              ⟨.absent, on, numberOn.nonempty, numberOn.allDigits⟩
              ⟨.absent, off, numberOff.nonempty, numberOff.allDigits⟩ :=
          ⟨rfl, rfl, small⟩
        obtain ⟨storedOn, storedOff⟩ := plain.stored
        refine Or.inr
          ⟨mode, word, _, _, named, reading, plain, ?_⟩
        rw [storedOn, storedOff]
        rfl
  · rintro (⟨rest, readsWord, blank, rfl⟩ |
      ⟨mode, word, on, off, named, reading, plain, rfl⟩)
    · rw [readsWord.tokens_eq, CString.tokens_blank blank]
      exact .none
    · obtain ⟨storedOn, storedOff⟩ := plain.stored
      have small : on.magnitude + off.magnitude ≤ 65535 := plain.2.2
      rw [tokens_of_plainCycle reading plain, storedOn, storedOff]
      exact
        .cycle named (isNumber_digits on) (isNumber_digits off)
          (Nat.le_trans (Nat.le_add_right _ _) small)
          (Nat.le_trans (Nat.le_add_left _ _) small) small

/-- The word `none` is no mode with times. -/
theorem CycleWord.ne_none
    {mode : PowerMode}
    {word : List UInt8}
    (named : CycleWord mode word) :
    word ≠ ascii "none" := by
  cases named <;> decide

/-- The word `none` and the word of a mode with times exclude each other. -/
theorem CycleReading.not_none
    {mode : PowerMode}
    {word rest : List UInt8}
    (named : CycleWord mode word)
    (reading : CycleReading text word on off) :
    ¬ ReadsWord text (ascii "none") rest := by
  intro readsNone
  obtain ⟨readsWord, -, -, -⟩ := reading
  exact named.ne_none (readsNone.unique readsWord).1

/-- What follows `none` is accepted, but not documented. -/
theorem NoneWithRest.not_exact (overlooked : NoneWithRest text) :
    ¬ PowerGrammarExact text := by
  intro exact
  obtain ⟨rest, readsNone, ⟨byte, member, visible⟩, noReading⟩ :=
    overlooked
  have documented :=
    (exact.accepted .defaults _).mp
      (parsePowerMode_of_none readsNone
        (CString.numeral?_eq_none.mpr noReading))
  rcases documented_iff.mp documented with
    ⟨other, readsOther, blank, -⟩ |
      ⟨_, _, _, _, named, reading, -, -⟩
  · obtain ⟨-, rfl⟩ := readsNone.unique readsOther
    rw [blank byte member] at visible
    cases visible
  · exact reading.not_none named readsNone

/-- Times that are not plain are accepted, but not documented. -/
theorem UndocumentedCycle.not_exact
    (undocumented : UndocumentedCycle text) :
    ¬ PowerGrammarExact text := by
  intro exact
  obtain ⟨mode, word, on, off, named, reading, wraps, notPlain⟩ :=
    undocumented
  have documented :=
    (exact.accepted .defaults _).mp
      (parsePowerMode_of_cycle named reading
        (wrapsIntoCycle_iff.mp wraps))
  rcases documented_iff.mp documented with
    ⟨other, readsNone, -, -⟩ | ⟨_, _, _, _, -, otherReading, plain, -⟩
  · exact reading.not_none named readsNone
  · obtain ⟨-, rfl, rfl⟩ := reading.unique otherReading
    exact notPlain plain

/-- What is documented is accepted. -/
theorem parsePowerMode_of_documented
    (documented : Documented config (tokens isSpace text) changed) :
    parsePowerMode text config = (.ok (), changed) := by
  rcases documented_iff.mp documented with
    ⟨rest, readsNone, blank, rfl⟩ |
      ⟨mode, word, on, off, named, reading, plain, rfl⟩
  · exact
      parsePowerMode_of_none readsNone
        (CString.numeral?_eq_none.mpr fun _ _ => not_reads_blank blank)
  · obtain ⟨storedOn, storedOff⟩ := plain.inCycle.stored
    have small := plain.inCycle.2.2
    exact parsePowerMode_of_cycle named reading (by omega)

/-- What is accepted is documented, apart from the two kinds of texts. -/
theorem documented_of_parsePowerMode
    (noRest : ¬ NoneWithRest text)
    (noUndocumented : ¬ UndocumentedCycle text)
    (parsed : parsePowerMode text config = (.ok (), changed)) :
    Documented config (tokens isSpace text) changed := by
  rw [documented_iff]
  rcases parsePowerMode_ok_iff.mp parsed with
    ⟨rest, readsNone, noNumeral, rfl⟩ |
      ⟨mode, word, on, off, named, reading, small, rfl⟩
  · refine Or.inl ⟨rest, readsNone, ?_, rfl⟩
    intro byte member
    by_contra visible
    exact noRest
      ⟨rest, readsNone, ⟨byte, member, by simpa using visible⟩,
        CString.numeral?_eq_none.mp noNumeral⟩
  · refine Or.inr ⟨mode, word, on, off, named, reading, ?_, rfl⟩
    by_contra notPlain
    exact noUndocumented
      ⟨mode, word, on, off, named, reading,
        wrapsIntoCycle_iff.mpr small, notPlain⟩

/--
`parse_power_mode` accepts exactly the documented texts, except that it overlooks
what follows `none` and takes numerals with a sign or beyond the range.
-/
theorem powerGrammarExact_iff :
    PowerGrammarExact text ↔
      ¬ NoneWithRest text ∧ ¬ UndocumentedCycle text := by
  constructor
  · intro exact
    exact
      ⟨fun overlooked => overlooked.not_exact exact,
        fun undocumented => undocumented.not_exact exact⟩
  · rintro ⟨noRest, noUndocumented⟩
    refine ⟨?_, ?_⟩
    · intro config changed
      constructor
      · exact documented_of_parsePowerMode noRest noUndocumented
      · exact parsePowerMode_of_documented
    · intro config undocumented
      refine parsePowerMode_refused fun changed parsed => ?_
      exact
        undocumented changed
          (documented_of_parsePowerMode noRest noUndocumented parsed)

/-- What follows `none` is overlooked, and so is a sign. -/
theorem undocumented_accepted :
    ¬ PowerGrammarExact (ascii "none x") ∧
      ¬ PowerGrammarExact (ascii "blink +100 200") := by
  constructor
  · intro exact
    have readsNone :
        ReadsWord (ascii "none x") (ascii "none") (ascii " x") :=
      ⟨⟨[], by simp, rfl⟩, by decide,
        CString.forall_mem_of_all (by decide),
        CString.forall_mem_head?_of_all (by decide)⟩
    have words :
        tokens isSpace (ascii "none x") = [ascii "none", ascii "x"] := by
      decide
    have documented :=
      (exact.accepted .defaults _).mp
        (parsePowerMode_of_none readsNone rfl)
    rw [words] at documented
    cases documented
  · intro exact
    have readsWord :
        ReadsWord (ascii "blink +100 200") (ascii "blink")
          (ascii " +100 200") :=
      ⟨⟨[], by simp, rfl⟩, by decide,
        CString.forall_mem_of_all (by decide),
        CString.forall_mem_head?_of_all (by decide)⟩
    have readsOn :
        Reads (ascii " +100 200")
          ⟨.plus, ascii "100", by decide,
            CString.forall_mem_of_all (by decide)⟩ (ascii " 200") :=
      CString.reads_of_numeral?_eq rfl
    have readsOff :
        Reads (ascii " 200")
          ⟨.absent, ascii "200", by decide,
            CString.forall_mem_of_all (by decide)⟩ [] :=
      CString.reads_of_numeral?_eq rfl
    have words :
        tokens isSpace (ascii "blink +100 200") =
          [ascii "blink", ascii "+100", ascii "200"] := by
      decide
    have documented :=
      (exact.accepted .defaults _).mp
        (parsePowerMode_of_cycle .blink
          (.intro readsWord readsOn readsOff (List.forall_mem_nil _))
          (by decide))
    rw [words] at documented
    cases documented with
    | cycle _ numberOn =>
        have digit := numberOn.allDigits 43 (by decide)
        revert digit
        decide

end Grammar

end UgreenLeds
