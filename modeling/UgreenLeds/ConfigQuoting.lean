import UgreenLeds.ConfigPrecedence

/-!
# Quoted values and comments

A value survives the way through `config_load_file` if it stands between quotes
that it does not contain, whatever else it contains, and without quotes if it has
nothing that trimming or the comment scanner would take away.  White space around
the key and the value and a comment at the end of the line make no difference.
-/

namespace UgreenLeds

open CString (isSpace)

/-- A text of white space. -/
def Blank (text : List UInt8) : Prop :=
  ∀ byte ∈ text, isSpace byte = true

/-- A text that does not start or end with white space. -/
structure Solid (text : List UInt8) : Prop where
  head : ∀ byte ∈ text.head?, isSpace byte = false
  last : ∀ byte ∈ text.getLast?, isSpace byte = false

/-- A key as a user may write it. -/
structure PlainKey (key : List UInt8) : Prop extends Solid key where
  nonempty : key ≠ []
  noEquals : ∀ byte ∈ key, byte ≠ 61
  noNull : ∀ byte ∈ key, byte ≠ 0
  notComment : key.head? ≠ some 35
  /-- The first word of the key is not `declare`. -/
  notDeclare :
    key.takeWhile (fun byte => !isSpace byte) ≠ ascii "declare"

/-- What follows a value in a line: nothing or a comment. -/
def IsComment (text : List UInt8) : Prop :=
  text = [] ∨
    ∃ comment,
      text = 35 :: comment ∧ ∀ byte ∈ comment, byte ≠ 0

/-- A quotation mark. -/
def IsQuote (byte : UInt8) : Prop :=
  byte = 34 ∨ byte = 39

/-- A value that needs no quotes. -/
structure PlainValue (value : List UInt8) : Prop extends Solid value where
  noQuote : ∀ byte ∈ value, ¬ IsQuote byte
  noHash : ∀ byte ∈ value, byte ≠ 35
  noNull : ∀ byte ∈ value, byte ≠ 0

/-- White space contains no null byte. -/
theorem Blank.noNull
    {text : List UInt8}
    (isBlank : Blank text) :
    ∀ byte ∈ text, byte ≠ 0 := by
  rintro byte member rfl
  cases isBlank 0 member

/-- A comment contains no null byte. -/
theorem IsComment.noNull
    {text : List UInt8}
    (isComment : IsComment text) :
    ∀ byte ∈ text, byte ≠ 0 := by
  intro byte member
  rcases isComment with rfl | ⟨comment, rfl, noNull⟩
  · cases member
  · rcases List.mem_cons.mp member with isHash | inComment
    · rw [isHash]
      decide
    · exact noNull byte inComment

section Trim

variable
  {text blank : List UInt8}

/-- White space in front of a text is trimmed. -/
theorem trim_blank_append
    (isBlank : Blank blank)
    (text : List UInt8) :
    trim (blank ++ text) = trim text := by
  rw [trim, trim, List.dropWhile_append_of_pos isBlank]

/-- White space after a text is trimmed. -/
theorem trim_append_blank
    (isBlank : Blank blank)
    (text : List UInt8) :
    trim (text ++ blank) = trim text := by
  induction blank using List.reverseRecOn with
  | nil =>
      rw [List.append_nil]
  | append_singleton blank last inductionHypothesis =>
      have lastSpace : isSpace last = true :=
        isBlank last (by simp)
      have others : Blank blank :=
        fun byte member => isBlank byte (List.mem_append_left _ member)
      rw [← List.append_assoc, trim_concat _ lastSpace,
        inductionHypothesis others]

/-- A solid text is left as it is. -/
theorem trim_eq_self (solid : Solid text) : trim text = text := by
  rw [trim, CString.dropWhile_isSpace_eq_self solid.head,
    List.rdropWhile_eq_self_iff]
  intro nonempty
  rw [Bool.not_eq_true]
  exact solid.last _ (List.getLast?_eq_some_getLast nonempty)

/-- Trimming the end of a line stops at a byte that is no white space. -/
theorem rdropWhile_append_cons
    {stop : UInt8}
    (solid : isSpace stop = false)
    (front rest : List UInt8) :
    (front ++ stop :: rest).rdropWhile isSpace =
      front ++ stop :: rest.rdropWhile isSpace := by
  induction rest using List.reverseRecOn with
  | nil =>
      rw [List.rdropWhile_concat_neg _ _ _ (by simp [solid])]
      rfl
  | append_singleton rest last inductionHypothesis =>
      rw [← List.cons_append, ← List.append_assoc]
      by_cases space : isSpace last = true
      · rw [List.rdropWhile_concat_pos _ _ _ space,
          List.rdropWhile_concat_pos _ _ _ space, inductionHypothesis]
      · rw [List.rdropWhile_concat_neg _ _ _ space,
          List.rdropWhile_concat_neg _ _ _ space]
        simp

end Trim

section Split

/-- A text is split at its first occurrence of a byte. -/
theorem splitAtFirst?_append
    {byte : UInt8}
    {front : List UInt8}
    (absent : ∀ other ∈ front, other ≠ byte)
    (rest : List UInt8) :
    CString.splitAtFirst? byte (front ++ byte :: rest) =
      some (front, rest) := by
  have differs : ∀ other ∈ front, decide (other ≠ byte) = true :=
    fun other member => decide_eq_true (absent other member)
  rw [CString.splitAtFirst?, List.dropWhile_append_of_pos differs,
    List.takeWhile_append_of_pos differs]
  simp

end Split

section Comment

/-- A byte that neither opens a quotation nor starts a comment. -/
def Ordinary (byte : UInt8) : Prop :=
  ¬ IsQuote byte ∧ byte ≠ 35

/-- The comment scanner keeps ordinary text outside quotes. -/
theorem cutComment_ordinary
    {text : List UInt8}
    (ordinary : ∀ byte ∈ text, Ordinary byte)
    (rest : List UInt8) :
    cutComment none (text ++ rest) = text ++ cutComment none rest := by
  induction text with
  | nil =>
      rfl
  | cons first others inductionHypothesis =>
      obtain ⟨⟨notQuote, notHash⟩, later⟩ :=
        List.forall_mem_cons.mp ordinary
      have noQuote : ¬ (first = 39 ∨ first = 34) := by
        rintro (isApostrophe | isQuote)
        · exact notQuote (Or.inr isApostrophe)
        · exact notQuote (Or.inl isQuote)
      simp only [List.cons_append, cutComment, noQuote, notHash,
        false_and, ↓reduceIte, inductionHypothesis later]

/-- Between quotes it keeps everything up to the closing one. -/
theorem cutComment_quoted
    {quote : UInt8}
    (isQuote : IsQuote quote)
    {text : List UInt8}
    (noQuote : ∀ byte ∈ text, byte ≠ quote)
    (rest : List UInt8) :
    cutComment (some quote) (text ++ quote :: rest) =
      text ++ quote :: cutComment none rest := by
  have closes : quote = 39 ∨ quote = 34 := isQuote.symm
  induction text with
  | nil =>
      simp only [List.nil_append, cutComment, closes, or_true, and_self,
        ↓reduceIte, reduceCtorEq]
  | cons first others inductionHypothesis =>
      obtain ⟨differs, later⟩ := List.forall_mem_cons.mp noQuote
      have notClosing : ¬ (some quote = some first) := by
        intro same
        exact differs (Option.some.inj same).symm
      simp only [List.cons_append, cutComment, notClosing, reduceCtorEq,
        or_self, and_false, ↓reduceIte, inductionHypothesis later]

/-- A quotation is kept whole. -/
theorem cutComment_quotation
    {quote : UInt8}
    (isQuote : IsQuote quote)
    {text : List UInt8}
    (noQuote : ∀ byte ∈ text, byte ≠ quote)
    (rest : List UInt8) :
    cutComment none (quote :: (text ++ quote :: rest)) =
      quote :: (text ++ quote :: cutComment none rest) := by
  have opens : quote = 39 ∨ quote = 34 := isQuote.symm
  rw [cutComment, if_pos ⟨opens, Or.inl rfl⟩, if_pos rfl,
    cutComment_quoted isQuote noQuote]

/-- A comment is cut off. -/
theorem cutComment_comment
    {comment : List UInt8}
    (isComment : IsComment comment) :
    cutComment none comment = [] := by
  rcases isComment with rfl | ⟨rest, rfl, -⟩
  · rfl
  · rfl

/-- White space at the end of a text is kept or cut off with a comment. -/
theorem cutComment_concat
    {space : UInt8}
    (isBlank : isSpace space = true)
    (text : List UInt8)
    (quote : Option UInt8) :
    cutComment quote (text ++ [space]) = cutComment quote text ++ [space] ∨
      cutComment quote (text ++ [space]) = cutComment quote text := by
  have notQuote : ¬ (space = 39 ∨ space = 34) := by
    rintro (rfl | rfl) <;> cases isBlank
  have notHash : space ≠ 35 := by
    rintro rfl
    cases isBlank
  induction text generalizing quote with
  | nil =>
      left
      simp only [List.nil_append, cutComment, notQuote, notHash,
        false_and, ↓reduceIte]
  | cons first others inductionHypothesis =>
      simp only [List.cons_append, cutComment]
      split
      · rcases inductionHypothesis
            (if quote = none then some first else none) with
          kept | cut
        · exact Or.inl (by rw [kept, List.cons_append])
        · exact Or.inr (by rw [cut])
      · split
        · exact Or.inr rfl
        · rcases inductionHypothesis quote with kept | cut
          · exact Or.inl (by rw [kept, List.cons_append])
          · exact Or.inr (by rw [cut])

end Comment

section Value

/-- White space at the end of a line makes no difference to its value. -/
theorem configValue_rdropWhile (text : List UInt8) :
    configValue (text.rdropWhile isSpace) = configValue text := by
  induction text using List.reverseRecOn with
  | nil =>
      rfl
  | append_singleton text last inductionHypothesis =>
      by_cases space : isSpace last = true
      · rw [List.rdropWhile_concat_pos _ _ _ space, inductionHypothesis,
          configValue, configValue]
        rcases cutComment_concat space text none with kept | cut
        · rw [kept, trim_concat _ space]
        · rw [cut]
      · rw [List.rdropWhile_concat_neg _ _ _ space]

/-- One pair of quotes is stripped. -/
theorem unquote_quotation
    {quote : UInt8}
    (isQuote : IsQuote quote)
    (value : List UInt8) :
    unquote (quote :: (value ++ [quote])) = value := by
  have last :
      (quote :: (value ++ [quote])).getLast? = some quote := by
    rw [← List.cons_append, List.getLast?_concat]
  have stripped :
      2 ≤ (quote :: (value ++ [quote])).length ∧
        (((quote :: (value ++ [quote])).head? = some 34 ∧
            (quote :: (value ++ [quote])).getLast? = some 34) ∨
          ((quote :: (value ++ [quote])).head? = some 39 ∧
            (quote :: (value ++ [quote])).getLast? = some 39)) := by
    refine ⟨by simp, ?_⟩
    rw [last, List.head?_cons]
    rcases isQuote with rfl | rfl
    · exact Or.inl ⟨rfl, rfl⟩
    · exact Or.inr ⟨rfl, rfl⟩
  rw [unquote, if_pos stripped, List.tail_cons, List.dropLast_concat]

/-- A value without quotes is left as it is. -/
theorem unquote_eq_self
    {value : List UInt8}
    (noQuote : ∀ byte ∈ value, ¬ IsQuote byte) :
    unquote value = value := by
  refine if_neg ?_
  rintro ⟨-, ⟨starts, -⟩ | ⟨starts, -⟩⟩
  · exact noQuote 34 (List.mem_of_mem_head? starts) (Or.inl rfl)
  · exact noQuote 39 (List.mem_of_mem_head? starts) (Or.inr rfl)

/-- White space is ordinary. -/
theorem Blank.ordinary
    {text : List UInt8}
    (isBlank : Blank text) :
    ∀ byte ∈ text, Ordinary byte := by
  intro byte member
  have space := isBlank byte member
  refine ⟨?_, ?_⟩
  · rintro (rfl | rfl) <;> cases space
  · rintro rfl
    cases space

variable
  {before after comment : List UInt8}
  (blankBefore : Blank before)
  (blankAfter : Blank after)
  (isComment : IsComment comment)

include blankBefore blankAfter isComment

/-- A quoted value is recovered. -/
theorem configValue_quoted
    {quote : UInt8}
    (isQuote : IsQuote quote)
    {value : List UInt8}
    (noQuote : ∀ byte ∈ value, byte ≠ quote) :
    configValue
        (before ++ quote :: (value ++ quote :: (after ++ comment))) =
      value := by
  have notSpace : isSpace quote = false := by
    rcases isQuote with rfl | rfl <;> rfl
  have solid : Solid (quote :: (value ++ [quote])) := by
    constructor
    · intro byte starts
      cases starts
      exact notSpace
    · intro byte ends
      rw [← List.cons_append, List.getLast?_concat] at ends
      cases ends
      exact notSpace
  have shape :
      before ++ quote :: (value ++ quote :: after) =
        before ++ ((quote :: (value ++ [quote])) ++ after) := by
    simp
  rw [configValue, cutComment_ordinary blankBefore.ordinary,
    cutComment_quotation isQuote noQuote,
    cutComment_ordinary blankAfter.ordinary,
    cutComment_comment isComment, List.append_nil, shape,
    trim_blank_append blankBefore, trim_append_blank blankAfter,
    trim_eq_self solid, unquote_quotation isQuote]

/-- A value that needs no quotes is recovered without them. -/
theorem configValue_plain
    {value : List UInt8}
    (plain : PlainValue value) :
    configValue (before ++ (value ++ (after ++ comment))) = value := by
  have ordinary : ∀ byte ∈ value, Ordinary byte :=
    fun byte member =>
      ⟨plain.noQuote byte member, plain.noHash byte member⟩
  rw [configValue, cutComment_ordinary blankBefore.ordinary,
    cutComment_ordinary ordinary,
    cutComment_ordinary blankAfter.ordinary,
    cutComment_comment isComment, List.append_nil,
    trim_blank_append blankBefore, trim_append_blank blankAfter,
    trim_eq_self plain.toSolid, unquote_eq_self plain.noQuote]

end Value

section Line

variable
  {key before after : List UInt8}
  (plain : PlainKey key)
  (blankBefore : Blank before)
  (blankAfter : Blank after)

include plain

/-- Between a key and its value there is nothing that ends the key. -/
theorem PlainKey.noEquals_append
    (blankAfter : Blank after) :
    ∀ byte ∈ key ++ after, byte ≠ 61 := by
  intro byte member
  rcases List.mem_append.mp member with inKey | inBlank
  · exact plain.noEquals byte inKey
  · rintro rfl
    cases blankAfter 61 inBlank

/-- A line with a plain key does not look like a declaration. -/
theorem PlainKey.not_declare
    (blankAfter : Blank after)
    (value : List UInt8) :
    ¬ ascii "declare " <+: key ++ after ++ 61 :: value := by
  rintro ⟨rest, same⟩
  -- Both sides start with the same word, up to the first white space.
  have words :=
    congrArg (List.takeWhile fun byte => !isSpace byte) same
  have firstWord :
      (ascii "declare " ++ rest).takeWhile (fun byte => !isSpace byte) =
        ascii "declare" :=
    rfl
  rw [firstWord, List.append_assoc, List.takeWhile_append] at words
  split at words
  · rename_i oneWord
    have whole : key.takeWhile (fun byte => !isSpace byte) = key :=
      (List.takeWhile_prefix _).eq_of_length oneWord
    cases after with
    | nil =>
        have equals : (61 : UInt8) ∈ ascii "declare" := by
          rw [words]
          simp [isSpace]
        exact absurd equals (by decide)
    | cons first others =>
        have space : isSpace first = true :=
          blankAfter first List.mem_cons_self
        have stops :
            (first :: others ++ 61 :: value).takeWhile
                (fun byte => !isSpace byte) =
              [] := by
          rw [List.cons_append, List.takeWhile_cons_of_neg]
          simp [space]
        rw [stops, List.append_nil] at words
        exact plain.notDeclare (whole.trans words.symm)
  · exact plain.notDeclare words.symm

include blankBefore blankAfter

/-- A line is divided into its key and the value behind the first `=`. -/
theorem assignment?_line
    {value : List UInt8}
    (noNull : ∀ byte ∈ value, byte ≠ 0) :
    assignment? (before ++ (key ++ after ++ 61 :: value)) =
      some (key, configValue value) := by
  have whole :
      CString.content (before ++ (key ++ after ++ 61 :: value)) =
        before ++ (key ++ after ++ 61 :: value) := by
    apply List.takeWhile_eq_self_iff.mpr
    intro byte member
    simp only [List.mem_append, List.mem_cons] at member
    have nonzero : byte ≠ 0 := by
      rcases member with blank | (inKey | blank) | isEquals | inValue
      · exact blankBefore.noNull byte blank
      · exact plain.noNull byte inKey
      · exact blankAfter.noNull byte blank
      · rw [isEquals]
        decide
      · exact noNull byte inValue
    exact decide_eq_true nonzero
  obtain ⟨first, others, shape⟩ := List.exists_cons_of_ne_nil plain.nonempty
  have firstSolid : isSpace first = false :=
    plain.head first (by rw [shape]; rfl)
  have trimmed :
      trim (before ++ (key ++ after ++ 61 :: value)) =
        key ++ after ++ 61 :: value.rdropWhile isSpace := by
    rw [trim_blank_append blankBefore, trim, shape]
    simp only [List.cons_append]
    rw [List.dropWhile_cons_of_neg (by simp [firstSolid]),
      ← List.cons_append, ← List.cons_append,
      rdropWhile_append_cons rfl]
    rfl
  have notSkipped :
      ¬ (key ++ after ++ 61 :: value.rdropWhile isSpace = [] ∨
        (key ++ after ++ 61 :: value.rdropWhile isSpace).head? =
            some 35 ∨
        (ascii "declare ").isPrefixOf
          (key ++ after ++ 61 :: value.rdropWhile isSpace)) := by
    rw [List.isPrefixOf_iff_prefix]
    rintro (empty | comment | declaration)
    · simp at empty
    · apply plain.notComment
      rw [shape] at comment ⊢
      exact comment
    · exact plain.not_declare blankAfter _ declaration
  simp only [assignment?, whole, trimmed]
  rw [if_neg notSkipped,
    splitAtFirst?_append (plain.noEquals_append blankAfter)]
  simp only
  rw [trim_append_blank blankAfter, trim_eq_self plain.toSolid,
    configValue_rdropWhile]

end Line

/--
With any white space around the key, the key and the value of a line are
recovered: a value between quotes that it does not contain, and a value without
quotes that needs none, with any white space around them, and with or without a
comment at the end of the line.
-/
theorem assignment?_roundTrip
    {key before after : List UInt8}
    (plain : PlainKey key)
    (blankBefore : Blank before)
    (blankAfter : Blank after) :
    (∀ quote value front back comment,
        IsQuote quote →
        (∀ byte ∈ value, byte ≠ quote ∧ byte ≠ 0) →
        Blank front →
        Blank back →
        IsComment comment →
        assignment?
            (before ++ (key ++ after ++ 61 ::
              (front ++ quote ::
                (value ++ quote :: (back ++ comment))))) =
          some (key, value)) ∧
      ∀ value front back comment,
        PlainValue value →
        Blank front →
        Blank back →
        IsComment comment →
        assignment?
            (before ++ (key ++ after ++ 61 ::
              (front ++ (value ++ (back ++ comment))))) =
          some (key, value) := by
  constructor
  · intro quote value front back comment isQuote inside blankFront
      blankBack isComment
    have quoteNotNull : quote ≠ 0 := by
      rcases isQuote with rfl | rfl <;> decide
    rw [assignment?_line plain blankBefore blankAfter,
      configValue_quoted blankFront blankBack isComment isQuote
        fun byte member => (inside byte member).1]
    intro byte member
    simp only [List.mem_append, List.mem_cons] at member
    rcases member with
        blank | opens | inValue | closes | blank | inComment
    · exact blankFront.noNull byte blank
    · rw [opens]
      exact quoteNotNull
    · exact (inside byte inValue).2
    · rw [closes]
      exact quoteNotNull
    · exact blankBack.noNull byte blank
    · exact isComment.noNull byte inComment
  · intro value front back comment plainValue blankFront blankBack
      isComment
    rw [assignment?_line plain blankBefore blankAfter,
      configValue_plain blankFront blankBack isComment plainValue]
    intro byte member
    simp only [List.mem_append] at member
    rcases member with blank | inValue | blank | inComment
    · exact blankFront.noNull byte blank
    · exact plainValue.noNull byte inValue
    · exact blankBack.noNull byte blank
    · exact isComment.noNull byte inComment

/-- The name of a key of the file is plain. -/
theorem plainKey_colorPower : PlainKey (ascii "COLOR_POWER") where
  head := CString.forall_mem_head?_of_all (by decide)
  last := by
    rintro byte ⟨⟩
    rfl
  nonempty := by decide
  noEquals := CString.forall_mem_of_all (by decide)
  noNull := CString.forall_mem_of_all (by decide)
  notComment := by decide
  notDeclare := by decide

/-- A quoted value with a hash, a blank at its end and a comment behind it. -/
theorem assignment?_roundTrip_hash :
    assignment?
        (ascii "\t" ++ (ascii "COLOR_POWER" ++ ascii " " ++ 61 ::
          (ascii " " ++ 34 :: (ascii "a # 'b' = " ++ 34 ::
            (ascii "  " ++ ascii "# it's \"white\"\n"))))) =
      some (ascii "COLOR_POWER", ascii "a # 'b' = ") :=
  (assignment?_roundTrip plainKey_colorPower
      (CString.forall_mem_of_all (by decide) : Blank (ascii "\t"))
      (CString.forall_mem_of_all (by decide) : Blank (ascii " "))).1
    34 (ascii "a # 'b' = ") (ascii " ") (ascii "  ") _ (Or.inl rfl)
    (CString.forall_mem_of_all (by decide))
    (CString.forall_mem_of_all (by decide) : Blank (ascii " "))
    (CString.forall_mem_of_all (by decide) : Blank (ascii "  "))
    (Or.inr ⟨_, rfl, CString.forall_mem_of_all (by decide)⟩)

end UgreenLeds
