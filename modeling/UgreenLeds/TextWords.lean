import UgreenLeds.CString

/-!
# Words between white space

The first word of a text and what follows it.  The `%s` of `sscanf` reads a word
that is shorter than its width, and tokenizing at white space finds one word after
the other.
-/

namespace CString

/-- After white space, a text starts with a word. -/
structure ReadsWord
    (text word rest : List UInt8) : Prop where
  position :
    ∃ blanks,
      (∀ byte ∈ blanks, isSpace byte = true) ∧
        text = blanks ++ (word ++ rest)
  nonempty : word ≠ []
  visible : ∀ byte ∈ word, isSpace byte = false
  ends : ∀ byte ∈ rest.head?, isSpace byte = true

section Reading

variable
  {text word rest : List UInt8}

/-- A word is what stands before the next white space. -/
theorem ReadsWord.fields (reads : ReadsWord text word rest) :
    (text.dropWhile isSpace).takeWhile (fun byte => !isSpace byte) =
        word ∧
      (text.dropWhile isSpace).dropWhile (fun byte => !isSpace byte) =
        rest := by
  obtain ⟨⟨blanks, allBlank, rfl⟩, nonempty, visible, ends⟩ := reads
  have started : (word ++ rest).dropWhile isSpace = word ++ rest := by
    refine dropWhile_isSpace_eq_self fun byte head => ?_
    rw [List.head?_append_of_ne_nil _ nonempty] at head
    exact visible byte (List.mem_of_mem_head? head)
  have passes : ∀ byte ∈ word, (!isSpace byte) = true := by
    intro byte member
    rw [visible byte member]
    rfl
  have stops : ∀ byte ∈ rest.head?, (!isSpace byte) = false := by
    intro byte head
    rw [ends byte head]
    rfl
  rw [List.dropWhile_append_of_pos allBlank, started]
  exact takeWhile_append_of_stops passes stops

/-- A text with something but white space in it starts with a word. -/
theorem readsWord_of_ne_nil
    (something :
      (text.dropWhile isSpace).takeWhile (fun byte => !isSpace byte) ≠
        []) :
    ReadsWord text
      ((text.dropWhile isSpace).takeWhile fun byte => !isSpace byte)
      ((text.dropWhile isSpace).dropWhile fun byte => !isSpace byte) where
  position := by
    refine ⟨text.takeWhile isSpace, ?_, ?_⟩
    · intro byte member
      exact List.mem_takeWhile_imp member
    · rw [List.takeWhile_append_dropWhile,
        List.takeWhile_append_dropWhile]
  nonempty := something
  visible := by
    intro byte member
    simpa using List.mem_takeWhile_imp member
  ends := by
    intro byte head
    have stops :=
      List.head?_dropWhile_not (fun byte => !isSpace byte)
        (text.dropWhile isSpace)
    rw [Option.mem_def.mp head] at stops
    simpa using stops

/-- A text starts with one word. -/
theorem ReadsWord.unique
    {other otherRest : List UInt8}
    (reads : ReadsWord text word rest)
    (otherReads : ReadsWord text other otherRest) :
    other = word ∧ otherRest = rest := by
  obtain ⟨rfl, rfl⟩ := reads.fields
  obtain ⟨rfl, rfl⟩ := otherReads.fields
  exact ⟨rfl, rfl⟩

/-- Dropping a part by its length leaves what follows it. -/
theorem drop_length_takeWhile
    (isPart : UInt8 → Bool)
    (field : List UInt8) :
    field.drop (field.takeWhile isPart).length =
      field.dropWhile isPart := by
  calc field.drop (field.takeWhile isPart).length
      = (field.takeWhile isPart ++ field.dropWhile isPart).drop
          (field.takeWhile isPart).length := by
        rw [List.takeWhile_append_dropWhile]
    _ = field.dropWhile isPart := List.drop_left

/-- A word shorter than its width is read whole, and only such a one. -/
theorem sscanf_word_eq_cons
    {width : Nat}
    {format : List Directive}
    {later : List Value}
    (short : word.length < width) :
    sscanf (.word width :: format) text = .word word :: later ↔
      ∃ rest,
        ReadsWord text word rest ∧ sscanf format rest = later := by
  rw [sscanf]
  constructor
  · intro scanned
    split at scanned
    · cases scanned
    · rename_i something
      have taken :=
        (Value.word.inj (List.cons.inj scanned).1)
      have whole :
          (text.dropWhile isSpace).takeWhile
              (fun byte => !isSpace byte) =
            word := by
        rw [← taken, List.length_take] at short
        rw [← taken, List.take_of_length_le (by omega)]
      have present :
          (text.dropWhile isSpace).takeWhile
              (fun byte => !isSpace byte) ≠
            [] := by
        intro empty
        rw [empty, List.take_nil] at something
        exact something rfl
      have reads := readsWord_of_ne_nil present
      rw [whole] at reads
      refine ⟨_, reads, ?_⟩
      rw [← (List.cons.inj scanned).2, taken, ←
        drop_length_takeWhile, whole]
  · rintro ⟨rest, reads, rfl⟩
    obtain ⟨taken, dropped⟩ := reads.fields
    have left :=
      drop_length_takeWhile (fun byte => !isSpace byte)
        (text.dropWhile isSpace)
    rw [taken, dropped] at left
    rw [taken, List.take_of_length_le (by omega),
      if_neg reads.nonempty, left]

/-- A probe after white space stores nothing if there is nothing else. -/
theorem sscanf_space_char_eq_nil
    {format : List Directive} :
    sscanf (.space :: .char :: format) text = [] ↔
      ∀ byte ∈ text, isSpace byte = true := by
  rw [← List.dropWhile_eq_nil_iff, sscanf]
  cases text.dropWhile isSpace with
  | nil =>
      simp [sscanf]
  | cons first later =>
      simp [sscanf]

end Reading

section Tokens

variable
  {text word rest : List UInt8}

/-- Delimiters in front of a text make no difference to its tokens. -/
theorem tokens_append_of_blank
    {isDelimiter : UInt8 → Bool}
    {blanks : List UInt8}
    (allBlank : ∀ byte ∈ blanks, isDelimiter byte = true)
    (text : List UInt8) :
    tokens isDelimiter (blanks ++ text) = tokens isDelimiter text := by
  induction blanks with
  | nil =>
      rfl
  | cons first later inductionHypothesis =>
      rw [← inductionHypothesis fun byte member =>
        allBlank byte (List.mem_cons_of_mem first member)]
      have blank := allBlank first List.mem_cons_self
      simp [tokens, List.splitOnP_cons_eq_if_modifyHead, blank]

/-- A text of delimiters has no tokens. -/
theorem tokens_blank
    {isDelimiter : UInt8 → Bool}
    (blank : ∀ byte ∈ text, isDelimiter byte = true) :
    tokens isDelimiter text = [] := by
  have skipped := tokens_append_of_blank blank []
  rwa [List.append_nil] at skipped

/-- A word in front of a delimiter is the first token. -/
theorem tokens_append_of_word
    {isDelimiter : UInt8 → Bool}
    (nonempty : word ≠ [])
    (visible : ∀ byte ∈ word, isDelimiter byte = false)
    (ends : ∀ byte ∈ rest.head?, isDelimiter byte = true) :
    tokens isDelimiter (word ++ rest) =
      word :: tokens isDelimiter rest := by
  cases rest with
  | nil =>
      rw [List.append_nil, tokens, List.splitOnP_eq_singleton visible]
      simp [nonempty, tokens]
  | cons first later =>
      have blank := ends first rfl
      rw [tokens, List.splitOnP_append_cons_of_forall_mem visible _ blank]
      simp [nonempty, tokens, List.splitOnP_cons_eq_if_modifyHead, blank]

/-- The first word is the first token. -/
theorem ReadsWord.tokens_eq (reads : ReadsWord text word rest) :
    tokens isSpace text = word :: tokens isSpace rest := by
  obtain ⟨⟨blanks, allBlank, rfl⟩, nonempty, visible, ends⟩ := reads
  rw [tokens_append_of_blank allBlank,
    tokens_append_of_word nonempty visible ends]

/-- The tokens of a text tell how it is divided into words. -/
theorem tokens_cases (text : List UInt8) :
    ((∀ byte ∈ text, isSpace byte = true) ∧ tokens isSpace text = []) ∨
      ∃ word rest,
        ReadsWord text word rest ∧
          tokens isSpace text = word :: tokens isSpace rest := by
  by_cases empty :
    (text.dropWhile isSpace).takeWhile (fun byte => !isSpace byte) = []
  · refine Or.inl ?_
    have blank : ∀ byte ∈ text, isSpace byte = true := by
      rw [← List.dropWhile_eq_nil_iff]
      cases rest : text.dropWhile isSpace with
      | nil =>
          rfl
      | cons first later =>
          have stops := List.head?_dropWhile_not isSpace text
          rw [rest] at stops empty
          simp at stops
          simp [stops] at empty
    exact ⟨blank, tokens_blank blank⟩
  · have reads := readsWord_of_ne_nil empty
    exact Or.inr ⟨_, _, reads, reads.tokens_eq⟩

/-- The first token is the first word. -/
theorem tokens_eq_cons
    {words : List (List UInt8)} :
    tokens isSpace text = word :: words ↔
      ∃ rest,
        ReadsWord text word rest ∧ tokens isSpace rest = words := by
  constructor
  · intro divided
    rcases tokens_cases text with ⟨-, none⟩ | ⟨first, rest, reads, found⟩
    · rw [none] at divided
      cases divided
    · rw [found] at divided
      cases divided
      exact ⟨rest, reads, rfl⟩
  · rintro ⟨rest, reads, rfl⟩
    exact reads.tokens_eq

/-- Only white space has no tokens. -/
theorem tokens_eq_nil :
    tokens isSpace text = [] ↔ ∀ byte ∈ text, isSpace byte = true := by
  constructor
  · intro divided
    rcases tokens_cases text with ⟨blank, -⟩ | ⟨_, _, -, found⟩
    · exact blank
    · rw [found] at divided
      cases divided
  · exact tokens_blank

end Tokens

end CString
