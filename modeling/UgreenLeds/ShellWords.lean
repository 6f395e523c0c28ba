import UgreenLeds.CString

/-!
# Words of the shell

An expansion outside quotes is split into words at blanks, and `echo` prints
words with single blanks between them.  A text is tidy if it is what `echo`
prints of some words.  Splitting and printing a tidy text changes nothing, and
tidy texts stay tidy when they are joined with a byte that is no blank.
-/

namespace ShellWords

open CString (tokens)

/-- A byte of `IFS`. -/
def isBlank (byte : UInt8) : Bool :=
  byte = 32 || byte = 9 || byte = 10

/-- The words of an expansion outside quotes. -/
def words (text : List UInt8) : List (List UInt8) :=
  tokens isBlank text

/-- What `echo` prints of its arguments, without the newline. -/
def echo (arguments : List (List UInt8)) : List UInt8 :=
  [32].intercalate arguments

/-- A nonempty text without blanks. -/
structure IsWord (word : List UInt8) : Prop where
  nonempty : word ≠ []
  noBlank : ∀ byte ∈ word, isBlank byte = false

/-- Words with single blanks between them. -/
inductive Tidy : List UInt8 → Prop where
  | empty :
      Tidy []
  | last {word : List UInt8} :
      IsWord word →
      Tidy word
  | cons {word rest : List UInt8} :
      IsWord word →
      rest ≠ [] →
      Tidy rest →
      Tidy (word ++ 32 :: rest)

/-- No part of a split text contains a byte it was split at. -/
theorem noDelimiter_of_mem_splitOnP
    {isDelimiter : UInt8 → Bool}
    {text part : List UInt8}
    (member : part ∈ text.splitOnP isDelimiter) :
    ∀ byte ∈ part, isDelimiter byte = false := by
  induction text generalizing part with
  | nil =>
      rw [List.splitOnP_nil, List.mem_singleton] at member
      simp [member]
  | cons first rest inductionHypothesis =>
      rw [List.splitOnP_cons_eq_if_modifyHead] at member
      cases delimits : isDelimiter first with
      | true =>
          rw [if_pos delimits] at member
          rcases List.mem_cons.mp member with rfl | later
          · simp
          · exact inductionHypothesis later
      | false =>
          rw [if_neg (by simp [delimits])] at member
          cases parts : rest.splitOnP isDelimiter with
          | nil =>
              exact absurd parts (List.splitOnP_ne_nil _ _)
          | cons head others =>
              rw [parts] at member inductionHypothesis
              rcases List.mem_cons.mp member with rfl | later
              · intro byte inPart
                rcases List.mem_cons.mp inPart with rfl | inHead
                · exact delimits
                · exact
                    inductionHypothesis List.mem_cons_self byte inHead
              · exact
                  inductionHypothesis (List.mem_cons_of_mem _ later)

/-- Splitting into words gives words. -/
theorem isWord_of_mem_words
    {text word : List UInt8}
    (member : word ∈ words text) :
    IsWord word := by
  unfold words tokens at member
  rw [List.mem_filter] at member
  exact
    { nonempty := by simpa using member.2
      noBlank := noDelimiter_of_mem_splitOnP member.1 }

/-- What is printed of words is tidy. -/
theorem tidy_echo
    {arguments : List (List UInt8)}
    (allWords : ∀ word ∈ arguments, IsWord word) :
    Tidy (echo arguments) := by
  induction arguments with
  | nil =>
      exact Tidy.empty
  | cons first rest inductionHypothesis =>
      have isWord := allWords first List.mem_cons_self
      have tidy :=
        inductionHypothesis fun word member =>
          allWords word (List.mem_cons_of_mem first member)
      cases rest with
      | nil =>
          simpa [echo] using Tidy.last isWord
      | cons second rest =>
          have second_ne :=
            (allWords second (by simp)).nonempty
          have nonempty : echo (second :: rest) ≠ [] := by
            cases rest <;> simp [echo, second_ne]
          simpa [echo] using Tidy.cons isWord nonempty tidy

/-- Splitting and printing a tidy text changes nothing. -/
theorem echo_words
    {text : List UInt8}
    (tidy : Tidy text) :
    echo (words text) = text := by
  induction tidy with
  | empty =>
      rfl
  | last isWord =>
      unfold words tokens
      rw [List.splitOnP_eq_singleton isWord.noBlank]
      simp [echo, isWord.nonempty]
  | @cons word rest isWord nonempty _ inductionHypothesis =>
      have divided :
          words (word ++ 32 :: rest) = word :: words rest := by
        unfold words tokens
        rw [List.splitOnP_append_cons_of_forall_mem isWord.noBlank _
          rfl]
        simp [isWord.nonempty]
      rw [divided]
      cases others : words rest with
      | nil =>
          rw [others] at inductionHypothesis
          exact absurd inductionHypothesis.symm nonempty
      | cons second later =>
          rw [others] at inductionHypothesis
          rw [← inductionHypothesis]
          simp [echo]

/-- A word and a separator in front keep a text tidy. -/
theorem Tidy.prepend
    {separator : UInt8}
    (visible : isBlank separator = false)
    {word text : List UInt8}
    (noBlank : ∀ byte ∈ word, isBlank byte = false)
    (tidy : Tidy text) :
    Tidy (word ++ separator :: text) := by
  have isWord :
      ∀ rest : List UInt8,
        (∀ byte ∈ rest, isBlank byte = false) →
        IsWord (word ++ separator :: rest) := by
    intro rest restVisible
    refine ⟨by simp, ?_⟩
    intro byte member
    simp only [List.mem_append, List.mem_cons] at member
    rcases member with inWord | rfl | inRest
    · exact noBlank byte inWord
    · exact visible
    · exact restVisible byte inRest
  cases tidy with
  | empty =>
      exact Tidy.last (isWord [] (by simp))
  | last other =>
      exact Tidy.last (isWord text other.noBlank)
  | @cons first rest other nonempty later =>
      have divided :
          word ++ separator :: (first ++ 32 :: rest) =
            (word ++ separator :: first) ++ 32 :: rest := by
        simp
      rw [divided]
      exact Tidy.cons (isWord first other.noBlank) nonempty later

/-- Tidy texts stay tidy when they are joined. -/
theorem Tidy.join
    {separator : UInt8}
    (visible : isBlank separator = false)
    {first second : List UInt8}
    (tidyFirst : Tidy first)
    (tidySecond : Tidy second) :
    Tidy (first ++ separator :: second) := by
  induction tidyFirst with
  | empty =>
      exact tidySecond.prepend visible (by simp)
  | last isWord =>
      exact tidySecond.prepend visible isWord.noBlank
  | @cons word rest isWord _ _ inductionHypothesis =>
      rw [List.append_assoc, List.cons_append]
      exact Tidy.cons isWord (by simp) inductionHypothesis

/-- Tidy texts stay tidy when a separator is put between them. -/
theorem tidy_intercalate
    {separator : UInt8}
    (visible : isBlank separator = false)
    {texts : List (List UInt8)}
    (tidy : ∀ text ∈ texts, Tidy text) :
    Tidy ([separator].intercalate texts) := by
  induction texts with
  | nil =>
      exact Tidy.empty
  | cons first rest inductionHypothesis =>
      have tidyFirst := tidy first List.mem_cons_self
      have tidyRest :=
        inductionHypothesis fun text member =>
          tidy text (List.mem_cons_of_mem first member)
      cases rest with
      | nil =>
          simpa using tidyFirst
      | cons second rest =>
          simpa using tidyFirst.join visible tidyRest

end ShellWords
