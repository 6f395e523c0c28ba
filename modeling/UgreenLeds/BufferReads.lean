import Mathlib.Control.Monad.Writer
import Mathlib.Data.UInt

/-!
# Reading a buffer through pointers

Computations that read a buffer byte by byte and log the index of every byte they
read.  A computation that reads outside the buffer has no result.  `strlen` and
`strcmp` are computations of this kind, and both stay within the string that they
are given.
-/

namespace BufferReads

/-- An index into a buffer, with the bytes from there to the buffer's end. -/
structure Pointer where
  index : Nat
  bytes : List UInt8
  deriving DecidableEq, Repr

/-- A pointer some bytes further on. -/
def Pointer.advance
    (pointer : Pointer)
    (count : Nat) : Pointer :=
  ⟨pointer.index + count, pointer.bytes.drop count⟩

/-- A computation that logs the indices it reads, and may read outside. -/
abbrev Reading := WriterT (List Nat) Option

/-- A read outside the buffer. -/
def fault {Value : Type} : Reading Value :=
  WriterT.mk none

section Strings

/-- The loop of `strlen`. -/
def strlenFrom : Nat → List UInt8 → Reading Nat
  | _, [] =>
      fault
  | index, byte :: rest => do
      tell [index]
      if byte = 0 then
        return 0
      else
        let length ← strlenFrom (index + 1) rest
        return length + 1

/-- `strlen`. -/
def strlen (pointer : Pointer) : Reading Nat :=
  strlenFrom pointer.index pointer.bytes

/-- The loop of `strcmp` with a string of the program. -/
def equalsFrom : Nat → List UInt8 → List UInt8 → Reading Bool
  | _, [], _ =>
      fault
  | index, byte :: _, [] => do
      tell [index]
      return byte = 0
  | index, byte :: rest, expected :: word => do
      tell [index]
      if byte = expected then
        equalsFrom (index + 1) rest word
      else
        return false

/-- `strcmp` with a string of the program finds no difference. -/
def equals
    (pointer : Pointer)
    (word : List UInt8) : Reading Bool :=
  equalsFrom pointer.index pointer.bytes word

end Strings

/-- A computation ends with a value and reads nothing behind a bound. -/
def Ends
    {Value : Type}
    (reading : Reading Value)
    (bound : Nat)
    (value : Value) : Prop :=
  ∃ reads,
    reading.run = some (value, reads) ∧
      ∀ index ∈ reads, index ≤ bound

namespace Ends

variable
  {Value Next : Type}
  {reading : Reading Value}
  {bound : Nat}
  {value : Value}

/-- A computation that reads nothing ends. -/
theorem pure
    (value : Value)
    (bound : Nat) :
    Ends (Pure.pure value) bound value :=
  ⟨[], rfl, by simp⟩

/-- One computation after the other ends where both do. -/
theorem bind
    {next : Value → Reading Next}
    {result : Next}
    (first : Ends reading bound value)
    (later : Ends (next value) bound result) :
    Ends (reading >>= next) bound result := by
  obtain ⟨reads, ran, within⟩ := first
  obtain ⟨others, ranLater, withinLater⟩ := later
  refine ⟨reads ++ others, ?_, ?_⟩
  · change
      (reading.run >>= fun outcome =>
          (fun outcomeLater =>
              (outcomeLater.1, outcome.2 ++ outcomeLater.2)) <$>
            (next outcome.1).run) =
        some (result, reads ++ others)
    rw [ran]
    change
      (fun outcomeLater : Next × List Nat =>
            (outcomeLater.1, reads ++ outcomeLater.2)) <$>
          (next value).run =
        some (result, reads ++ others)
    rw [ranLater]
    rfl
  · intro index member
    rcases List.mem_append.mp member with isFirst | isLater
    · exact within index isFirst
    · exact withinLater index isLater

/-- A single read ends within a bound that it respects. -/
theorem tell
    {index : Nat}
    (within : index ≤ bound) :
    Ends (MonadWriter.tell [index] : Reading PUnit) bound ⟨⟩ :=
  ⟨[index], rfl, by simpa using within⟩

/-- A computation ends within any larger bound. -/
theorem mono
    {larger : Nat}
    (ends : Ends reading bound value)
    (within : bound ≤ larger) :
    Ends reading larger value := by
  obtain ⟨reads, ran, inside⟩ := ends
  exact ⟨reads, ran, fun index member => (inside index member).trans within⟩

end Ends

section Strings

variable
  {field : List UInt8}

/-- `strlen` reads a string and the byte that ends it. -/
theorem strlen_ends
    (noNull : ∀ byte ∈ field, byte ≠ 0)
    (index : Nat)
    (rest : List UInt8) :
    Ends (strlen ⟨index, field ++ 0 :: rest⟩) (index + field.length)
      field.length := by
  unfold strlen
  simp only
  induction field generalizing index with
  | nil =>
      exact (Ends.tell le_rfl).bind (.pure 0 _)
  | cons first field inductionHypothesis =>
      obtain ⟨notNull, others⟩ := List.forall_mem_cons.mp noNull
      have later := inductionHypothesis others (index + 1)
      rw [List.cons_append, strlenFrom, List.length_cons]
      refine (Ends.tell (by omega)).bind ?_
      rw [if_neg notNull]
      exact (later.mono (by omega)).bind (.pure _ _)

/-- `strcmp` reads a string at most up to the byte that ends it. -/
theorem equals_ends
    {word : List UInt8}
    (noNull : ∀ byte ∈ field, byte ≠ 0)
    (wordNoNull : ∀ byte ∈ word, byte ≠ 0)
    (index : Nat)
    (rest : List UInt8) :
    Ends (equals ⟨index, field ++ 0 :: rest⟩ word)
      (index + field.length) (decide (field = word)) := by
  unfold equals
  simp only
  induction field generalizing index word with
  | nil =>
      cases word with
      | nil =>
          exact (Ends.tell le_rfl).bind (.pure _ _)
      | cons expected word =>
          have differs : (0 : UInt8) ≠ expected :=
            (wordNoNull expected List.mem_cons_self).symm
          rw [List.nil_append, equalsFrom]
          refine (Ends.tell le_rfl).bind ?_
          rw [if_neg differs]
          exact .pure _ _
  | cons first field inductionHypothesis =>
      obtain ⟨notNull, others⟩ := List.forall_mem_cons.mp noNull
      cases word with
      | nil =>
          rw [List.cons_append, equalsFrom]
          refine (Ends.tell (by omega)).bind ?_
          simp only [notNull, reduceCtorEq, decide_false]
          exact .pure _ _
      | cons expected word =>
          obtain ⟨-, wordOthers⟩ := List.forall_mem_cons.mp wordNoNull
          rw [List.cons_append, equalsFrom, List.length_cons]
          refine (Ends.tell (by omega)).bind ?_
          by_cases same : first = expected
          · have later :=
              inductionHypothesis others wordOthers (index + 1)
            subst same
            rw [if_pos rfl]
            simp only [List.cons.injEq, true_and]
            exact later.mono (by omega)
          · rw [if_neg same]
            simp only [List.cons.injEq, same, false_and, decide_false]
            exact .pure _ _

end Strings

end BufferReads
