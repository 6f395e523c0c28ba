import UgreenLeds.BufferReads
import UgreenLeds.CString
import UgreenLeds.DiskUevent

/-!
# Looking for a block event in the buffer

The model of `is_block_uevent` on the buffer it is given, with pointers and the
string functions of the C library.  The datagram is arbitrary, a null byte is
stored behind it, and what follows in the buffer is arbitrary as well.  The loop
ends, reads nothing behind the null byte, and finds what the fields in front of
the first empty field say.
-/

namespace UgreenLeds

namespace UeventScan

open BufferReads (Pointer Reading Ends)
open DiskLeds (ueventFields)

section Model

/-- The comparisons with the actions, up to the first that succeeds. -/
def anyEqual (field : Pointer) : List (List UInt8) → Reading Bool
  | [] =>
      return false
  | word :: words => do
      if ← BufferReads.equals field word then
        return true
      else
        anyEqual field words

/-- The actions that are relevant. -/
def relevantActions : List (List UInt8) :=
  [ascii "ACTION=add", ascii "ACTION=remove", ascii "ACTION=change"]

/-- The loop of `is_block_uevent`. -/
def scanFields
    (stop : Nat)
    (block relevantAction : Bool)
    (field : Pointer) : Reading Bool :=
  if field.index < stop then
    match present : field.bytes with
    | [] =>
        BufferReads.fault
    | first :: rest => do
        tell [field.index]
        if first = 0 then
          return block && relevantAction
        else
          let isBlock ←
            BufferReads.equals field (ascii "SUBSYSTEM=block")
          let isRelevant ← anyEqual field relevantActions
          let length ← BufferReads.strlen field
          scanFields stop (block || isBlock)
            (relevantAction || isRelevant) (field.advance (length + 1))
  else
    return block && relevantAction
  termination_by field.bytes.length
  decreasing_by
    rw [Pointer.advance, List.length_drop, present, List.length_cons]
    omega

/-- `is_block_uevent`. -/
def isBlockUevent
    (buffer : List UInt8)
    (length : Nat) : Reading Bool :=
  scanFields length false false ⟨0, buffer⟩

end Model

section Fields

variable
  {field : List UInt8}

/-- A datagram without a null byte has one field. -/
theorem ueventFields_of_unterminated
    (noNull : ∀ byte ∈ field, byte ≠ 0)
    (nonempty : field ≠ []) :
    ueventFields field = [field] := by
  have whole : field.splitOn 0 = [field] := by
    apply List.splitOnP_eq_singleton
    intro byte member
    simpa using noNull byte member
  rw [ueventFields, whole]
  simp [nonempty]

/-- A null byte ends the first field. -/
theorem ueventFields_append_null
    (noNull : ∀ byte ∈ field, byte ≠ 0)
    (nonempty : field ≠ [])
    (rest : List UInt8) :
    ueventFields (field ++ 0 :: rest) = field :: ueventFields rest := by
  have split :
      (field ++ 0 :: rest).splitOn 0 = field :: rest.splitOn 0 := by
    apply List.splitOnP_append_cons_of_forall_mem
    · intro byte member
      simpa using noNull byte member
    · rfl
  rw [ueventFields, split,
    List.takeWhile_cons_of_pos (by simpa using nonempty)]
  rfl

/-- No field is in front of an empty one. -/
theorem ueventFields_null (rest : List UInt8) :
    ueventFields (0 :: rest) = [] := by
  have split : (0 :: rest).splitOn 0 = [] :: rest.splitOn 0 := by
    simp [List.splitOn, List.splitOnP_cons_eq_if_modifyHead]
  rw [ueventFields, split]
  rfl

end Fields

section Scan

variable
  {field : List UInt8}

/-- The comparisons stay within the field. -/
theorem anyEqual_ends
    (noNull : ∀ byte ∈ field, byte ≠ 0)
    {words : List (List UInt8)}
    (wordsNoNull : ∀ word ∈ words, ∀ byte ∈ word, byte ≠ 0)
    (index : Nat)
    (rest : List UInt8) :
    Ends (anyEqual ⟨index, field ++ 0 :: rest⟩ words)
      (index + field.length) (words.contains field) := by
  induction words with
  | nil =>
      exact .pure false _
  | cons word words inductionHypothesis =>
      obtain ⟨first, others⟩ := List.forall_mem_cons.mp wordsNoNull
      rw [anyEqual]
      refine (BufferReads.equals_ends noNull first index rest).bind ?_
      by_cases same : field = word
      · simp only [same, decide_true, ↓reduceIte, List.contains_cons,
          BEq.rfl, Bool.true_or]
        exact .pure true _
      · simp only [same, decide_false, Bool.false_eq_true, ↓reduceIte,
          List.contains_cons, beq_eq_false_iff_ne.mpr same,
          Bool.false_or]
        exact inductionHypothesis others

/-- The words of the comparisons contain no null byte. -/
theorem relevantActions_noNull :
    ∀ word ∈ relevantActions, ∀ byte ∈ word, byte ≠ 0 := by
  intro word member
  rw [relevantActions] at member
  simp only [List.mem_cons, List.not_mem_nil, or_false] at member
  rcases member with rfl | rfl | rfl <;>
    exact CString.forall_mem_of_all (by decide)

/-- Behind the datagram the loop ends. -/
theorem scanFields_of_le
    {stop index : Nat}
    (behind : stop ≤ index)
    (block relevantAction : Bool)
    (bytes : List UInt8) :
    scanFields stop block relevantAction ⟨index, bytes⟩ =
      pure (block && relevantAction) := by
  rw [scanFields, if_neg (not_lt.mpr behind)]

/-- At an empty field the loop ends. -/
theorem scanFields_null
    {stop index : Nat}
    (inside : index < stop)
    (block relevantAction : Bool)
    (bytes : List UInt8) :
    Ends (scanFields stop block relevantAction ⟨index, 0 :: bytes⟩) stop
      (block && relevantAction) := by
  rw [scanFields, if_pos inside]
  refine (Ends.tell inside.le).bind ?_
  rw [if_pos rfl]
  exact .pure _ _

/-- One pass of the loop looks at the field up to the null byte behind it. -/
theorem scanFields_field
    {stop index : Nat}
    (noNull : ∀ byte ∈ field, byte ≠ 0)
    (nonempty : field ≠ [])
    (inside : index + field.length ≤ stop)
    {block relevantAction result : Bool}
    {rest : List UInt8}
    (later :
      Ends
        (scanFields stop
          (block || decide (field = ascii "SUBSYSTEM=block"))
          (relevantAction || relevantActions.contains field)
          ⟨index + (field.length + 1), rest⟩)
        stop result) :
    Ends
      (scanFields stop block relevantAction
        ⟨index, field ++ 0 :: rest⟩)
      stop result := by
  have blockNoNull : ∀ byte ∈ ascii "SUBSYSTEM=block", byte ≠ 0 :=
    CString.forall_mem_of_all (by decide)
  have subsystem :=
    BufferReads.equals_ends noNull blockNoNull index rest
  have actions := anyEqual_ends noNull relevantActions_noNull index rest
  have measured := BufferReads.strlen_ends noNull index rest
  have dropped :
      (field ++ 0 :: rest).drop (field.length + 1) = rest := by
    rw [List.drop_append]
    simp
  cases field with
  | nil =>
      exact absurd rfl nonempty
  | cons first field =>
      have notNull := noNull first List.mem_cons_self
      have started : index < stop := by
        rw [List.length_cons] at inside
        omega
      rw [scanFields, if_pos started]
      refine (Ends.tell started.le).bind ?_
      rw [if_neg notNull]
      refine (subsystem.mono inside).bind ?_
      refine (actions.mono inside).bind ?_
      refine (measured.mono inside).bind ?_
      rw [Pointer.advance, dropped]
      exact later

/-- The rest of a datagram is its first field, and what follows it. -/
theorem exists_field (remaining : List UInt8) :
    ∃ field tail,
      remaining = field ++ tail ∧
        (∀ byte ∈ field, byte ≠ 0) ∧
        (tail = [] ∨ ∃ rest, tail = 0 :: rest) := by
  refine
    ⟨remaining.takeWhile (· ≠ 0), remaining.dropWhile (· ≠ 0),
      List.takeWhile_append_dropWhile.symm, ?_, ?_⟩
  · intro byte member
    simpa using List.mem_takeWhile_imp member
  · cases dropped : remaining.dropWhile (· ≠ 0) with
    | nil =>
        exact Or.inl rfl
    | cons first rest =>
        have stops := List.head?_dropWhile_not (· ≠ 0) remaining
        rw [dropped] at stops
        obtain rfl : first = 0 := by
          simpa using stops
        exact Or.inr ⟨rest, rfl⟩

/-- The loop finds what the fields of the rest of the datagram say. -/
theorem scanFields_ends
    {stop index : Nat}
    {remaining : List UInt8}
    (placed : index + remaining.length = stop)
    (block relevantAction : Bool)
    (garbage : List UInt8) :
    Ends
      (scanFields stop block relevantAction
        ⟨index, remaining ++ 0 :: garbage⟩)
      stop
      ((block ||
          (ueventFields remaining).contains (ascii "SUBSYSTEM=block")) &&
        (relevantAction ||
          (ueventFields remaining).any relevantActions.contains)) := by
  induction measure : remaining.length using Nat.strong_induction_on
    generalizing remaining index block relevantAction with
  | h length inductionHypothesis =>
      obtain ⟨field, tail, rfl, noNull, ended⟩ := exists_field remaining
      rw [List.length_append] at placed measure
      by_cases empty : field = []
      · subst empty
        rcases ended with rfl | ⟨rest, rfl⟩
        · have none : ueventFields [] = [] := rfl
          rw [scanFields_of_le (by simpa using placed.ge),
            List.append_nil, none]
          simp only [List.contains_nil, List.any_nil, Bool.or_false]
          exact .pure _ _
        · have inside : index < stop := by
            rw [← placed, List.length_cons]
            omega
          rw [List.nil_append, ueventFields_null]
          simp only [List.contains_nil, List.any_nil, Bool.or_false]
          exact scanFields_null inside _ _ _
      · have sameBlock :
            decide (field = ascii "SUBSYSTEM=block") =
              (ascii "SUBSYSTEM=block" == field) := by
          rw [Bool.beq_comm, beq_eq_decide]
        rcases ended with rfl | ⟨rest, rfl⟩
        · rw [List.append_nil,
            ueventFields_of_unterminated noNull empty]
          rw [List.length_nil] at placed
          refine scanFields_field noNull empty (by omega) ?_
          rw [scanFields_of_le (by omega)]
          simp only [List.contains_cons, List.contains_nil,
            List.any_cons, List.any_nil, Bool.or_false, sameBlock]
          exact .pure _ _
        · rw [List.append_assoc, List.cons_append,
            ueventFields_append_null noNull empty]
          rw [List.length_cons] at placed measure
          refine scanFields_field noNull empty (by omega) ?_
          simp only [List.contains_cons, List.any_cons, sameBlock,
            ← Bool.or_assoc]
          exact
            inductionHypothesis rest.length (by omega)
              (by omega) _ _ rfl

end Scan

/--
For every datagram, the loop ends, reads no byte behind the null byte that follows
the datagram, and finds a relevant event exactly if its fields say so.
-/
theorem isBlockUevent_exact
    (datagram garbage : List UInt8) :
    ∃ result reads,
      (isBlockUevent (datagram ++ 0 :: garbage) datagram.length).run =
          some (result, reads) ∧
        (∀ index ∈ reads, index ≤ datagram.length) ∧
        (result = true ↔
          ascii "SUBSYSTEM=block" ∈ ueventFields datagram ∧
            ∃ action ∈ relevantActions,
              action ∈ ueventFields datagram) ∧
        result = DiskLeds.isBlockUevent datagram := by
  obtain ⟨reads, ran, within⟩ :=
    scanFields_ends (Nat.zero_add datagram.length) false false garbage
  have actions :
      ((ueventFields datagram).any relevantActions.contains = true) ↔
        ∃ action ∈ relevantActions, action ∈ ueventFields datagram := by
    simp only [List.any_eq_true, List.contains_iff_mem]
    exact exists_congr fun action => and_comm
  have spec :
      ((ueventFields datagram).contains (ascii "SUBSYSTEM=block") &&
          (ueventFields datagram).any relevantActions.contains) = true ↔
        ascii "SUBSYSTEM=block" ∈ ueventFields datagram ∧
          ∃ action ∈ relevantActions,
            action ∈ ueventFields datagram := by
    rw [Bool.and_eq_true, List.contains_iff_mem, actions]
  refine ⟨_, reads, ran, within, spec, ?_⟩
  rw [Bool.eq_iff_iff]
  refine spec.trans ?_
  simp only [DiskLeds.isBlockUevent, relevantActions, Bool.and_eq_true,
    Bool.or_eq_true, List.contains_iff_mem, List.mem_cons,
    List.not_mem_nil, or_false, exists_eq_or_imp, exists_eq_left,
    or_assoc]

end UeventScan

end UgreenLeds
