import Mathlib.Data.List.Infix
import Mathlib.Data.UInt

/-!
# Searching C strings

The two searches of the C library that return a pointer into the text: `strstr`
finds the first occurrence of a pattern, `strrchr` the last one of a byte.  The
pointer is the part of the text that starts there.
-/

namespace CString

/-- `strstr`. -/
def strstr (pattern : List UInt8) : List UInt8 → Option (List UInt8)
  | [] =>
      if pattern = [] then some [] else none
  | first :: rest =>
      if pattern.isPrefixOf (first :: rest) then
        some (first :: rest)
      else
        strstr pattern rest

/-- `strrchr`. -/
def strrchr (byte : UInt8) : List UInt8 → Option (List UInt8)
  | [] =>
      none
  | first :: rest =>
      match strrchr byte rest with
      | some found =>
          some found
      | none =>
          if first = byte then some (first :: rest) else none

section Strstr

variable
  {pattern text found : List UInt8}

/-- What is found is an occurrence, and none starts in front of it. -/
theorem strstr_eq_some
    (search : strstr pattern text = some found) :
    ∃ before,
      text = before ++ found ∧
        pattern <+: found ∧
        ∀ earlier rest,
          text = earlier ++ (pattern ++ rest) →
          before.length ≤ earlier.length := by
  induction text with
  | nil =>
      unfold strstr at search
      split at search
      · rename_i empty
        cases search
        exact ⟨[], rfl, by simp [empty], by simp⟩
      · cases search
  | cons first text inductionHypothesis =>
      unfold strstr at search
      split at search
      · rename_i occurs
        cases search
        exact
          ⟨[], rfl, List.isPrefixOf_iff_prefix.mp occurs, by simp⟩
      · rename_i differs
        obtain ⟨before, rfl, occurs, minimal⟩ :=
          inductionHypothesis search
        refine ⟨first :: before, rfl, occurs, ?_⟩
        intro earlier rest same
        cases earlier with
        | nil =>
            refine absurd (List.isPrefixOf_iff_prefix.mpr ?_) differs
            exact ⟨rest, same.symm⟩
        | cons other earlier =>
            have shorter :=
              minimal earlier rest (List.cons.inj same).2
            simpa using shorter

/-- Nothing is found exactly if there is no occurrence. -/
theorem strstr_eq_none_iff :
    strstr pattern text = none ↔
      ∀ before rest, text ≠ before ++ (pattern ++ rest) := by
  induction text with
  | nil =>
      by_cases empty : pattern = []
      · simp [strstr, empty]
      · simp [strstr, empty]
  | cons first text inductionHypothesis =>
      unfold strstr
      split
      · rename_i occurs
        obtain ⟨rest, same⟩ := List.isPrefixOf_iff_prefix.mp occurs
        simp only [reduceCtorEq, false_iff, not_forall, not_not]
        exact ⟨[], rest, same.symm⟩
      · rename_i differs
        rw [inductionHypothesis]
        constructor
        · intro absent before rest same
          cases before with
          | nil =>
              refine differs (List.isPrefixOf_iff_prefix.mpr ?_)
              exact ⟨rest, same.symm⟩
          | cons other before =>
              exact absent before rest (List.cons.inj same).2
        · intro absent before rest same
          exact absent (first :: before) rest (congrArg _ same)

end Strstr

section Strrchr

variable
  {byte : UInt8}
  {text : List UInt8}

/-- A byte that does not occur is not found. -/
theorem strrchr_of_not_mem
    (absent : byte ∉ text) :
    strrchr byte text = none := by
  induction text with
  | nil =>
      rfl
  | cons first rest inductionHypothesis =>
      rw [List.mem_cons, not_or] at absent
      obtain ⟨differs, later⟩ := absent
      rw [strrchr, inductionHypothesis later]
      simp only
      rw [if_neg (Ne.symm differs)]

/-- The last occurrence of a byte is found. -/
theorem strrchr_append_cons
    (before : List UInt8)
    (absent : byte ∉ text) :
    strrchr byte (before ++ byte :: text) = some (byte :: text) := by
  induction before with
  | nil =>
      rw [List.nil_append, strrchr, strrchr_of_not_mem absent]
      simp
  | cons first before inductionHypothesis =>
      rw [List.cons_append, strrchr, inductionHypothesis]

end Strrchr

end CString
