import UgreenLeds.Decimals
import UgreenLeds.DiskLedCallbacks
import UgreenLeds.TextSearch
import Mathlib.Data.List.GetD

/-!
# The bays behind ATA ports and SCSI hosts

The model of `disk_layout.c`: which bay a disk is in, by the SCSI address at the
end of its device path or by the ATA port somewhere in its block path.  The loop
over the occurrences of `/ata` goes on behind each one that no number follows.
Both ways agree, with the hosts numbered from zero and the ports from one, and
each of them numbers the bays of the chassis.
-/

namespace UgreenLeds

open CString (Numeral Reads decimal)

section Model

/-- The format `"%u:%u:%u:%u%c"`. -/
def hctlFormat : List CString.Directive :=
  [.unsigned, .literal 58, .unsigned, .literal 58, .unsigned,
    .literal 58, .unsigned, .char]

/-- The bay of a SCSI host, where `slots` is the table of one chassis. -/
def hctlSlot
    (productName : List UInt8)
    (slotCount host : Nat) : Int :=
  if productStartsWith productName "DXP6800" then
    let slots : List Int := [4, 5, 0, 1, 2, 3]
    slots.getD host (-1)
  else if host < slotCount then
    host
  else
    -1

/-- `disk_layout_hctl_slot`. -/
def diskLayoutHctlSlot
    (productName : List UInt8)
    (slotCount : Nat)
    (devicePath : List UInt8) : Int :=
  let base :=
    match CString.strrchr 47 devicePath with
    | some found =>
        found.tail
    | none =>
        devicePath
  match CString.sscanf hctlFormat base with
  | [.unsigned host, .unsigned channel, .unsigned target,
      .unsigned lun] =>
      if channel ≠ 0 ∨ target ≠ 0 ∨ lun ≠ 0 then
        -1
      else
        hctlSlot productName slotCount host.toNat
  | _ =>
      -1

/-- The format `"/ata%u%c"`. -/
def ataFormat : List CString.Directive :=
  (ascii "/ata").map .literal ++ [.unsigned, .char]

/-- The bay of an ATA port, where `slots` is the table of one chassis. -/
def ataSlot
    (productName : List UInt8)
    (slotCount ata : Nat) : Int :=
  if productStartsWith productName "DXP6800" then
    let slots : List Int := [-1, 4, 5, 0, 1, 2, 3]
    slots.getD ata (-1)
  else if 1 ≤ ata ∧ ata ≤ slotCount then
    ata - 1
  else
    -1

/-- What is found of a pattern is no longer than the text. -/
theorem length_drop_strstr_lt
    {cursor found : List UInt8}
    (search : CString.strstr (ascii "/ata") cursor = some found) :
    (found.drop 4).length < cursor.length := by
  obtain ⟨before, rfl, occurs, -⟩ := CString.strstr_eq_some search
  have four : 4 ≤ found.length := occurs.length_le
  rw [List.length_drop, List.length_append]
  omega

/-- `disk_layout_ata_slot`, from where its cursor is. -/
def diskLayoutAtaSlot
    (productName : List UInt8)
    (slotCount : Nat)
    (cursor : List UInt8) : Int :=
  match search : CString.strstr (ascii "/ata") cursor with
  | none =>
      -1
  | some found =>
      match CString.sscanf ataFormat found with
      | .unsigned ata :: _ =>
          ataSlot productName slotCount ata.toNat
      | _ =>
          diskLayoutAtaSlot productName slotCount (found.drop 4)
  termination_by cursor.length
  decreasing_by exact length_drop_strstr_lt search

end Model

section Specification

/-- The path of a block device behind an ATA port. -/
inductive AtaPath (port : Nat) : List UInt8 → Prop where
  | intro
      {leading trailing : List UInt8} :
      (∀ before after,
        leading = before ++ (ascii "/ata" ++ after) →
        ∀ byte ∈ after.head?,
          CString.isSpace byte = false ∧
            byte ≠ 45 ∧ byte ≠ 43 ∧ CString.isDigit byte = false) →
      (∀ byte ∈ trailing.head?, CString.isDigit byte = false) →
      AtaPath port
        (leading ++ (ascii "/ata" ++ (decimal port ++ trailing)))

/-- The path of the only device behind a SCSI host. -/
inductive HctlPath (host : Nat) : List UInt8 → Prop where
  | intro
      {directory : List UInt8} :
      HctlPath host
        (directory ++ 47 :: (decimal host ++ ascii ":0:0:0"))

/-- The number of an ATA port. -/
def IsPort (port : Nat) : Prop :=
  1 ≤ port ∧ port < 2 ^ 32

/-- Both ways to find the bay of a disk agree, and number the bays. -/
structure LayoutsAgree (productName : List UInt8) : Prop where
  agree :
    ∀ port blockPath devicePath,
      IsPort port →
      AtaPath port blockPath →
      HctlPath (port - 1) devicePath →
      diskLayoutAtaSlot productName (diskLayoutSlotCount productName)
          blockPath =
        diskLayoutHctlSlot productName (diskLayoutSlotCount productName)
          devicePath
  inRange :
    ∀ port blockPath slot,
      IsPort port →
      AtaPath port blockPath →
      diskLayoutAtaSlot productName (diskLayoutSlotCount productName)
          blockPath =
        slot →
      slot = -1 ∨ 0 ≤ slot ∧ slot < diskLayoutSlotCount productName
  distinct :
    ∀ port other blockPath otherPath slot,
      IsPort port →
      IsPort other →
      AtaPath port blockPath →
      AtaPath other otherPath →
      diskLayoutAtaSlot productName (diskLayoutSlotCount productName)
          blockPath =
        slot →
      diskLayoutAtaSlot productName (diskLayoutSlotCount productName)
          otherPath =
        slot →
      slot ≠ -1 →
      port = other
  onto :
    ∀ slot < diskLayoutSlotCount productName,
      ∃ port blockPath,
        IsPort port ∧
          AtaPath port blockPath ∧
          diskLayoutAtaSlot productName
              (diskLayoutSlotCount productName) blockPath =
            slot
  unmatched :
    ∀ blockPath,
      (∀ before rest numeral after,
        blockPath = before ++ (ascii "/ata" ++ rest) →
        ¬ Reads rest numeral after) →
      diskLayoutAtaSlot productName (diskLayoutSlotCount productName)
          blockPath =
        -1

end Specification

section Search

variable
  {productName cursor rest : List UInt8}
  {slotCount : Nat}

/-- Without an occurrence the loop ends. -/
theorem diskLayoutAtaSlot_of_none
    (search : CString.strstr (ascii "/ata") cursor = none) :
    diskLayoutAtaSlot productName slotCount cursor = -1 := by
  rw [diskLayoutAtaSlot]
  split
  · rfl
  · rename_i found again
    rw [search] at again
    cases again

/-- At an occurrence with a number, the number decides. -/
theorem diskLayoutAtaSlot_of_numeral
    {numeral : Numeral}
    {after : List UInt8}
    (search :
      CString.strstr (ascii "/ata") cursor = some (ascii "/ata" ++ rest))
    (reads : Reads rest numeral after) :
    diskLayoutAtaSlot productName slotCount cursor =
      ataSlot productName slotCount numeral.stored.toNat := by
  rw [diskLayoutAtaSlot]
  split
  · rename_i again
    rw [search] at again
    cases again
  · rename_i found again
    rw [search] at again
    cases again
    rw [ataFormat, CString.sscanf_literals_append,
      CString.sscanf_unsigned, reads.numeral?_eq]

/-- Behind an occurrence without a number, the loop goes on. -/
theorem diskLayoutAtaSlot_of_no_numeral
    (search :
      CString.strstr (ascii "/ata") cursor = some (ascii "/ata" ++ rest))
    (noNumeral : CString.numeral? rest = none) :
    diskLayoutAtaSlot productName slotCount cursor =
      diskLayoutAtaSlot productName slotCount rest := by
  rw [diskLayoutAtaSlot]
  split
  · rename_i again
    rw [search] at again
    cases again
  · rename_i found again
    rw [search] at again
    cases again
    rw [ataFormat, CString.sscanf_literals_append,
      CString.sscanf_unsigned, noNumeral]
    rfl

/-- The first occurrence is where it is expected, or lies entirely before. -/
theorem strstr_leading
    (leading tail : List UInt8) :
    CString.strstr (ascii "/ata") (leading ++ (ascii "/ata" ++ tail)) =
        some (ascii "/ata" ++ tail) ∨
      ∃ before after,
        leading = before ++ (ascii "/ata" ++ after) ∧
          CString.strstr (ascii "/ata")
              (leading ++ (ascii "/ata" ++ tail)) =
            some (ascii "/ata" ++ (after ++ (ascii "/ata" ++ tail))) := by
  cases search :
      CString.strstr (ascii "/ata") (leading ++ (ascii "/ata" ++ tail)) with
  | none =>
      exact
        absurd rfl (CString.strstr_eq_none_iff.mp search leading tail)
  | some found =>
      obtain ⟨before, same, ⟨rest, rfl⟩, minimal⟩ :=
        CString.strstr_eq_some search
      have notLater := minimal leading tail rfl
      obtain ⟨after, rfl⟩ : ∃ after, leading = before ++ after := by
        have isPrefix : before <+: leading :=
          List.prefix_of_prefix_length_le ⟨_, same.symm⟩
            (List.prefix_append _ _) notLater
        obtain ⟨after, joined⟩ := isPrefix
        exact ⟨after, joined.symm⟩
      rw [List.append_assoc, List.append_cancel_left_eq] at same
      -- A slash starts the pattern only, so no two occurrences overlap.
      match after with
      | [] =>
          left
          rw [← same]
          rfl
      | [first] =>
          simp [ascii] at same
      | [first, second] =>
          simp [ascii] at same
      | [first, second, third] =>
          simp [ascii] at same
      | first :: second :: third :: fourth :: after =>
          have split :
              first :: second :: third :: fourth :: after =
                  ascii "/ata" ++ after ∧
                after ++ (ascii "/ata" ++ tail) = rest := by
            simpa [ascii, and_assoc] using same
          right
          refine ⟨before, after, ?_, ?_⟩
          · rw [split.1]
          · rw [split.2]

/-- A path that an ATA port is part of is mapped by its number. -/
theorem AtaPath.diskLayoutAtaSlot_eq
    {port : Nat}
    {blockPath : List UInt8}
    (fits : port < 2 ^ 32)
    (path : AtaPath port blockPath) :
    diskLayoutAtaSlot productName slotCount blockPath =
      ataSlot productName slotCount port := by
  obtain ⟨noNumber, stops⟩ := path
  rename_i leading trailing
  induction measure : leading.length using Nat.strong_induction_on
    generalizing leading with
  | h length inductionHypothesis =>
      rcases strstr_leading leading (decimal port ++ trailing) with
        search | ⟨before, after, rfl, search⟩
      · rw [diskLayoutAtaSlot_of_numeral search
            (CString.reads_decimal port stops),
          Numeral.stored_ofNat fits, UInt32.toNat_ofNat_of_lt' fits]
      · have noNumeral :
            CString.numeral?
                (after ++ (ascii "/ata" ++ (decimal port ++ trailing))) =
              none := by
          apply CString.numeral?_eq_none_of_head?
          cases after with
          | nil =>
              intro byte head
              cases head
              decide
          | cons first later =>
              exact noNumber before (first :: later) rfl
        rw [diskLayoutAtaSlot_of_no_numeral search noNumeral]
        refine inductionHypothesis after.length ?_ ?_ rfl
        · rw [← measure, List.length_append, List.length_append]
          have four : (ascii "/ata").length = 4 := rfl
          omega
        · rintro earlier later rfl
          refine noNumber (before ++ (ascii "/ata" ++ earlier)) later ?_
          simp only [List.append_assoc]

/-- A path without a number behind an occurrence is in no bay. -/
theorem diskLayoutAtaSlot_of_unmatched
    (unmatched :
      ∀ before rest numeral after,
        cursor = before ++ (ascii "/ata" ++ rest) →
        ¬ Reads rest numeral after) :
    diskLayoutAtaSlot productName slotCount cursor = -1 := by
  induction measure : cursor.length using Nat.strong_induction_on
    generalizing cursor with
  | h length inductionHypothesis =>
      cases search : CString.strstr (ascii "/ata") cursor with
      | none =>
          exact diskLayoutAtaSlot_of_none search
      | some found =>
          have shorter := length_drop_strstr_lt search
          obtain ⟨before, rfl, ⟨rest, rfl⟩, -⟩ :=
            CString.strstr_eq_some search
          have noNumeral : CString.numeral? rest = none :=
            CString.numeral?_eq_none.mpr fun numeral after =>
              unmatched before rest numeral after rfl
          rw [diskLayoutAtaSlot_of_no_numeral search noNumeral]
          refine inductionHypothesis rest.length ?_ ?_ rfl
          · rw [← measure]
            exact shorter
          · rintro earlier later numeral after rfl
            refine
              unmatched (before ++ (ascii "/ata" ++ earlier)) later
                numeral after ?_
            simp only [List.append_assoc]

/-- The path of a SCSI host is mapped by its number. -/
theorem HctlPath.diskLayoutHctlSlot_eq
    {host : Nat}
    {devicePath : List UInt8}
    (fits : host < 2 ^ 32)
    (path : HctlPath host devicePath) :
    diskLayoutHctlSlot productName slotCount devicePath =
      hctlSlot productName slotCount host := by
  obtain ⟨⟩ := path
  rename_i directory
  have noSlash : (47 : UInt8) ∉ decimal host ++ ascii ":0:0:0" := by
    intro member
    rcases List.mem_append.mp member with inHost | inRest
    · have digit := CString.isDigit_of_mem_decimal inHost
      cases digit
    · revert inRest
      decide
  have stops :
      ∀ byte ∈ (ascii ":0:0:0").head?, CString.isDigit byte = false := by
    intro byte head
    cases head
    rfl
  have scanned :
      CString.sscanf hctlFormat (decimal host ++ ascii ":0:0:0") =
        [.unsigned (UInt32.ofNat host), .unsigned 0, .unsigned 0,
          .unsigned 0] := by
    rw [hctlFormat, CString.sscanf_unsigned,
      (CString.reads_decimal host stops).numeral?_eq]
    simp only [Numeral.stored_ofNat fits]
    rfl
  unfold diskLayoutHctlSlot
  rw [CString.strrchr_append_cons directory noSlash]
  simp only [List.tail_cons, scanned]
  rw [if_neg (by decide), UInt32.toNat_ofNat_of_lt' fits]

end Search

section Tables

variable
  (productName : List UInt8)
  (slotCount : Nat)

/-- The tables differ by the numbering only. -/
theorem ataSlot_succ (host : Nat) :
    ataSlot productName slotCount (host + 1) =
      hctlSlot productName slotCount host := by
  unfold ataSlot hctlSlot
  split
  · simp
  · by_cases inside : host < slotCount
    · rw [if_pos (by omega), if_pos inside]
      omega
    · rw [if_neg (by omega), if_neg inside]

/-- The chassis with a table has six bays. -/
theorem diskLayoutSlotCount_of_table
    (table : productStartsWith productName "DXP6800") :
    diskLayoutSlotCount productName = 6 := by
  obtain ⟨rest, rfl⟩ := List.isPrefixOf_iff_prefix.mp table
  rfl

/-- The SCSI host of a bay. -/
def hostOfSlot (slot : Nat) : Nat :=
  if productStartsWith productName "DXP6800" then
    [2, 3, 4, 5, 0, 1].getD slot 0
  else
    slot

/-- Every bay has a host. -/
theorem hctlSlot_hostOfSlot
    {slot : Nat}
    (bay : slot < diskLayoutSlotCount productName) :
    hctlSlot productName (diskLayoutSlotCount productName)
          (hostOfSlot productName slot) =
        slot ∧
      hostOfSlot productName slot < diskLayoutSlotCount productName := by
  unfold hctlSlot hostOfSlot
  split
  · rename_i table
    rw [diskLayoutSlotCount_of_table productName table] at bay ⊢
    revert slot
    decide
  · exact ⟨rfl, bay⟩

/-- A host that is mapped to a bay is the host of this bay. -/
theorem hostOfSlot_hctlSlot
    {host : Nat}
    {slot : Int}
    (mapped :
      hctlSlot productName (diskLayoutSlotCount productName) host = slot)
    (found : slot ≠ -1) :
    0 ≤ slot ∧
      slot < diskLayoutSlotCount productName ∧
      hostOfSlot productName slot.toNat = host := by
  subst mapped
  unfold hctlSlot at found ⊢
  unfold hostOfSlot
  split at found
  · rename_i table
    rw [diskLayoutSlotCount_of_table productName table, if_pos table,
      if_pos table]
    have inTable : host < 6 := by
      by_contra outside
      exact found (List.getD_eq_default _ _ (not_lt.mp outside))
    clear found
    revert host
    decide
  · rename_i noTable
    split at found
    · rename_i inside
      rw [if_neg noTable, if_neg noTable, if_pos inside]
      omega
    · exact absurd rfl found

end Tables

section Agreement

variable
  {productName blockPath : List UInt8}
  {port : Nat}

/-- The bay of an ATA port is that of the SCSI host in front of it. -/
theorem AtaPath.mapped
    (isPort : IsPort port)
    (path : AtaPath port blockPath) :
    diskLayoutAtaSlot productName (diskLayoutSlotCount productName)
        blockPath =
      hctlSlot productName (diskLayoutSlotCount productName)
        (port - 1) := by
  obtain ⟨positive, fits⟩ := isPort
  rw [path.diskLayoutAtaSlot_eq fits, ← ataSlot_succ,
    Nat.sub_add_cancel positive]

/-- Every ATA port has a path. -/
theorem exists_ataPath (port : Nat) :
    ∃ blockPath, AtaPath port blockPath := by
  have noOccurrence :
      ∀ before after,
        ([] : List UInt8) = before ++ (ascii "/ata" ++ after) →
        ∀ byte ∈ after.head?,
          CString.isSpace byte = false ∧
            byte ≠ 45 ∧ byte ≠ 43 ∧ CString.isDigit byte = false := by
    intro before after same
    simp [ascii] at same
  exact ⟨_, @AtaPath.intro port [] [] noOccurrence (by simp)⟩

/-- On every chassis both mappings agree, and number the bays. -/
theorem layoutsAgree (productName : List UInt8) :
    LayoutsAgree productName := by
  refine ⟨?_, ?_, ?_, ?_, ?_⟩
  · intro port blockPath devicePath isPort path devicePathOf
    have fits : port - 1 < 2 ^ 32 :=
      (Nat.sub_le port 1).trans_lt isPort.2
    rw [path.mapped isPort, devicePathOf.diskLayoutHctlSlot_eq fits]
  · rintro port blockPath slot isPort path rfl
    rw [path.mapped isPort]
    by_cases found :
        hctlSlot productName (diskLayoutSlotCount productName)
            (port - 1) =
          -1
    · exact Or.inl found
    · obtain ⟨natural, inside, -⟩ :=
        hostOfSlot_hctlSlot productName rfl found
      exact Or.inr ⟨natural, inside⟩
  · intro port other blockPath otherPath slot isPort isOther path
      pathOfOther same sameOther found
    rw [path.mapped isPort] at same
    rw [pathOfOther.mapped isOther] at sameOther
    obtain ⟨-, -, host⟩ := hostOfSlot_hctlSlot productName same found
    obtain ⟨-, -, hostOfOther⟩ :=
      hostOfSlot_hctlSlot productName sameOther found
    obtain ⟨positive, -⟩ := isPort
    obtain ⟨positiveOther, -⟩ := isOther
    omega
  · intro slot bay
    obtain ⟨ofHost, small⟩ := hctlSlot_hostOfSlot productName bay
    have few : diskLayoutSlotCount productName ≤ 8 :=
      diskLayoutSlotCount_le productName
    have isPort : IsPort (hostOfSlot productName slot + 1) :=
      ⟨by omega, by omega⟩
    obtain ⟨blockPath, path⟩ :=
      exists_ataPath (hostOfSlot productName slot + 1)
    exact
      ⟨_, blockPath, isPort, path, (path.mapped isPort).trans ofHost⟩
  · intro blockPath unmatched
    exact diskLayoutAtaSlot_of_unmatched unmatched

end Agreement

end UgreenLeds
