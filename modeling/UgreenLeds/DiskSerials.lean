import UgreenLeds.ConfigFile
import UgreenLeds.TextWords

/-!
# The bays of listed serial numbers

The model of `read_udev_serial` and `serial_slot` of `disk_led.c`.  The setting
for the serial numbers is a list between delimiters, the record of a device has a
line with its serial number, and a disk is in the bay whose entry is its serial
number.  What opening the record results in is an argument; its path always fits
the buffer.
-/

namespace UgreenLeds

section Model

/-- The prefix that `read_udev_serial` looks for. -/
def udevSerialPrefix : List UInt8 :=
  ascii "E:ID_SERIAL_SHORT="

/-- `read_udev_serial`. -/
def readUdevSerial
    (record : Except Errno FileContents)
    (length : Nat) : Except Errno (List UInt8) :=
  match record with
  | .error error =>
      .error error
  | .ok contents =>
      match (getlines contents.bytes).find?
          fun line => udevSerialPrefix.isPrefixOf line with
      | none =>
          .error .enoent
      | some line =>
          let value :=
            (CString.content (line.drop udevSerialPrefix.length)).takeWhile
              fun byte => byte ≠ 13 ∧ byte ≠ 10
          if length ≤ value.length then
            .error .enametoolong
          else
            .ok value

/-- `serial_slot`. -/
def serialSlot
    (slotCount : Nat)
    (diskSerials : Fin diskCount → List UInt8)
    (record : Except Errno FileContents) : Int :=
  match readUdevSerial record maxSerialLength with
  | .error _ =>
      -1
  | .ok serial =>
      match (List.finRange diskCount).find? fun slot =>
          slot.val < slotCount ∧ diskSerials slot ≠ [] ∧
            serial = diskSerials slot with
      | some slot =>
          slot.val
      | none =>
          -1

end Model

section Specification

/-- A text lists tokens between runs of blanks, tabs and commas. -/
inductive SerialText : List (List UInt8) → List UInt8 → Prop where
  | nil
      {run : List UInt8} :
      (∀ byte ∈ run, isSerialDelimiter byte = true) →
      SerialText [] run
  | cons
      {run token rest : List UInt8}
      {tokens : List (List UInt8)} :
      (∀ byte ∈ run, isSerialDelimiter byte = true) →
      token ≠ [] →
      (∀ byte ∈ token, isSerialDelimiter byte = false) →
      (∀ byte ∈ rest.head?, isSerialDelimiter byte = true) →
      SerialText tokens rest →
      SerialText (token :: tokens) (run ++ (token ++ rest))

/-- The serial number of a record: its first line for it, up to the line's end. -/
inductive UdevSerial
    (contents : FileContents)
    (serial : List UInt8) : Prop where
  | intro
      {before after : List (List UInt8)}
      {ending : List UInt8} :
      getlines contents.bytes =
        before ++ (udevSerialPrefix ++ (serial ++ ending)) :: after →
      (∀ line ∈ before, ¬ udevSerialPrefix <+: line) →
      (∀ byte ∈ serial, byte ≠ 0 ∧ byte ≠ 13 ∧ byte ≠ 10) →
      (∀ byte ∈ ending.head?, byte = 0 ∨ byte = 13 ∨ byte = 10) →
      UdevSerial contents serial

/-- The bay of a disk is the position of its serial number in the list. -/
structure Inverts
    (tokens : List (List UInt8))
    (diskSerials : Fin diskCount → List UInt8) : Prop where
  listed :
    ∀ slotCount contents (index : Nat) serial,
      tokens[index]? = some serial →
      UdevSerial contents serial →
      serialSlot slotCount diskSerials (.ok contents) =
        if index < slotCount then (index : Int) else -1
  unlisted :
    ∀ slotCount contents serial,
      serial ∉ tokens →
      UdevSerial contents serial →
      serialSlot slotCount diskSerials (.ok contents) = -1
  withoutSerial :
    ∀ slotCount contents,
      (∀ line ∈ getlines contents.bytes, ¬ udevSerialPrefix <+: line) →
      serialSlot slotCount diskSerials (.ok contents) = -1
  withoutRecord :
    ∀ slotCount error,
      serialSlot slotCount diskSerials (.error error) = -1

end Specification

section List

variable
  {tokens : List (List UInt8)}
  {text : List UInt8}

/-- The tokens of a text are those it lists. -/
theorem SerialText.tokens_eq (spelled : SerialText tokens text) :
    CString.tokens isSerialDelimiter text = tokens := by
  induction spelled with
  | nil run =>
      exact CString.tokens_blank run
  | cons run nonempty visible ends _ inductionHypothesis =>
      rw [CString.tokens_append_of_blank run,
        CString.tokens_append_of_word nonempty visible ends,
        inductionHypothesis]

/-- The tokens of a text are not empty. -/
theorem SerialText.ne_nil (spelled : SerialText tokens text) :
    ∀ token ∈ tokens, token ≠ [] := by
  induction spelled with
  | nil =>
      simp
  | cons _ nonempty _ _ _ inductionHypothesis =>
      exact List.forall_mem_cons.mpr ⟨nonempty, inductionHypothesis⟩

/-- Short tokens that fit are stored one after the other. -/
theorem fillSerials_eq
    (serials : Fin diskCount → List UInt8)
    (slot : Nat)
    (fits : slot + tokens.length ≤ diskCount)
    (short : ∀ token ∈ tokens, token.length < maxSerialLength) :
    fillSerials serials slot tokens =
      (.ok (), fun index =>
        if slot ≤ index.val then
          tokens[index.val - slot]?.getD (serials index)
        else
          serials index) := by
  induction tokens generalizing serials slot with
  | nil =>
      simp [fillSerials]
  | cons token rest inductionHypothesis =>
      rw [List.length_cons] at fits
      have inside : slot < diskCount := by
        omega
      obtain ⟨first, others⟩ := List.forall_mem_cons.mp short
      rw [fillSerials, dif_pos inside, if_neg (not_le.mpr first),
        inductionHypothesis _ (slot + 1) (by omega) others]
      congr 1
      funext index
      rcases lt_trichotomy index.val slot with before | same | behind
      · have other : index ≠ ⟨slot, inside⟩ := by
          rintro rfl
          exact absurd before (lt_irrefl slot)
        rw [if_neg (by omega), if_neg (by omega),
          Function.update_of_ne other]
      · obtain rfl : index = ⟨slot, inside⟩ := Fin.ext same
        simp
      · have other : index ≠ ⟨slot, inside⟩ := by
          rintro rfl
          exact absurd behind (lt_irrefl slot)
        obtain ⟨distance, far⟩ :
            ∃ distance, index.val - slot = distance + 1 :=
          ⟨index.val - (slot + 1), by omega⟩
        have next : index.val - (slot + 1) = distance := by
          omega
        rw [if_pos (by omega), if_pos (by omega),
          Function.update_of_ne other, far, next,
          List.getElem?_cons_succ]

/-- Too many tokens, or one that is too long, are rejected. -/
theorem fillSerials_rejected
    (serials : Fin diskCount → List UInt8)
    (slot : Nat)
    (rejected :
      diskCount < slot + tokens.length ∨
        ∃ token ∈ tokens, maxSerialLength ≤ token.length)
    (started : slot ≤ diskCount) :
    (fillSerials serials slot tokens).1 = .error .e2big := by
  induction tokens generalizing serials slot with
  | nil =>
      rcases rejected with many | ⟨token, member, -⟩
      · exact absurd many (not_lt.mpr started)
      · cases member
  | cons token rest inductionHypothesis =>
      rw [fillSerials]
      split
      · rename_i fits
        split
        · rfl
        · rename_i short
          refine inductionHypothesis _ (slot + 1) ?_ fits
          rcases rejected with many | ⟨other, member, long⟩
          · left
            rw [List.length_cons] at many
            omega
          · right
            rcases List.mem_cons.mp member with rfl | later
            · exact absurd long short
            · exact ⟨other, later, long⟩
      · rfl

end List

section Record

variable
  {contents : FileContents}
  {serial : List UInt8}

/-- The serial number of a record is read, unless it does not fit. -/
theorem UdevSerial.readUdevSerial_eq
    (recorded : UdevSerial contents serial)
    (length : Nat) :
    readUdevSerial (.ok contents) length =
      if length ≤ serial.length then
        .error .enametoolong
      else
        .ok serial := by
  obtain ⟨lines, others, inside, ended⟩ := recorded
  rename_i before after ending
  have found :
      (getlines contents.bytes).find?
          (fun line => udevSerialPrefix.isPrefixOf line) =
        some (udevSerialPrefix ++ (serial ++ ending)) := by
    rw [lines, List.find?_append, List.find?_eq_none.mpr ?_]
    · rw [Option.none_or, List.find?_cons_of_pos]
      exact List.isPrefixOf_iff_prefix.mpr (List.prefix_append _ _)
    · intro line member
      rw [List.isPrefixOf_iff_prefix]
      exact others line member
  have value :
      ((CString.content (serial ++ ending)).takeWhile
          fun byte => byte ≠ 13 ∧ byte ≠ 10) =
        serial := by
    unfold CString.content
    rw [List.takeWhile_append_of_pos, List.takeWhile_append_of_pos]
    · cases ending with
      | nil =>
          simp
      | cons first rest =>
          rcases ended first rfl with rfl | rfl | rfl <;> simp
    · intro byte member
      simpa using (inside byte member).2
    · intro byte member
      simpa using (inside byte member).1
  unfold readUdevSerial
  simp only [found, List.drop_left, value]

/-- Without a line for the serial number there is none. -/
theorem readUdevSerial_of_without
    (without :
      ∀ line ∈ getlines contents.bytes, ¬ udevSerialPrefix <+: line)
    (length : Nat) :
    readUdevSerial (.ok contents) length = .error .enoent := by
  have none :
      (getlines contents.bytes).find?
          (fun line => udevSerialPrefix.isPrefixOf line) =
        none := by
    rw [List.find?_eq_none]
    intro line member
    rw [List.isPrefixOf_iff_prefix]
    exact without line member
  unfold readUdevSerial
  simp only [none]

end Record

section Slots

variable
  {tokens : List (List UInt8)}
  {serial : List UInt8}

/-- The entries of the table are the tokens, in order. -/
def entries
    (tokens : List (List UInt8))
    (slot : Fin diskCount) : List UInt8 :=
  tokens[slot.val]?.getD []

/-- A bay matches where the list has the serial number. -/
theorem getElem?_eq_of_match
    {slot : Fin diskCount}
    (occupied : entries tokens slot ≠ [])
    (same : serial = entries tokens slot) :
    tokens[slot.val]? = some serial := by
  unfold entries at occupied same
  cases found : tokens[slot.val]? with
  | none =>
      rw [found] at occupied
      exact absurd rfl occupied
  | some token =>
      rw [found] at same
      exact congrArg some same.symm

/-- Nothing matches a serial number that is not listed. -/
theorem serialSlot_of_not_mem
    {slotCount : Nat}
    {record : Except Errno FileContents}
    (unlisted :
      ∀ read,
        readUdevSerial record maxSerialLength = .ok read →
        read ∉ tokens) :
    serialSlot slotCount (entries tokens) record = -1 := by
  unfold serialSlot
  cases read : readUdevSerial record maxSerialLength with
  | error error =>
      rfl
  | ok serial =>
      have none :
          ((List.finRange diskCount).find? fun slot =>
              slot.val < slotCount ∧ entries tokens slot ≠ [] ∧
                serial = entries tokens slot) =
            none := by
        rw [List.find?_eq_none]
        intro slot _ found
        obtain ⟨-, occupied, same⟩ := of_decide_eq_true found
        exact
          unlisted serial read
            (List.mem_of_getElem? (getElem?_eq_of_match occupied same))
      simp only [none]

/-- The bay of a listed serial number is its position. -/
theorem serialSlot_of_getElem?
    {slotCount index : Nat}
    {record : Except Errno FileContents}
    (distinct : tokens.Nodup)
    (few : tokens.length ≤ diskCount)
    (nonempty : serial ≠ [])
    (listed : tokens[index]? = some serial)
    (read : readUdevSerial record maxSerialLength = .ok serial) :
    serialSlot slotCount (entries tokens) record =
      if index < slotCount then (index : Int) else -1 := by
  have inList : index < tokens.length :=
    (List.getElem?_eq_some_iff.mp listed).1
  have position :
      ∀ slot : Fin diskCount,
        entries tokens slot ≠ [] →
        serial = entries tokens slot →
        slot.val = index := by
    intro slot occupied same
    have again := getElem?_eq_of_match occupied same
    have inList : slot.val < tokens.length :=
      (List.getElem?_eq_some_iff.mp again).1
    exact
      (List.getElem?_inj inList distinct).mp (again.trans listed.symm)
  have entry : entries tokens ⟨index, by omega⟩ = serial := by
    simp [entries, listed]
  unfold serialSlot
  rw [read]
  simp only
  split
  · rename_i slot found
    have holds := List.find?_some found
    obtain ⟨inside, occupied, same⟩ := of_decide_eq_true holds
    obtain rfl := position slot occupied same
    rw [if_pos inside]
  · rename_i none
    rw [if_neg]
    intro inside
    refine
      List.find?_eq_none.mp none ⟨index, by omega⟩
        (List.mem_finRange _) ?_
    rw [entry]
    simp [inside, nonempty]

end Slots

/-- A list of short serial numbers that fits is stored. -/
theorem parseSerials_eq
    {tokens : List (List UInt8)}
    {text : List UInt8}
    (spelled : SerialText tokens text)
    (few : tokens.length ≤ diskCount)
    (short : ∀ token ∈ tokens, token.length < maxSerialLength)
    (config : ConfigData) :
    parseSerials text config =
      (.ok (), { config with diskSerials := entries tokens }) := by
  have filled :
      fillSerials (fun _ => []) 0 tokens =
        (.ok (), entries tokens) := by
    rw [fillSerials_eq _ 0 (by omega) short]
    rfl
  unfold parseSerials
  rw [spelled.tokens_eq, filled]

/--
A list of serial numbers that is accepted maps every disk with a listed serial
number to its position, and no other disk; a list that does not fit is rejected.
-/
theorem parseSerials_inverts
    {tokens : List (List UInt8)}
    {text : List UInt8}
    (spelled : SerialText tokens text) :
    (tokens.length ≤ diskCount →
      (∀ token ∈ tokens, token.length < maxSerialLength) →
      tokens.Nodup →
      ∀ config,
        ∃ diskSerials,
          parseSerials text config =
              (.ok (), { config with diskSerials }) ∧
            Inverts tokens diskSerials) ∧
    (diskCount < tokens.length ∨
        (∃ token ∈ tokens, maxSerialLength ≤ token.length) →
      ∀ config,
        ∃ error changed,
          parseSerials text config = (.error error, changed)) := by
  constructor
  · intro few short distinct config
    refine
      ⟨entries tokens, parseSerials_eq spelled few short config,
        ?_, ?_, ?_, ?_⟩
    · intro slotCount contents index serial listed recorded
      have member := List.mem_of_getElem? listed
      have read := recorded.readUdevSerial_eq maxSerialLength
      rw [if_neg (not_le.mpr (short serial member))] at read
      exact
        serialSlot_of_getElem? distinct few
          (spelled.ne_nil serial member) listed read
    · intro slotCount contents serial unlisted recorded
      apply serialSlot_of_not_mem
      intro read isRead
      rw [recorded.readUdevSerial_eq] at isRead
      split at isRead
      · cases isRead
      · cases isRead
        exact unlisted
    · intro slotCount contents without
      apply serialSlot_of_not_mem
      intro read isRead
      rw [readUdevSerial_of_without without] at isRead
      cases isRead
    · intro slotCount error
      rfl
  · intro rejected config
    have error :=
      fillSerials_rejected (fun _ => []) 0
        (by simpa using rejected) (Nat.zero_le _)
    unfold parseSerials
    rw [spelled.tokens_eq]
    generalize fillSerials (fun _ => []) 0 tokens = filled at error ⊢
    obtain ⟨status, serials⟩ := filled
    exact ⟨_, _, congrArg (·, _) error⟩

/-- Two serial numbers between delimiters of different kinds. -/
theorem parseSerials_inverts_pair :
    ∃ diskSerials,
      parseSerials (ascii " WD-1,\tST-2") .defaults =
          (.ok (), { ConfigData.defaults with diskSerials }) ∧
        Inverts [ascii "WD-1", ascii "ST-2"] diskSerials := by
  have last : SerialText [ascii "ST-2"] (ascii ",\tST-2") :=
    @SerialText.cons (ascii ",\t") (ascii "ST-2") [] []
      (CString.forall_mem_of_all (by decide)) (by decide)
      (CString.forall_mem_of_all (by decide)) (by simp) (.nil (by simp))
  have spelled :
      SerialText [ascii "WD-1", ascii "ST-2"] (ascii " WD-1,\tST-2") :=
    @SerialText.cons (ascii " ") (ascii "WD-1") (ascii ",\tST-2")
      [ascii "ST-2"]
      (CString.forall_mem_of_all (by decide)) (by decide)
      (CString.forall_mem_of_all (by decide))
      (CString.forall_mem_head?_of_all (by decide)) last
  have short :
      ∀ token ∈ [ascii "WD-1", ascii "ST-2"],
        token.length < maxSerialLength :=
    List.forall_mem_cons.mpr
      ⟨by decide, List.forall_mem_singleton.mpr (by decide)⟩
  exact
    (parseSerials_inverts spelled).1 (by decide) short (by decide)
      .defaults

/-- The first line of a record for the serial number has it to its newline. -/
inductive LineSerial
    (contents : FileContents)
    (serial : List UInt8) : Prop where
  | intro
      {before after : List (List UInt8)}
      {ending : List UInt8} :
      getlines contents.bytes =
        before ++ (udevSerialPrefix ++ (serial ++ ending)) :: after →
      (∀ line ∈ before, ¬ udevSerialPrefix <+: line) →
      10 ∉ serial →
      ending = [] ∨ ending = [10] →
      LineSerial contents serial

/-- A serial number with a carriage return is cut off to another one. -/
theorem lineSerial_carriageReturn :
    ¬ ∀ tokens text config diskSerials slotCount contents (index : Nat)
        serial,
      SerialText tokens text →
      tokens.length ≤ diskCount →
      (∀ token ∈ tokens, token.length < maxSerialLength) →
      tokens.Nodup →
      parseSerials text config =
        (.ok (), { config with diskSerials }) →
      tokens[index]? = some serial →
      LineSerial contents serial →
      serialSlot slotCount diskSerials (.ok contents) =
        if index < slotCount then (index : Int) else -1 := by
  intro claimed
  have last : SerialText [ascii "A\rB"] (ascii ",A\rB") :=
    @SerialText.cons (ascii ",") (ascii "A\rB") [] []
      (CString.forall_mem_of_all (by decide)) (by decide)
      (CString.forall_mem_of_all (by decide)) (by simp) (.nil (by simp))
  have spelled :
      SerialText [ascii "A", ascii "A\rB"] (ascii "A,A\rB") :=
    @SerialText.cons [] (ascii "A") (ascii ",A\rB") [ascii "A\rB"]
      (by simp) (by decide)
      (CString.forall_mem_of_all (by decide))
      (CString.forall_mem_head?_of_all (by decide)) last
  have short :
      ∀ token ∈ [ascii "A", ascii "A\rB"],
        token.length < maxSerialLength :=
    List.forall_mem_cons.mpr
      ⟨by decide, List.forall_mem_singleton.mpr (by decide)⟩
  have recorded :
      LineSerial ⟨ascii "E:ID_SERIAL_SHORT=A\rB\n", none⟩
        (ascii "A\rB") :=
    @LineSerial.intro _ _ [] [] [10] rfl (by simp) (by decide)
      (Or.inr rfl)
  have second :=
    claimed _ _ .defaults
      (entries [ascii "A", ascii "A\rB"]) 2 _ 1 _ spelled (by decide)
      short (by decide)
      (parseSerials_eq spelled (by decide) short .defaults) rfl recorded
  revert second
  decide

end UgreenLeds
