import UgreenLeds.ConfigSettings

/-!
# The keys of the per-disk colors

A line of the configuration file should assign to the color of a bay if its key is
the documented key of that bay, and be ignored if its key is no known key at all.
The key is recognised by a format of `sscanf` that counts the number in it, but
not the bracket behind the number, and that reads any numeral the C library reads.
-/

namespace UgreenLeds

open CString (Numeral Reads)

/-- The part of the documented keys in front of the number. -/
def perDiskPrefix : List UInt8 :=
  ascii "COLOR_DISK_HEALTH_PER_DISK[disk"

/-- The documented key for the color of a bay. -/
def perDiskKey (slot : Fin diskCount) : List UInt8 :=
  perDiskPrefix ++ (ascii (toString (slot.val + 1)) ++ [93])

/-- A key the file gives a meaning other than the color of a bay. -/
def OtherKey (key : List UInt8) : Prop :=
  ∃ fileKey : FileKey,
    fileKey.Names key ∧
      ∀ slot, fileKey ≠ .colorDiskHealthPerDisk slot

/-- What a line does if the keys of the per-disk colors are matched exactly. -/
structure PerDiskExact (line : List UInt8) : Prop where
  assigned :
    ∀ (config : ConfigData) (slot : Fin diskCount) value color,
      assignment? line = some (perDiskKey slot, value) →
      parseRgb value = .ok color →
      loadLines config [line] =
        (.ok (),
          { config with
            diskColors := Function.update config.diskColors slot color
            diskColorSet :=
              Function.update config.diskColorSet slot true })
  unchanged :
    ∀ config : ConfigData,
      (∀ slot value color,
        assignment? line = some (perDiskKey slot, value) →
        parseRgb value ≠ .ok color) →
      (loadLines config [line]).2.diskColors = config.diskColors ∧
        (loadLines config [line]).2.diskColorSet = config.diskColorSet
  ignored :
    ∀ (config : ConfigData) key value,
      assignment? line = some (key, value) →
      (∀ slot, key ≠ perDiskKey slot) →
      ¬ OtherKey key →
      loadLines config [line] = (.ok (), config)

/--
A key that is no documented one, but goes on after the common part with a numeral
that `%u` takes for the number of a bay, and then with the bracket alone or with
anything but a bracket.
-/
def Misread (key : List UInt8) : Prop :=
  (∀ slot, key ≠ perDiskKey slot) ∧
    ∃ text numeral rest,
      key = perDiskPrefix ++ text ∧
        Reads text numeral rest ∧
        -2 ^ 64 < numeral.value ∧
        numeral.value < 2 ^ 64 ∧
        1 ≤ numeral.value % 2 ^ 32 ∧
        numeral.value % 2 ^ 32 ≤ diskCount ∧
        (rest = [93] ∨ rest.head? ≠ some 93)

section Keys

variable
  {key : List UInt8}
  {slot : Fin diskCount}

/-- One number is stored for a key with a numeral and no text after a bracket. -/
theorem scanPerDisk_eq_singleton
    {disk : UInt32} :
    CString.sscanf perDiskFormat key = [.unsigned disk] ↔
      ∃ text numeral rest,
        key = perDiskPrefix ++ text ∧
          Reads text numeral rest ∧
          numeral.stored = disk ∧
          (rest = [93] ∨ rest.head? ≠ some 93) := by
  rw [perDiskFormat, CString.sscanf_literals_eq_cons]
  simp only [CString.sscanf_unsigned_eq_cons,
    CString.sscanf_literal_char_eq_nil]
  constructor
  · rintro ⟨text, rfl, numeral, rest, reads, same, ended⟩
    exact ⟨text, numeral, rest, rfl, reads, same, ended⟩
  · rintro ⟨text, numeral, rest, rfl, reads, same, ended⟩
    exact ⟨text, rfl, numeral, rest, reads, same, ended⟩

/-- A slot is found where the number that is stored is its number. -/
theorem perDiskColorSlot_eq_some_iff :
    perDiskColorSlot key = some slot ↔
      ∃ disk,
        CString.sscanf perDiskFormat key = [.unsigned disk] ∧
          disk.toNat = slot.val + 1 := by
  unfold perDiskColorSlot
  constructor
  · intro found
    split at found
    · rename_i disk scanned
      split at found
      · rename_i inRange
        cases found
        exact ⟨disk, scanned, by simp only; omega⟩
      · cases found
    · cases found
  · rintro ⟨disk, scanned, number⟩
    rw [scanned]
    simp only [number]
    rw [dif_pos ⟨by omega, by omega⟩]
    rfl

/-- The documented key of a bay is recognised. -/
theorem perDiskColorSlot_perDiskKey (slot : Fin diskCount) :
    perDiskColorSlot (perDiskKey slot) = some slot := by
  revert slot
  decide

/-- Beside the documented keys, the misread ones are recognised. -/
theorem misread_iff :
    Misread key ↔
      (∀ slot, key ≠ perDiskKey slot) ∧
        ∃ slot, perDiskColorSlot key = some slot := by
  simp only [Misread, perDiskColorSlot_eq_some_iff,
    scanPerDisk_eq_singleton]
  refine and_congr_right fun _ => ?_
  constructor
  · rintro ⟨text, numeral, rest, rfl, reads, above, below, positive,
      small, ended⟩
    have stored :=
      numeral.stored_toNat (numeral.not_overlong_iff.mpr ⟨above, below⟩)
    exact
      ⟨⟨numeral.stored.toNat - 1, by omega⟩, numeral.stored,
        ⟨text, numeral, rest, rfl, reads, rfl, ended⟩,
        by simp only; omega⟩
  · rintro ⟨slot, _, ⟨text, numeral, rest, rfl, reads, rfl, ended⟩,
      number⟩
    have atMost := slot.isLt
    obtain ⟨fits, small⟩ :=
      (@Numeral.stored_le_iff numeral diskCount (by decide)).mp
        (by omega)
    have stored := numeral.stored_toNat fits
    obtain ⟨above, below⟩ := numeral.not_overlong_iff.mp fits
    exact
      ⟨text, numeral, rest, rfl, reads, above, below, by omega, small,
        ended⟩

/-- What is recognised as the key of a bay has no other meaning. -/
theorem not_otherKey
    (recognised : perDiskColorSlot key = some slot) :
    ¬ OtherKey key := by
  rintro ⟨fileKey, names, other⟩
  have found :=
    fileKey?_of_names
      (show (FileKey.colorDiskHealthPerDisk slot).Names key
        from recognised)
  rw [fileKey?_of_names names] at found
  exact other slot (Option.some.inj found)

end Keys

section Lines

variable
  {line key value : List UInt8}
  {config : ConfigData}

/-- A line with a known key does what its key does. -/
theorem loadLines_singleton
    (fileKey : FileKey)
    (assigned : assignment? line = some (key, value))
    (names : fileKey.Names key) :
    loadLines config [line] = applyKey config value fileKey := by
  have found : setting? line = some (fileKey, value) := by
    unfold setting?
    rw [assigned]
    simp only [fileKey?_of_names names]
  unfold loadLines
  rw [found]
  simp only
  generalize applyKey config value fileKey = result
  rcases result with ⟨error | done, changed⟩
  · rfl
  · rfl

/-- A line without a known key does nothing. -/
theorem loadLines_singleton_of_none
    (ignored : setting? line = none) :
    loadLines config [line] = (.ok (), config) := by
  unfold loadLines
  rw [ignored]
  rfl

/-- Storing a value keeps what storing any value keeps. -/
theorem storeParsed_keeps
    {Value Kept : Type}
    {parsed : Except Errno Value}
    {store : Value → ConfigData}
    (kept : ConfigData → Kept)
    (keeps : ∀ value, kept (store value) = kept config) :
    kept (storeParsed config parsed store).2 = kept config := by
  cases parsed with
  | error error =>
      rfl
  | ok value =>
      exact keeps value

/-- The colors of the bays in a configuration, and which of them are set. -/
def perDiskColors (config : ConfigData) :
    (Fin diskCount → Rgb) × (Fin diskCount → Bool) :=
  (config.diskColors, config.diskColorSet)

/-- The other keys of the file leave the colors of the bays alone. -/
theorem perDiskColors_applyKey
    {fileKey : FileKey}
    (other : ∀ slot, fileKey ≠ .colorDiskHealthPerDisk slot) :
    perDiskColors (applyKey config value fileKey).2 =
      perDiskColors config := by
  cases fileKey with
  | colorDiskHealthPerDisk slot =>
      exact absurd rfl (other slot)
  | netdevInterface =>
      unfold applyKey
      simp only
      split
      · rfl
      · unfold copyInterface
        simp only
        split <;> rfl
  | diskSerial =>
      rfl
  | blinkTypePower =>
      unfold applyKey parsePowerMode
      simp only
      split
      · split <;> rfl
      · split
        · rfl
        · split
          · rfl
          · split <;> rfl
      · rfl
  | _ =>
      exact storeParsed_keeps perDiskColors fun _ => rfl

/-- A line that assigns no color leaves the colors of the bays alone. -/
theorem perDiskColors_loadLines
    (noColor :
      ∀ key value slot color,
        assignment? line = some (key, value) →
        perDiskColorSlot key = some slot →
        parseRgb value ≠ .ok color) :
    perDiskColors (loadLines config [line]).2 =
      perDiskColors config := by
  cases found : setting? line with
  | none =>
      rw [loadLines_singleton_of_none found]
  | some setting =>
      obtain ⟨fileKey, value⟩ := setting
      obtain ⟨key, assigned, names⟩ :
          ∃ key,
            assignment? line = some (key, value) ∧
              fileKey.Names key := by
        unfold setting? at found
        split at found
        · cases found
        · rename_i key _ assigned
          split at found
          · cases found
          · rename_i known
            cases found
            exact ⟨key, assigned, names_of_fileKey? known⟩
      rw [loadLines_singleton fileKey assigned names]
      by_cases perDisk :
          ∃ slot, fileKey = .colorDiskHealthPerDisk slot
      · obtain ⟨slot, rfl⟩ := perDisk
        unfold applyKey
        simp only
        cases parsed : parseRgb value with
        | error error =>
            rfl
        | ok color =>
            exact absurd parsed
              (noColor key value slot color assigned names)
      · exact perDiskColors_applyKey (not_exists.mp perDisk)

end Lines

section Exactness

variable
  {line : List UInt8}

/-- A line with an undocumented key that is recognised is not ignored. -/
theorem not_perDiskExact
    {key value : List UInt8}
    {slot : Fin diskCount}
    (assigned : assignment? line = some (key, value))
    (undocumented : ∀ slot, key ≠ perDiskKey slot)
    (recognised : perDiskColorSlot key = some slot) :
    ¬ PerDiskExact line := by
  intro exact
  have ignored :=
    exact.ignored .defaults key value assigned undocumented
      (not_otherKey recognised)
  rw [loadLines_singleton (.colorDiskHealthPerDisk slot) assigned
    recognised] at ignored
  unfold applyKey at ignored
  simp only at ignored
  -- It stores a color or reports an error.
  cases parsed : parseRgb value with
  | error error =>
      rw [parsed] at ignored
      cases ignored
  | ok color =>
      rw [parsed] at ignored
      have sameSet :=
        congrArg (fun result => result.2.diskColorSet slot) ignored
      simp [storeParsed, ConfigData.defaults] at sameSet

/-- Where only documented keys are recognised, they are matched exactly. -/
theorem perDiskExact_of_documented
    (documented :
      ∀ key value slot,
        assignment? line = some (key, value) →
        perDiskColorSlot key = some slot →
        key = perDiskKey slot) :
    PerDiskExact line := by
  refine ⟨?_, ?_, ?_⟩
  · intro config slot value color assigned parsed
    rw [loadLines_singleton (.colorDiskHealthPerDisk slot) assigned
      (perDiskColorSlot_perDiskKey slot)]
    unfold applyKey
    rw [parsed]
    rfl
  · intro config noColor
    have same :
        perDiskColors (loadLines config [line]).2 =
          perDiskColors config := by
      apply perDiskColors_loadLines
      intro key value slot color assigned recognised
      obtain rfl := documented key value slot assigned recognised
      exact noColor slot value color assigned
    exact Prod.mk.inj same
  · intro config key value assigned undocumented noOther
    apply loadLines_singleton_of_none
    unfold setting?
    rw [assigned]
    simp only
    cases found : fileKey? key with
    | none =>
        rfl
    | some fileKey =>
        have names := names_of_fileKey? found
        refine absurd ⟨fileKey, names, ?_⟩ noOther
        rintro slot rfl
        exact absurd (documented key value slot assigned names)
          (undocumented slot)

/-- The keys of a line are matched exactly unless its key is misread. -/
theorem perDiskExact_iff :
    PerDiskExact line ↔
      ∀ key value,
        assignment? line = some (key, value) →
        ¬ Misread key := by
  constructor
  · intro exact key value assigned misread
    obtain ⟨undocumented, slot, recognised⟩ := misread_iff.mp misread
    exact not_perDiskExact assigned undocumented recognised exact
  · intro matched
    apply perDiskExact_of_documented
    intro key value slot assigned recognised
    by_contra different
    refine matched key value assigned
      (misread_iff.mpr ⟨?_, slot, recognised⟩)
    rintro other rfl
    rw [perDiskColorSlot_perDiskKey] at recognised
    cases recognised
    exact different rfl

/-- A key without its bracket sets the color of the third bay. -/
theorem perDiskExact_unclosed :
    ¬ PerDiskExact
      (ascii "COLOR_DISK_HEALTH_PER_DISK[disk3=255,0,0\n") :=
  @not_perDiskExact _ (ascii "COLOR_DISK_HEALTH_PER_DISK[disk3")
    (ascii "255,0,0") 2 rfl (by decide) rfl

end Exactness

end UgreenLeds
