import UgreenLeds.ConfigNumerals
import UgreenLeds.ConfigOptions

/-!
# The settings and what assigns to them

Every setting has one key of the file, and some have an option.  A key or an
option that is accepted leaves its settings with the value that its text
denotes, whatever was there before, and leaves every other setting alone.
-/

namespace UgreenLeds

open GetoptLong (Word)

/-- The name of a key, as documented. -/
def FileKey.Names : FileKey → List UInt8 → Prop
  | .netdevInterface, key => key = ascii "NETDEV_INTERFACE"
  | .netdevEbpfIntervalMs, key => key = ascii "NETDEV_EBPF_INTERVAL_MS"
  | .netdevEbpfPulseMs, key => key = ascii "NETDEV_EBPF_PULSE_MS"
  | .colorNetdevRx, key => key = ascii "COLOR_NETDEV_RX"
  | .colorNetdevTx, key => key = ascii "COLOR_NETDEV_TX"
  | .brightnessNetdevLed, key => key = ascii "BRIGHTNESS_NETDEV_LED"
  | .diskEbpfIntervalMs, key => key = ascii "DISK_EBPF_INTERVAL_MS"
  | .diskEbpfHoldMs, key => key = ascii "DISK_EBPF_HOLD_MS"
  | .diskEbpfPulseMs, key => key = ascii "DISK_EBPF_PULSE_MS"
  | .brightnessDiskLeds, key => key = ascii "BRIGHTNESS_DISK_LEDS"
  | .colorDiskHealth, key => key = ascii "COLOR_DISK_HEALTH"
  | .colorDiskHealthPerDisk slot, key => perDiskColorSlot key = some slot
  | .ledInvert, key => key = ascii "LED_INVERT"
  | .mappingMethod, key => key = ascii "MAPPING_METHOD"
  | .diskSerial, key => key = ascii "DISK_SERIAL"
  | .brightnessPower, key => key = ascii "BRIGHTNESS_POWER"
  | .colorPower, key => key = ascii "COLOR_POWER"
  | .blinkTypePower, key => key = ascii "BLINK_TYPE_POWER"

/-- The names that are compared before those of single disks. -/
def keysBeforeDisks : List (List UInt8 × FileKey) :=
  [(ascii "NETDEV_INTERFACE", .netdevInterface),
    (ascii "NETDEV_EBPF_INTERVAL_MS", .netdevEbpfIntervalMs),
    (ascii "NETDEV_EBPF_PULSE_MS", .netdevEbpfPulseMs),
    (ascii "COLOR_NETDEV_RX", .colorNetdevRx),
    (ascii "COLOR_NETDEV_TX", .colorNetdevTx),
    (ascii "BRIGHTNESS_NETDEV_LED", .brightnessNetdevLed),
    (ascii "DISK_EBPF_INTERVAL_MS", .diskEbpfIntervalMs),
    (ascii "DISK_EBPF_HOLD_MS", .diskEbpfHoldMs),
    (ascii "DISK_EBPF_PULSE_MS", .diskEbpfPulseMs),
    (ascii "BRIGHTNESS_DISK_LEDS", .brightnessDiskLeds),
    (ascii "COLOR_DISK_HEALTH", .colorDiskHealth)]

/-- The names that are compared after them. -/
def keysAfterDisks : List (List UInt8 × FileKey) :=
  [(ascii "LED_INVERT", .ledInvert),
    (ascii "MAPPING_METHOD", .mappingMethod),
    (ascii "DISK_SERIAL", .diskSerial),
    (ascii "BRIGHTNESS_POWER", .brightnessPower),
    (ascii "COLOR_POWER", .colorPower),
    (ascii "BLINK_TYPE_POWER", .blinkTypePower)]

/-- A comparison at the head of a chain is a row of its table. -/
theorem lookup_cons_eq_ite
    {Key Value : Type}
    [BEq Key] [LawfulBEq Key] [DecidableEq Key]
    (key name : Key)
    (value : Value)
    (table : List (Key × Value)) :
    List.lookup key ((name, value) :: table) =
      if key = name then some value else table.lookup key := by
  by_cases same : key = name
  · rw [if_pos same, same, List.lookup_cons_self]
  · rw [if_neg same, List.lookup_cons, beq_false_of_ne same]

/-- What comes after a chain belongs to its last comparison. -/
theorem or_ite
    {Value : Type}
    (condition : Prop)
    [Decidable condition]
    (value : Value)
    (rest next : Option Value) :
    (if condition then some value else rest).or next =
      if condition then some value else rest.or next := by
  split <;> rfl

/-- The chain of comparisons looks a key up, with the disks in between. -/
theorem fileKey?_eq_lookup (key : List UInt8) :
    fileKey? key =
      ((keysBeforeDisks.lookup key).or
        ((perDiskColorSlot key).map .colorDiskHealthPerDisk)).or
          (keysAfterDisks.lookup key) := by
  simp only [keysBeforeDisks, keysAfterDisks, lookup_cons_eq_ite,
    List.lookup_nil, or_ite, Option.none_or, fileKey?]
  cases perDiskColorSlot key <;> rfl

/-- Each row of the tables has the name of its key. -/
theorem names_of_mem_keys :
    ∀ row ∈ keysBeforeDisks ++ keysAfterDisks, row.2.Names row.1 := by
  simp only [keysBeforeDisks, keysAfterDisks, List.cons_append,
    List.nil_append, List.forall_mem_cons, FileKey.Names, true_and]
  exact fun _ member => by cases member

/-- No name that is compared before those of single disks is one of them. -/
theorem perDiskColorSlot_of_mem_keys :
    ∀ row ∈ keysBeforeDisks, perDiskColorSlot row.1 = none := by
  decide +kernel

/-- A key that is found carries the name of what is found. -/
theorem names_of_fileKey?
    {key : List UInt8}
    {fileKey : FileKey}
    (found : fileKey? key = some fileKey) :
    fileKey.Names key := by
  have named :
      ∀ table, table ⊆ keysBeforeDisks ++ keysAfterDisks →
        table.lookup key = some fileKey → fileKey.Names key := by
    intro table within isRow
    obtain ⟨before, after, rows, -⟩ := List.lookup_eq_some_iff.mp isRow
    have member : (key, fileKey) ∈ table := by simp [rows]
    exact names_of_mem_keys _ (within member)
  rw [fileKey?_eq_lookup, Option.or_eq_some_iff,
    Option.or_eq_some_iff] at found
  rcases found with (isBefore | ⟨-, isDisk⟩) | ⟨-, isAfter⟩
  · exact named _ (List.subset_append_left ..) isBefore
  · obtain ⟨slot, found, rfl⟩ := Option.map_eq_some_iff.mp isDisk
    exact found
  · exact named _ (List.subset_append_right ..) isAfter

/-- A name is found, so no key of the chain shadows another one. -/
theorem fileKey?_of_names
    {key : List UInt8}
    {fileKey : FileKey}
    (names : fileKey.Names key) :
    fileKey? key = some fileKey := by
  cases fileKey with
  | colorDiskHealthPerDisk slot =>
      have found : perDiskColorSlot key = some slot := names
      have notBefore : keysBeforeDisks.lookup key = none := by
        refine List.lookup_eq_none_iff.mpr fun row member => ?_
        have noDisk := perDiskColorSlot_of_mem_keys row member
        refine bne_iff_ne.mpr ?_
        rintro rfl
        rw [noDisk] at found
        cases found
      rw [fileKey?_eq_lookup, notBefore, found]
      rfl
  | _ =>
      cases names
      decide +kernel

theorem fileKey?_eq_some_iff
    {key : List UInt8}
    {fileKey : FileKey} :
    fileKey? key = some fileKey ↔ fileKey.Names key :=
  ⟨names_of_fileKey?, fileKey?_of_names⟩

instance (fileKey : FileKey) (key : List UInt8) :
    Decidable (fileKey.Names key) :=
  decidable_of_iff (fileKey? key = some fileKey) fileKey?_eq_some_iff

section Settings

/-- A setting that the file, and perhaps an option, can assign to. -/
inductive Setting where
  | networkEnabled
  | interface
  | networkInterval
  | networkPulse
  | networkRxColor
  | networkTxColor
  | networkBrightness
  | diskInterval
  | diskHold
  | diskPulse
  | diskBrightness
  | diskColor
  | diskColors (slot : Fin diskCount)
  | diskInvert
  | diskMapping
  | diskSerials
  | powerBrightness
  | powerColor
  | power
  deriving DecidableEq, Repr

/-- The power mode; its times mean something only if it is periodic. -/
inductive PowerSetting where
  | on
  | periodic (breath : Bool) (onMs offMs : UInt32)
  deriving DecidableEq, Repr

namespace Setting

/-- What kind of value a setting has. -/
abbrev Value : Setting → Type
  | .networkEnabled => Bool
  | .interface => List UInt8
  | .networkInterval => UInt32
  | .networkPulse => UInt32
  | .networkRxColor => Rgb
  | .networkTxColor => Rgb
  | .networkBrightness => UInt32
  | .diskInterval => UInt32
  | .diskHold => UInt32
  | .diskPulse => UInt32
  | .diskBrightness => UInt32
  | .diskColor => Rgb
  | .diskColors _ => Rgb × Bool
  | .diskInvert => Bool
  | .diskMapping => DiskMappingMethod
  | .diskSerials => Fin diskCount → List UInt8
  | .powerBrightness => UInt32
  | .powerColor => Rgb
  | .power => PowerSetting

/-- The value of a setting in a configuration. -/
def read (config : ConfigData) : (setting : Setting) → setting.Value
  | .networkEnabled => config.networkEnabled
  | .interface => CString.content config.interface
  | .networkInterval => config.networkIntervalMs
  | .networkPulse => config.networkPulseMs
  | .networkRxColor => config.networkRxColor
  | .networkTxColor => config.networkTxColor
  | .networkBrightness => config.networkBrightness
  | .diskInterval => config.diskIntervalMs
  | .diskHold => config.diskHoldMs
  | .diskPulse => config.diskPulseMs
  | .diskBrightness => config.diskBrightness
  | .diskColor => config.diskColor
  | .diskColors slot =>
      (config.diskColors slot, config.diskColorSet slot)
  | .diskInvert => config.diskInvert
  | .diskMapping => config.diskMapping
  | .diskSerials => config.diskSerials
  | .powerBrightness => config.powerBrightness
  | .powerColor => config.powerColor
  | .power =>
      match config.powerMode with
      | .on => .on
      | .blink => .periodic false config.powerOnMs config.powerOffMs
      | .breath => .periodic true config.powerOnMs config.powerOffMs

/-- The key of the file that assigns to a setting. -/
def fileKey : Setting → FileKey
  | .networkEnabled => .netdevInterface
  | .interface => .netdevInterface
  | .networkInterval => .netdevEbpfIntervalMs
  | .networkPulse => .netdevEbpfPulseMs
  | .networkRxColor => .colorNetdevRx
  | .networkTxColor => .colorNetdevTx
  | .networkBrightness => .brightnessNetdevLed
  | .diskInterval => .diskEbpfIntervalMs
  | .diskHold => .diskEbpfHoldMs
  | .diskPulse => .diskEbpfPulseMs
  | .diskBrightness => .brightnessDiskLeds
  | .diskColor => .colorDiskHealth
  | .diskColors slot => .colorDiskHealthPerDisk slot
  | .diskInvert => .ledInvert
  | .diskMapping => .mappingMethod
  | .diskSerials => .diskSerial
  | .powerBrightness => .brightnessPower
  | .powerColor => .colorPower
  | .power => .blinkTypePower

/-- The name of an interface, if it fits its array. -/
def interfaceDenoted (text : List UInt8) : Option (List UInt8) :=
  if (CString.content text).length < ifNameSize then
    some (CString.content text)
  else
    none

/-- The power mode a text denotes. -/
def powerDenoted (text : List UInt8) : Option PowerSetting :=
  match parsePowerMode text .defaults with
  | (.ok (), config) => some (read config .power)
  | (.error _, _) => none

/-- The serial numbers a text denotes. -/
def serialsDenoted (text : List UInt8) :
    Option (Fin diskCount → List UInt8) :=
  match parseSerials text .defaults with
  | (.ok (), config) => some config.diskSerials
  | (.error _, _) => none

/-- The value a text denotes for a setting; an empty interface disables. -/
def denoted (text : List UInt8) :
    (setting : Setting) → Option setting.Value
  | .networkEnabled => some (text ≠ [])
  | .interface => interfaceDenoted text
  | .networkInterval => (parseUnsigned text 1 1000).toOption
  | .networkPulse => (parseUnsigned text 0 1000).toOption
  | .networkRxColor => (parseRgb text).toOption
  | .networkTxColor => (parseRgb text).toOption
  | .networkBrightness => (parseUnsigned text 0 255).toOption
  | .diskInterval => (parseUnsigned text 1 1000).toOption
  | .diskHold => (parseUnsigned text 1 10000).toOption
  | .diskPulse => (parseUnsigned text 1 1000).toOption
  | .diskBrightness => (parseUnsigned text 0 255).toOption
  | .diskColor => (parseRgb text).toOption
  | .diskColors _ => (parseRgb text).toOption.map fun rgb => (rgb, true)
  | .diskInvert => (parseBoolean text).toOption
  | .diskMapping => (parseMapping text).toOption
  | .diskSerials => serialsDenoted text
  | .powerBrightness => (parseUnsigned text 0 255).toOption
  | .powerColor => (parseRgb text).toOption
  | .power => powerDenoted text

/-- Whether a line is for a setting, and the value it denotes. -/
def occursInLine
    (setting : Setting)
    (line : List UInt8) : Option (Option setting.Value) :=
  match assignment? line with
  | none =>
      none
  | some (key, value) =>
      if setting.fileKey.Names key then
        some (setting.denoted value)
      else
        none

/-- The option that assigns a text to a setting. -/
def option? : Setting → Option ConfigOption
  | .interface => some .interface
  | .networkInterval => some .interval
  | .networkPulse => some .pulse
  | .networkRxColor => some .rxColor
  | .networkTxColor => some .txColor
  | .networkBrightness => some .brightness
  | .diskInterval => some .diskInterval
  | .diskHold => some .diskHold
  | .diskPulse => some .diskPulse
  | _ => none

/-- Whether an option is for a setting, and the value it denotes. -/
def occursInOption
    (setting : Setting)
    (item : ConfigOption × Option Word) :
    Option (Option setting.Value) :=
  match setting, item.1 with
  | .networkEnabled, .interface =>
      some (some true)
  | .networkEnabled, .noNetwork =>
      some (some false)
  | setting, option =>
      if setting.option? = some option then
        some (setting.denoted (item.2.getD []))
      else
        none

end Setting

end Settings

section Writes

variable
  {config changed : ConfigData}
  {text : List UInt8}

/-- An accepted value has been parsed, and is stored. -/
theorem storeParsed_ok
    {Value : Type}
    {parsed : Except Errno Value}
    {store : Value → ConfigData}
    (stored : storeParsed config parsed store = (.ok (), changed)) :
    ∃ value, parsed.toOption = some value ∧ changed = store value := by
  cases parsed with
  | error error =>
      cases stored
  | ok value =>
      cases stored
      exact ⟨value, rfl, rfl⟩

/-- An accepted interface fits, is stored with its end, and enables. -/
theorem copyInterface_ok
    (copied : copyInterface text config = (.ok (), changed)) :
    (CString.content text).length < ifNameSize ∧
      changed =
        { config with
          interface :=
            CString.content text ++
              0 :: config.interface.drop
                ((CString.content text).length + 1)
          networkEnabled := true } := by
  unfold copyInterface at copied
  simp only at copied
  split at copied
  · cases copied
  · rename_i fits
    cases copied
    exact ⟨not_le.mp (not_or.mp fits).2, rfl⟩

/-- What an array holds after a name has been copied into it. -/
theorem content_append_zero (rest : List UInt8) :
    CString.content (CString.content text ++ 0 :: rest) =
      CString.content text := by
  unfold CString.content
  rw [List.takeWhile_append_of_pos]
  · rw [List.takeWhile_cons_of_neg (by simp), List.append_nil]
  · intro byte member
    simpa using CString.ne_zero_of_mem_content member

/-- What an array holds after its first byte has been cleared. -/
theorem content_set_zero (buffer : List UInt8) :
    CString.content (buffer.set 0 0) = [] := by
  cases buffer with
  | nil =>
      rfl
  | cons first rest =>
      rfl

/-- Accepted serial numbers replace all that were there. -/
theorem parseSerials_ok
    (parsed : parseSerials text config = (.ok (), changed)) :
    ∃ serials,
      Setting.serialsDenoted text = some serials ∧
        changed = { config with diskSerials := serials } := by
  unfold Setting.serialsDenoted
  unfold parseSerials at parsed ⊢
  generalize fillSerials (fun _ => []) 0
    (CString.tokens isSerialDelimiter text) = filled at parsed ⊢
  rcases filled with ⟨status, serials⟩
  cases parsed
  exact ⟨serials, rfl, rfl⟩

/-- An accepted power mode is stored with its times, if it has any. -/
theorem parsePowerMode_ok
    (parsed : parsePowerMode text config = (.ok (), changed)) :
    ∃ powerMode powerOnMs powerOffMs,
      changed = { config with powerMode, powerOnMs, powerOffMs } ∧
        Setting.powerDenoted text =
          some (Setting.read changed .power) := by
  unfold Setting.powerDenoted
  rcases parsePowerMode_ok_iff.mp parsed with
    ⟨rest, readsNone, noNumeral, rfl⟩ |
      ⟨mode, word, on, off, named, reading, small, rfl⟩
  · refine ⟨_, _, _, rfl, ?_⟩
    rw [parsePowerMode_of_none readsNone noNumeral]
    rfl
  · refine ⟨_, _, _, rfl, ?_⟩
    rw [parsePowerMode_of_cycle named reading small]
    rfl

/-- A key assigns the value it denotes to each of its settings. -/
theorem denoted_of_applyKey
    (setting : Setting)
    (applied :
      applyKey config text setting.fileKey = (.ok (), changed)) :
    setting.denoted text = some (setting.read changed) := by
  cases setting with
  | networkEnabled =>
      unfold Setting.fileKey applyKey at applied
      simp only at applied
      split at applied
      · rename_i empty
        cases applied
        simp [Setting.denoted, Setting.read, empty]
      · rename_i present
        obtain ⟨-, rfl⟩ := copyInterface_ok applied
        simp [Setting.denoted, Setting.read, present]
  | interface =>
      unfold Setting.fileKey applyKey at applied
      simp only at applied
      simp only [Setting.denoted, Setting.read,
        Setting.interfaceDenoted]
      split at applied
      · rename_i empty
        cases applied
        rw [content_set_zero, empty]
        rfl
      · obtain ⟨fits, rfl⟩ := copyInterface_ok applied
        rw [if_pos fits, content_append_zero]
  | diskColors slot =>
      obtain ⟨color, parsed, rfl⟩ := storeParsed_ok applied
      simp only [Setting.denoted, Setting.read, parsed,
        Function.update_self]
      rfl
  | diskSerials =>
      obtain ⟨serials, denoted, rfl⟩ := parseSerials_ok applied
      exact denoted
  | power =>
      obtain ⟨-, -, -, -, denoted⟩ := parsePowerMode_ok applied
      exact denoted
  | _ =>
      obtain ⟨value, parsed, rfl⟩ := storeParsed_ok applied
      exact parsed

/-- A key leaves the settings of the other keys alone. -/
theorem read_applyKey_of_ne
    {key : FileKey}
    {setting : Setting}
    (other : setting.fileKey ≠ key)
    (applied : applyKey config text key = (.ok (), changed)) :
    setting.read changed = setting.read config := by
  cases key with
  | netdevInterface =>
      unfold applyKey at applied
      simp only at applied
      split at applied
      · cases applied
        cases setting <;> first | rfl | exact absurd rfl other
      · obtain ⟨-, rfl⟩ := copyInterface_ok applied
        cases setting <;> first | rfl | exact absurd rfl other
  | colorDiskHealthPerDisk slot =>
      obtain ⟨color, -, rfl⟩ := storeParsed_ok applied
      cases setting with
      | diskColors setting =>
          have different : setting ≠ slot := by
            rintro rfl
            exact other rfl
          simp only [Setting.read,
            Function.update_of_ne different]
      | _ =>
          rfl
  | diskSerial =>
      obtain ⟨serials, -, rfl⟩ := parseSerials_ok applied
      cases setting <;> first | rfl | exact absurd rfl other
  | blinkTypePower =>
      obtain ⟨_, _, _, rfl, -⟩ := parsePowerMode_ok applied
      cases setting <;> first | rfl | exact absurd rfl other
  | _ =>
      obtain ⟨value, -, rfl⟩ := storeParsed_ok applied
      cases setting <;> first | rfl | exact absurd rfl other

/-- An option assigns the value it denotes to its setting. -/
theorem denoted_of_applyOption
    {setting : Setting}
    {option : ConfigOption}
    (names : setting.option? = some option)
    (applied :
      applyOption config text option = some (.ok (), changed)) :
    setting.denoted text = some (setting.read changed) := by
  cases setting with
  | interface =>
      cases names
      obtain ⟨fits, rfl⟩ :=
        copyInterface_ok (Option.some.inj applied)
      simp only [Setting.denoted, Setting.read,
        Setting.interfaceDenoted]
      rw [if_pos fits, content_append_zero]
  | networkInterval | networkPulse | networkRxColor | networkTxColor
  | networkBrightness | diskInterval | diskHold | diskPulse =>
      cases names
      obtain ⟨value, parsed, rfl⟩ :=
        storeParsed_ok (Option.some.inj applied)
      exact parsed
  | _ =>
      cases names

/-- The options that enable or disable the network do so. -/
theorem networkEnabled_of_applyOption
    {option : ConfigOption}
    {optarg : Option Word}
    {denoted : Option Bool}
    (occurrence :
      Setting.networkEnabled.occursInOption (option, optarg) =
        some denoted)
    (applied :
      applyOption config text option = some (.ok (), changed)) :
    denoted = some changed.networkEnabled := by
  cases option with
  | interface =>
      cases occurrence
      obtain ⟨-, rfl⟩ := copyInterface_ok (Option.some.inj applied)
      rfl
  | noNetwork =>
      cases occurrence
      cases applied
      rfl
  | _ =>
      cases occurrence

/-- Only the network can be enabled or disabled by two options. -/
theorem occursInOption_of_ne
    {setting : Setting}
    {item : ConfigOption × Option Word}
    (different : setting ≠ .networkEnabled) :
    setting.occursInOption item =
      if setting.option? = some item.1 then
        some (setting.denoted (item.2.getD []))
      else
        none := by
  cases setting <;> first | rfl | exact absurd rfl different

/-- An option leaves the settings alone that it does not occur for. -/
theorem read_applyOption_of_none
    {setting : Setting}
    {option : ConfigOption}
    {optarg : Option Word}
    (other : setting.occursInOption (option, optarg) = none)
    (applied :
      applyOption config text option = some (.ok (), changed)) :
    setting.read changed = setting.read config := by
  cases option with
  | interface =>
      obtain ⟨-, rfl⟩ := copyInterface_ok (Option.some.inj applied)
      cases setting <;> first | rfl | cases other
  | help =>
      cases applied
  | interval | pulse | rxColor | txColor | brightness
  | diskInterval | diskHold | diskPulse =>
      obtain ⟨value, -, rfl⟩ :=
        storeParsed_ok (Option.some.inj applied)
      cases setting <;> first | rfl | cases other
  | _ =>
      cases applied
      cases setting <;> first | rfl | cases other

end Writes

end UgreenLeds
