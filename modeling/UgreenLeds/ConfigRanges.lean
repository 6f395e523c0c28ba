import UgreenLeds.ConfigNumerals
import UgreenLeds.ConfigOptions
import UgreenLeds.DiskLedBays
import UgreenLeds.LedControllerSlice
import UgreenLeds.PowerLed

/-!
# An accepted configuration is safe to execute

Every assignment of the file and every option keeps the fields inside their own
ranges, in whatever order and however often they come; the check that relates
two fields is made once, at the end.  What the policies rely on when they narrow
the fields follows.
-/

namespace UgreenLeds

/-- An array that holds a non-empty interface name and its terminator. -/
def NamesInterface (interface : List UInt8) : Prop :=
  ∃ name rest,
    interface = name ++ 0 :: rest ∧
      name ≠ [] ∧ 0 ∉ name ∧ name.length < ifNameSize

namespace ConfigData

/-- Every field is inside the range its own checks enforce. -/
structure InRange (config : ConfigData) : Prop where
  networkInterval :
    1 ≤ config.networkIntervalMs ∧ config.networkIntervalMs ≤ 1000
  networkPulse : config.networkPulseMs ≤ 1000
  networkBrightness : config.networkBrightness ≤ 255
  diskInterval :
    1 ≤ config.diskIntervalMs ∧ config.diskIntervalMs ≤ 1000
  diskHold : 1 ≤ config.diskHoldMs ∧ config.diskHoldMs ≤ 10000
  diskPulse : 1 ≤ config.diskPulseMs ∧ config.diskPulseMs ≤ 1000
  diskBrightness : config.diskBrightness ≤ 255
  powerBrightness : config.powerBrightness ≤ 255
  powerCycle :
    config.powerOnMs.toNat + config.powerOffMs.toNat ≤ 65535
  interfaceSize : config.interface.length = ifNameSize
  interfaceName :
    config.networkEnabled = true → NamesInterface config.interface

/-- What `config_parse_options` accepts. -/
structure Accepted (config : ConfigData) : Prop where
  inRange : config.InRange
  diskPulse_lt : config.diskPulseMs < config.diskIntervalMs
  enabled :
    config.powerEnabled = true ∨ config.disksEnabled = true ∨
      config.networkEnabled = true

theorem defaults_inRange : defaults.InRange where
  networkInterval := by decide
  networkPulse := by decide
  networkBrightness := by decide
  diskInterval := by decide
  diskHold := by decide
  diskPulse := by decide
  diskBrightness := by decide
  powerBrightness := by decide
  powerCycle := by decide
  interfaceSize := rfl
  interfaceName := by
    intro enabled
    cases enabled

end ConfigData

section Parsers

/-- A number that is accepted lies in its range. -/
theorem parseUnsigned_range
    {text : List UInt8}
    {minimum maximum value : UInt32}
    (parsed : parseUnsigned text minimum maximum = .ok value) :
    minimum ≤ value ∧ value ≤ maximum := by
  obtain ⟨numeral, -, -, above, below, rfl⟩ :=
    parseUnsigned_ok_iff.mp parsed
  have inWord := maximum.toNat_lt
  have exact : numeral.stored.toNat = numeral.word.toNat := by
    rw [CString.Numeral.stored, UInt64.toNat_toUInt32]
    exact Nat.mod_eq_of_lt (by omega)
  rw [UInt32.le_iff_toNat_le, UInt32.le_iff_toNat_le, exact]
  exact ⟨above, below⟩

/-- Storing a parsed value keeps what holds before and after the store. -/
theorem storeParsed_kept
    {Good : ConfigData → Prop}
    {Value : Type}
    {config : ConfigData}
    {parsed : Except Errno Value}
    {store : Value → ConfigData}
    (holds : Good config)
    (stored : ∀ value, parsed = .ok value → Good (store value)) :
    Good (storeParsed config parsed store).2 := by
  cases parsed with
  | error error =>
      exact holds
  | ok value =>
      exact stored value rfl

variable
  {config : ConfigData}
  (holds : config.InRange)

include holds

theorem copyInterface_inRange (text : List UInt8) :
    (copyInterface text config).2.InRange := by
  simp only [copyInterface]
  split
  · exact holds
  · rename_i accepted
    simp only [not_or, Nat.not_le] at accepted
    obtain ⟨nonempty, short⟩ := accepted
    refine { holds with interfaceSize := ?_, interfaceName := ?_ }
    · have size := holds.interfaceSize
      simp only [List.length_append, List.length_cons,
        List.length_drop, size]
      omega
    · intro _
      refine ⟨CString.content text, _, rfl, nonempty, ?_, short⟩
      intro isNull
      exact CString.ne_zero_of_mem_content isNull rfl

theorem parsePowerMode_inRange (text : List UInt8) :
    (parsePowerMode text config).2.InRange := by
  cases parsed : parsePowerMode text config with
  | mk status changed =>
      cases status with
      | error error =>
          have refused :
              ∀ other, parsePowerMode text config ≠ (.ok (), other) := by
            intro other accepted
            rw [parsed] at accepted
            cases accepted
          rw [parsePowerMode_refused refused] at parsed
          cases parsed
          exact holds
      | ok =>
          rcases parsePowerMode_ok_iff.mp parsed with
            ⟨rest, -, -, rfl⟩ | ⟨mode, word, on, off, -, -, small, rfl⟩
          · exact { holds with }
          · exact { holds with powerCycle := small }

end Parsers

section Assignments

variable
  {config : ConfigData}
  (holds : config.InRange)

include holds

/-- Every assignment of the file keeps the fields in range. -/
theorem applyKey_inRange
    (value : List UInt8)
    (fileKey : FileKey) :
    (applyKey config value fileKey).2.InRange := by
  cases fileKey with
  | netdevInterface =>
      simp only [applyKey]
      split
      · refine
          { holds with interfaceSize := ?_, interfaceName := ?_ }
        · rw [List.length_set]
          exact holds.interfaceSize
        · intro enabled
          cases enabled
      · exact copyInterface_inRange holds value
  | netdevEbpfIntervalMs =>
      exact storeParsed_kept holds fun _ parsed =>
        { holds with networkInterval := parseUnsigned_range parsed }
  | netdevEbpfPulseMs =>
      exact storeParsed_kept holds fun _ parsed =>
        { holds with networkPulse := (parseUnsigned_range parsed).2 }
  | brightnessNetdevLed =>
      exact storeParsed_kept holds fun _ parsed =>
        { holds with
          networkBrightness := (parseUnsigned_range parsed).2 }
  | diskEbpfIntervalMs =>
      exact storeParsed_kept holds fun _ parsed =>
        { holds with diskInterval := parseUnsigned_range parsed }
  | diskEbpfHoldMs =>
      exact storeParsed_kept holds fun _ parsed =>
        { holds with diskHold := parseUnsigned_range parsed }
  | diskEbpfPulseMs =>
      exact storeParsed_kept holds fun _ parsed =>
        { holds with diskPulse := parseUnsigned_range parsed }
  | brightnessDiskLeds =>
      exact storeParsed_kept holds fun _ parsed =>
        { holds with diskBrightness := (parseUnsigned_range parsed).2 }
  | brightnessPower =>
      exact storeParsed_kept holds fun _ parsed =>
        { holds with powerBrightness := (parseUnsigned_range parsed).2 }
  | diskSerial =>
      exact { holds with }
  | blinkTypePower =>
      exact parsePowerMode_inRange holds value
  | _ =>
      exact storeParsed_kept holds fun _ _ => { holds with }

/-- The lines of a file keep the fields in range, even if one is invalid. -/
theorem loadLines_inRange (lines : List (List UInt8)) :
    (loadLines config lines).2.InRange := by
  induction lines generalizing config with
  | nil =>
      exact holds
  | cons line rest inductionHypothesis =>
      unfold loadLines
      cases setting? line with
      | none =>
          exact inductionHypothesis holds
      | some setting =>
          have kept := applyKey_inRange holds setting.2 setting.1
          simp only
          generalize applyKey config setting.2 setting.1 =
            result at kept ⊢
          rcases result with ⟨error | done, changed⟩
          · exact kept
          · exact inductionHypothesis kept

/-- Loading a file keeps the fields in range, whether it fails or not. -/
theorem configLoadFile_inRange
    (file : Except Errno FileContents) :
    (configLoadFile file config).2.InRange := by
  cases file with
  | error error =>
      exact holds
  | ok contents =>
      have kept :=
        loadLines_inRange holds (getlines contents.bytes)
      simp only [configLoadFile]
      generalize loadLines config (getlines contents.bytes) =
        result at kept ⊢
      rcases result with ⟨error | done, loaded⟩
      · exact kept
      · cases contents.readError <;> exact kept

/-- Every option keeps the fields in range. -/
theorem applyOption_inRange
    (optarg : GetoptLong.Word)
    (option : ConfigOption)
    {result : Status × ConfigData}
    (applied : applyOption config optarg option = some result) :
    result.2.InRange := by
  cases option with
  | interface =>
      cases applied
      exact copyInterface_inRange holds optarg
  | interval =>
      cases applied
      exact storeParsed_kept holds fun _ parsed =>
        { holds with networkInterval := parseUnsigned_range parsed }
  | pulse =>
      cases applied
      exact storeParsed_kept holds fun _ parsed =>
        { holds with networkPulse := (parseUnsigned_range parsed).2 }
  | brightness =>
      cases applied
      exact storeParsed_kept holds fun _ parsed =>
        { holds with
          networkBrightness := (parseUnsigned_range parsed).2 }
  | diskInterval =>
      cases applied
      exact storeParsed_kept holds fun _ parsed =>
        { holds with diskInterval := parseUnsigned_range parsed }
  | diskHold =>
      cases applied
      exact storeParsed_kept holds fun _ parsed =>
        { holds with diskHold := parseUnsigned_range parsed }
  | diskPulse =>
      cases applied
      exact storeParsed_kept holds fun _ parsed =>
        { holds with diskPulse := parseUnsigned_range parsed }
  | noNetwork =>
      cases applied
      refine { holds with interfaceName := ?_ }
      intro enabled
      cases enabled
  | help =>
      cases applied
  | rxColor =>
      cases applied
      exact storeParsed_kept holds fun _ _ => { holds with }
  | txColor =>
      cases applied
      exact storeParsed_kept holds fun _ _ => { holds with }
  | _ =>
      cases applied
      exact { holds with }

/-- The final checks accept what the configuration type promises. -/
theorem accepted_of_finalChecks
    {operands : List GetoptLong.Word}
    {final : ConfigData}
    (parsed : finalChecks operands config = .parsed final) :
    final = config ∧ operands = [] ∧ config.Accepted := by
  unfold finalChecks at parsed
  split at parsed
  · cases parsed
  · rename_i accepted
    cases parsed
    simp only [not_or, ne_eq, not_not, ge_iff_le,
      UInt32.not_le] at accepted
    obtain ⟨noOperands, shorter, enabled⟩ := accepted
    refine ⟨rfl, noOperands, holds, shorter, ?_⟩
    cases power : config.powerEnabled <;>
      cases disks : config.disksEnabled <;>
      cases network : config.networkEnabled <;>
      simp_all

/-- What is left after the last option has been accepted. -/
theorem accepted_of_applyOptions
    {operands? : Option (List GetoptLong.Word)}
    {options : List (ConfigOption × Option GetoptLong.Word)}
    {final : ConfigData}
    (parsed : applyOptions operands? config options = .parsed final) :
    final.Accepted := by
  induction options generalizing config with
  | nil =>
      cases operands? with
      | none =>
          cases parsed
      | some operands =>
          obtain ⟨same, -, accepted⟩ :=
            accepted_of_finalChecks holds parsed
          exact same ▸ accepted
  | cons first rest inductionHypothesis =>
      obtain ⟨option, optarg⟩ := first
      unfold applyOptions at parsed
      cases applied : applyOption config (optarg.getD []) option with
      | none =>
          rw [applied] at parsed
          cases parsed
      | some result =>
          have kept := applyOption_inRange holds _ _ applied
          rw [applied] at parsed
          rcases result with ⟨error | done, changed⟩
          · cases parsed
          · exact inductionHypothesis kept parsed

end Assignments

/-- Every configuration that is parsed is an accepted one. -/
theorem accepted_of_parsed
    {files : GetoptLong.Word → Except Errno FileContents}
    {args : List GetoptLong.Word}
    {config : ConfigData}
    (parsed : configParseOptions files args = .parsed config) :
    config.Accepted := by
  unfold configParseOptions at parsed
  cases found : findConfigPath args with
  | none =>
      rw [found] at parsed
      cases parsed
  | some path =>
      obtain ⟨configPath, explicitConfig⟩ := path
      have located :
          { ConfigData.defaults with configPath }.InRange :=
        { ConfigData.defaults_inRange with }
      have loaded :=
        configLoadFile_inRange located (files configPath)
      simp only [found] at parsed
      split at parsed
      · exact accepted_of_applyOptions loaded parsed
      · split at parsed
        · cases parsed
        · exact accepted_of_applyOptions loaded parsed

namespace ConfigData

variable
  {config : ConfigData}

/-- The part of an accepted configuration that the policies read. -/
def toConfig
    (config : ConfigData)
    (accepted : config.Accepted) : Config where
  networkPulseMs := config.networkPulseMs
  networkBrightness := config.networkBrightness
  networkRxColor := config.networkRxColor
  networkTxColor := config.networkTxColor
  diskIntervalMs := config.diskIntervalMs
  diskHoldMs := config.diskHoldMs
  diskPulseMs := config.diskPulseMs
  diskBrightness := config.diskBrightness
  diskColor := config.diskColor
  diskColors := config.diskColors
  diskColorSet := config.diskColorSet
  diskInvert := config.diskInvert
  networkPulse_le := accepted.inRange.networkPulse
  networkBrightness_le := accepted.inRange.networkBrightness
  diskInterval_le := accepted.inRange.diskInterval.2
  diskHold_pos := accepted.inRange.diskHold.1
  diskHold_le := accepted.inRange.diskHold.2
  diskPulse_pos := accepted.inRange.diskPulse.1
  diskPulse_lt := accepted.diskPulse_lt
  diskBrightness_le := accepted.inRange.diskBrightness

end ConfigData

section Execution

/--
`led_controller_set_blink` turns its arguments down before it does anything.
-/
def LedController.RejectsBlink
    (ledId : UInt8)
    (onMs offMs : UInt16) : Prop :=
  ledIndex? ledId = none ∨ onMs + offMs < onMs

/-- Times that fit a cycle are not rejected for an LED that exists. -/
theorem LedController.not_rejectsBlink
    {ledId : UInt8}
    {led : LedIndex}
    (addressed : ledIndex? ledId = some led)
    {onMs offMs : UInt16}
    (fits : onMs.toNat + offMs.toNat < 65536) :
    ¬ RejectsBlink ledId onMs offMs := by
  rintro (unknown | overlong)
  · rw [addressed] at unknown
    cases unknown
  · exact (cycle_lt_iff onMs offMs).mp overlong fits

/--
What the policies rely on when they execute a configuration: no narrowing loses
anything, the disk interval exceeds the pulse, the two phases of a disk blink
fill the interval, and no blink is rejected.
-/
structure Executable
    (config : ConfigData)
    (policy : Config) : Prop where
  /-- `power_led_apply`. -/
  powerBrightness :
    config.powerBrightness.toUInt8.toNat = config.powerBrightness.toNat
  powerOn : config.powerOnMs.toUInt16.toNat = config.powerOnMs.toNat
  powerOff : config.powerOffMs.toUInt16.toNat = config.powerOffMs.toNat
  powerBlink :
    ¬ LedController.RejectsBlink ledPower config.powerOnMs.toUInt16
      config.powerOffMs.toUInt16
  /-- `network_led_init`. -/
  networkBrightness :
    policy.networkBrightness.toUInt8.toNat =
      config.networkBrightness.toNat
  /-- `set_steady`. -/
  diskBrightness :
    policy.diskBrightness.toUInt8.toNat = config.diskBrightness.toNat
  /-- `disk_leds_handle_activity`. -/
  difference :
    (policy.diskIntervalMs - policy.diskPulseMs).toNat +
        config.diskPulseMs.toNat =
      config.diskIntervalMs.toNat
  diskOn :
    (DiskLeds.blinkTimes policy).1.toUInt16.toNat =
      (DiskLeds.blinkTimes policy).1.toNat
  diskOff :
    (DiskLeds.blinkTimes policy).2.toUInt16.toNat =
      (DiskLeds.blinkTimes policy).2.toNat
  diskOn_pos : 0 < (DiskLeds.blinkTimes policy).1.toNat
  diskOff_pos : 0 < (DiskLeds.blinkTimes policy).2.toNat
  diskCycle :
    (DiskLeds.blinkTimes policy).1.toNat +
        (DiskLeds.blinkTimes policy).2.toNat =
      config.diskIntervalMs.toNat
  diskBlink :
    ∀ index : DiskIndex,
      ¬ LedController.RejectsBlink (diskLedId index)
        (DiskLeds.blinkTimes policy).1.toUInt16
        (DiskLeds.blinkTimes policy).2.toUInt16

/-- A number of at most 255 fits a byte. -/
theorem toUInt8_toNat
    {value : UInt32}
    (small : value ≤ 255) :
    value.toUInt8.toNat = value.toNat := by
  have bounded : value.toNat ≤ 255 := UInt32.le_iff_toNat_le.mp small
  rw [UInt32.toNat_toUInt8]
  omega

/-- A number of at most 65535 fits sixteen bits. -/
theorem toUInt16_toNat
    {value : UInt32}
    (small : value.toNat ≤ 65535) :
    value.toUInt16.toNat = value.toNat := by
  rw [UInt32.toNat_toUInt16]
  omega

/-- The pulse is shorter than the interval, so the difference is exact. -/
theorem diskDifference (policy : Config) :
    (policy.diskIntervalMs - policy.diskPulseMs).toNat +
        policy.diskPulseMs.toNat =
      policy.diskIntervalMs.toNat := by
  have shorter := UInt32.lt_iff_toNat_lt.mp policy.diskPulse_lt
  rw [UInt32.toNat_sub_of_le _ _
    (UInt32.le_iff_toNat_le.mpr shorter.le)]
  omega

/-- Both phases of a disk blink are positive and fill the interval. -/
theorem blinkTimes_phases (policy : Config) :
    0 < (DiskLeds.blinkTimes policy).1.toNat ∧
      0 < (DiskLeds.blinkTimes policy).2.toNat ∧
      (DiskLeds.blinkTimes policy).1.toNat +
          (DiskLeds.blinkTimes policy).2.toNat =
        policy.diskIntervalMs.toNat := by
  have difference := diskDifference policy
  have shorter := UInt32.lt_iff_toNat_lt.mp policy.diskPulse_lt
  have positive : 1 ≤ policy.diskPulseMs.toNat :=
    UInt32.le_iff_toNat_le.mp policy.diskPulse_pos
  simp only [DiskLeds.blinkTimes]
  split <;> refine ⟨?_, ?_, ?_⟩ <;> simp only <;> omega

/-- An accepted configuration can be executed as it is. -/
theorem ConfigData.Accepted.executable
    {config : ConfigData}
    (accepted : config.Accepted) :
    Executable config (config.toConfig accepted) := by
  have cycle := accepted.inRange.powerCycle
  have powerOn : config.powerOnMs.toNat ≤ 65535 := by omega
  have powerOff : config.powerOffMs.toNat ≤ 65535 := by omega
  obtain ⟨onPos, offPos, filled⟩ :=
    blinkTimes_phases (config.toConfig accepted)
  have interval :
      (config.toConfig accepted).diskIntervalMs.toNat ≤ 1000 :=
    UInt32.le_iff_toNat_le.mp accepted.inRange.diskInterval.2
  have diskOn :=
    toUInt16_toNat
      (show (DiskLeds.blinkTimes (config.toConfig accepted)).1.toNat ≤
        65535 by omega)
  have diskOff :=
    toUInt16_toNat
      (show (DiskLeds.blinkTimes (config.toConfig accepted)).2.toNat ≤
        65535 by omega)
  refine
    { powerBrightness := toUInt8_toNat accepted.inRange.powerBrightness
      powerOn := toUInt16_toNat powerOn
      powerOff := toUInt16_toNat powerOff
      powerBlink := ?_
      networkBrightness :=
        toUInt8_toNat accepted.inRange.networkBrightness
      diskBrightness := toUInt8_toNat accepted.inRange.diskBrightness
      difference := diskDifference (config.toConfig accepted)
      diskOn := diskOn
      diskOff := diskOff
      diskOn_pos := onPos
      diskOff_pos := offPos
      diskCycle := filled
      diskBlink := ?_ }
  · apply LedController.not_rejectsBlink
      (show ledIndex? ledPower = some ⟨0, by decide⟩ from rfl)
    rw [toUInt16_toNat powerOn, toUInt16_toNat powerOff]
    omega
  · intro index
    apply LedController.not_rejectsBlink (ledIndex?_diskLedId index)
    rw [diskOn, diskOff]
    omega

end Execution

/--
Every configuration that `config_parse_options` accepts is in range, enables
something, and can be executed as it is.
-/
theorem configParseOptions_safe
    (files : GetoptLong.Word → Except Errno FileContents)
    (args : List GetoptLong.Word)
    {config : ConfigData}
    (parsed : configParseOptions files args = .parsed config) :
    ∃ accepted : config.Accepted,
      Executable config (config.toConfig accepted) :=
  ⟨accepted_of_parsed parsed, (accepted_of_parsed parsed).executable⟩

/-- A disk interval that is shorter than the default pulse. -/
def shortInterval : FileContents :=
  ⟨ascii "DISK_EBPF_INTERVAL_MS=40\nBLINK_TYPE_POWER=\"breath 300 700\"\n",
    none⟩

/--
The file alone is turned down, and an option with a shorter pulse makes it
acceptable.
-/
theorem configParseOptions_safe_short_interval :
    (∀ config,
      configParseOptions (fun _ => .ok shortInterval) [] ≠
        .parsed config) ∧
      ∃ config accepted,
        configParseOptions (fun _ => .ok shortInterval)
            [ascii "--disk-pulse-ms=20", ascii "-i", ascii "eth0"] =
          .parsed config ∧
        config.diskIntervalMs = 40 ∧
        Executable config (config.toConfig accepted) := by
  refine ⟨fun config parsed => ?_, ?_⟩
  · have rejected :
        configParseOptions (fun _ => .ok shortInterval) [] =
          .failed .einval := rfl
    rw [rejected] at parsed
    cases parsed
  · obtain ⟨config, parsed, interval⟩ :
        ∃ config,
          configParseOptions (fun _ => .ok shortInterval)
              [ascii "--disk-pulse-ms=20", ascii "-i",
                ascii "eth0"] =
            .parsed config ∧
          config.diskIntervalMs = 40 :=
      ⟨_, rfl, rfl⟩
    obtain ⟨accepted, executable⟩ :=
      configParseOptions_safe (fun _ => .ok shortInterval) _ parsed
    exact ⟨config, accepted, parsed, interval, executable⟩

end UgreenLeds
