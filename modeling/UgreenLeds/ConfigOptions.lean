import UgreenLeds.ConfigFile
import UgreenLeds.GetoptLong

/-!
# The command line

The model of `find_config_path` and `config_parse_options`: the configuration
file is looked for by comparing words, loaded over the defaults, and then
overridden by the options that `getopt_long` reports.  What each path contains
is a parameter.
-/

namespace UgreenLeds

open GetoptLong (Word)

/-- The options of `config_parse_options`. -/
inductive ConfigOption where
  | interface
  | bpfObject
  | interval
  | pulse
  | rxColor
  | txColor
  | brightness
  | i2cDevice
  | config
  | diskInterval
  | diskHold
  | diskPulse
  | noNetwork
  | noDisks
  | noPower
  | verbose
  | help
  deriving DecidableEq, Repr

/-- The option string `"i:o:vh"`. -/
def shortOption (letter : UInt8) : Option (Bool × ConfigOption) :=
  if letter = 105 then some (true, .interface)
  else if letter = 111 then some (true, .bpfObject)
  else if letter = 118 then some (false, .verbose)
  else if letter = 104 then some (false, .help)
  else none

/-- The table `options`. -/
def longOptions : List (GetoptLong.Long ConfigOption) :=
  [⟨ascii "interface", true, .interface⟩,
    ⟨ascii "bpf-object", true, .bpfObject⟩,
    ⟨ascii "interval-ms", true, .interval⟩,
    ⟨ascii "pulse-ms", true, .pulse⟩,
    ⟨ascii "rx-color", true, .rxColor⟩,
    ⟨ascii "tx-color", true, .txColor⟩,
    ⟨ascii "brightness", true, .brightness⟩,
    ⟨ascii "i2c-device", true, .i2cDevice⟩,
    ⟨ascii "config", true, .config⟩,
    ⟨ascii "disk-interval-ms", true, .diskInterval⟩,
    ⟨ascii "disk-hold-ms", true, .diskHold⟩,
    ⟨ascii "disk-pulse-ms", true, .diskPulse⟩,
    ⟨ascii "no-network", false, .noNetwork⟩,
    ⟨ascii "no-disks", false, .noDisks⟩,
    ⟨ascii "no-power", false, .noPower⟩,
    ⟨ascii "verbose", false, .verbose⟩,
    ⟨ascii "help", false, .help⟩]

/-- The options the daemon declares. -/
def configSpec : GetoptLong.Spec ConfigOption where
  short := shortOption
  long := longOptions

/-- The loop of `find_config_path` over the words after the program's name. -/
def findConfigPathFrom
    (path : Word)
    (explicitPath : Bool) :
    List Word → Option (Word × Bool)
  | [] =>
      some (path, explicitPath)
  | word :: rest =>
      if word = ascii "--config" then
        match rest with
        | [] =>
            none
        | path :: rest =>
            findConfigPathFrom path true rest
      else if (ascii "--config=").isPrefixOf word then
        findConfigPathFrom (word.drop 9) true rest
      else
        findConfigPathFrom path explicitPath rest

/-- `find_config_path`; it fails if `--config` is the last word. -/
def findConfigPath (args : List Word) : Option (Word × Bool) :=
  findConfigPathFrom ConfigData.defaultConfigPath false args

/-- How `config_parse_options` ends. -/
inductive ParseOutcome where
  | parsed (config : ConfigData)
  | failed (error : Errno)
  /-- The usage was asked for, and the process exits. -/
  | exited

/-- The `switch` of `config_parse_options`; asking for help exits. -/
def applyOption
    (config : ConfigData)
    (optarg : Word) :
    ConfigOption → Option (Status × ConfigData)
  | .interface =>
      some (copyInterface optarg config)
  | .bpfObject =>
      some (.ok (), { config with bpfObject := optarg })
  | .verbose =>
      some (.ok (), { config with verbose := true })
  | .help =>
      none
  | .config =>
      some (.ok (), { config with configPath := optarg })
  | .i2cDevice =>
      some (.ok (), { config with i2cDevice := some optarg })
  | .noNetwork =>
      some (.ok (), { config with networkEnabled := false })
  | .noDisks =>
      some (.ok (), { config with disksEnabled := false })
  | .noPower =>
      some (.ok (), { config with powerEnabled := false })
  | .interval =>
      some
        (storeParsed config (parseUnsigned optarg 1 1000)
          fun networkIntervalMs => { config with networkIntervalMs })
  | .pulse =>
      some
        (storeParsed config (parseUnsigned optarg 0 1000)
          fun networkPulseMs => { config with networkPulseMs })
  | .rxColor =>
      some
        (storeParsed config (parseRgb optarg)
          fun networkRxColor => { config with networkRxColor })
  | .txColor =>
      some
        (storeParsed config (parseRgb optarg)
          fun networkTxColor => { config with networkTxColor })
  | .brightness =>
      some
        (storeParsed config (parseUnsigned optarg 0 255)
          fun networkBrightness => { config with networkBrightness })
  | .diskInterval =>
      some
        (storeParsed config (parseUnsigned optarg 1 1000)
          fun diskIntervalMs => { config with diskIntervalMs })
  | .diskHold =>
      some
        (storeParsed config (parseUnsigned optarg 1 10000)
          fun diskHoldMs => { config with diskHoldMs })
  | .diskPulse =>
      some
        (storeParsed config (parseUnsigned optarg 1 1000)
          fun diskPulseMs => { config with diskPulseMs })

/-- The checks after the last option. -/
def finalChecks
    (operands : List Word)
    (config : ConfigData) : ParseOutcome :=
  if operands ≠ [] ∨ config.diskPulseMs ≥ config.diskIntervalMs ∨
      (config.powerEnabled = false ∧ config.disksEnabled = false ∧
        config.networkEnabled = false) then
    .failed .einval
  else
    .parsed config

/-- The loop of `config_parse_options` over what `getopt_long` returns. -/
def applyOptions
    (operands? : Option (List Word))
    (config : ConfigData) :
    List (ConfigOption × Option Word) → ParseOutcome
  | [] =>
      match operands? with
      | none =>
          .failed .einval
      | some operands =>
          finalChecks operands config
  | (option, optarg) :: rest =>
      match applyOption config (optarg.getD []) option with
      | none =>
          .exited
      | some (.error error, _) =>
          .failed error
      | some (.ok (), changed) =>
          applyOptions operands? changed rest

/-- `config_parse_options` on the words after the program's name. -/
def configParseOptions
    (files : Word → Except Errno FileContents)
    (args : List Word) : ParseOutcome :=
  match findConfigPath args with
  | none =>
      .failed .einval
  | some (configPath, explicitConfig) =>
      let located :=
        { ConfigData.defaults with configPath }
      let (status, loaded) :=
        configLoadFile (files configPath) located
      let scan := GetoptLong.scan configSpec args
      match status with
      | .ok () =>
          applyOptions scan.operands? loaded scan.options
      | .error error =>
          if error ≠ .enoent ∨ explicitConfig then
            .failed error
          else
            applyOptions scan.operands? loaded scan.options

end UgreenLeds
