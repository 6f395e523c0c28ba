import UgreenLeds.ConfigData

/-!
# The configuration file

The model of `config_load_file`: the lines that `getline` returns, which of them
are assignments, the chain of keys, and what each key does to the configuration.
The first invalid value ends the loop.  Opening the file and reading on can
fail, and so can the read after the last line that is returned.
-/

namespace UgreenLeds

/-- A key that `config_load_file` knows, in the order of its chain. -/
inductive FileKey where
  | netdevInterface
  | netdevEbpfIntervalMs
  | netdevEbpfPulseMs
  | colorNetdevRx
  | colorNetdevTx
  | brightnessNetdevLed
  | diskEbpfIntervalMs
  | diskEbpfHoldMs
  | diskEbpfPulseMs
  | brightnessDiskLeds
  | colorDiskHealth
  | colorDiskHealthPerDisk (slot : Fin diskCount)
  | ledInvert
  | mappingMethod
  | diskSerial
  | brightnessPower
  | colorPower
  | blinkTypePower
  deriving DecidableEq, Repr

/-- The chain of comparisons of `config_load_file`. -/
def fileKey? (key : List UInt8) : Option FileKey :=
  if key = ascii "NETDEV_INTERFACE" then
    some .netdevInterface
  else if key = ascii "NETDEV_EBPF_INTERVAL_MS" then
    some .netdevEbpfIntervalMs
  else if key = ascii "NETDEV_EBPF_PULSE_MS" then
    some .netdevEbpfPulseMs
  else if key = ascii "COLOR_NETDEV_RX" then
    some .colorNetdevRx
  else if key = ascii "COLOR_NETDEV_TX" then
    some .colorNetdevTx
  else if key = ascii "BRIGHTNESS_NETDEV_LED" then
    some .brightnessNetdevLed
  else if key = ascii "DISK_EBPF_INTERVAL_MS" then
    some .diskEbpfIntervalMs
  else if key = ascii "DISK_EBPF_HOLD_MS" then
    some .diskEbpfHoldMs
  else if key = ascii "DISK_EBPF_PULSE_MS" then
    some .diskEbpfPulseMs
  else if key = ascii "BRIGHTNESS_DISK_LEDS" then
    some .brightnessDiskLeds
  else if key = ascii "COLOR_DISK_HEALTH" then
    some .colorDiskHealth
  else
    match perDiskColorSlot key with
    | some slot =>
        some (.colorDiskHealthPerDisk slot)
    | none =>
        if key = ascii "LED_INVERT" then
          some .ledInvert
        else if key = ascii "MAPPING_METHOD" then
          some .mappingMethod
        else if key = ascii "DISK_SERIAL" then
          some .diskSerial
        else if key = ascii "BRIGHTNESS_POWER" then
          some .brightnessPower
        else if key = ascii "COLOR_POWER" then
          some .colorPower
        else if key = ascii "BLINK_TYPE_POWER" then
          some .blinkTypePower
        else
          none

/-- Store a parsed value, or report why there is none. -/
def storeParsed
    {Value : Type}
    (config : ConfigData)
    (parsed : Except Errno Value)
    (store : Value → ConfigData) : Status × ConfigData :=
  match parsed with
  | .error error =>
      (.error error, config)
  | .ok value =>
      (.ok (), store value)

/-- The body of the chain of `config_load_file` for a known key. -/
def applyKey
    (config : ConfigData)
    (value : List UInt8) :
    FileKey → Status × ConfigData
  | .netdevInterface =>
      if value = [] then
        (.ok (),
          { config with
            interface := config.interface.set 0 0
            networkEnabled := false })
      else
        copyInterface value config
  | .netdevEbpfIntervalMs =>
      storeParsed config (parseUnsigned value 1 1000)
        fun networkIntervalMs => { config with networkIntervalMs }
  | .netdevEbpfPulseMs =>
      storeParsed config (parseUnsigned value 0 1000)
        fun networkPulseMs => { config with networkPulseMs }
  | .colorNetdevRx =>
      storeParsed config (parseRgb value)
        fun networkRxColor => { config with networkRxColor }
  | .colorNetdevTx =>
      storeParsed config (parseRgb value)
        fun networkTxColor => { config with networkTxColor }
  | .brightnessNetdevLed =>
      storeParsed config (parseUnsigned value 0 255)
        fun networkBrightness => { config with networkBrightness }
  | .diskEbpfIntervalMs =>
      storeParsed config (parseUnsigned value 1 1000)
        fun diskIntervalMs => { config with diskIntervalMs }
  | .diskEbpfHoldMs =>
      storeParsed config (parseUnsigned value 1 10000)
        fun diskHoldMs => { config with diskHoldMs }
  | .diskEbpfPulseMs =>
      storeParsed config (parseUnsigned value 1 1000)
        fun diskPulseMs => { config with diskPulseMs }
  | .brightnessDiskLeds =>
      storeParsed config (parseUnsigned value 0 255)
        fun diskBrightness => { config with diskBrightness }
  | .colorDiskHealth =>
      storeParsed config (parseRgb value)
        fun diskColor => { config with diskColor }
  | .colorDiskHealthPerDisk slot =>
      storeParsed config (parseRgb value)
        fun color =>
          { config with
            diskColors := Function.update config.diskColors slot color
            diskColorSet :=
              Function.update config.diskColorSet slot true }
  | .ledInvert =>
      storeParsed config (parseBoolean value)
        fun diskInvert => { config with diskInvert }
  | .mappingMethod =>
      storeParsed config (parseMapping value)
        fun diskMapping => { config with diskMapping }
  | .diskSerial =>
      parseSerials value config
  | .brightnessPower =>
      storeParsed config (parseUnsigned value 0 255)
        fun powerBrightness => { config with powerBrightness }
  | .colorPower =>
      storeParsed config (parseRgb value)
        fun powerColor => { config with powerColor }
  | .blinkTypePower =>
      parsePowerMode value config

/-- The lines `getline` returns, each with its newline if it has one. -/
def getlines : List UInt8 → List (List UInt8)
  | [] =>
      []
  | byte :: rest =>
      if byte = 10 then
        [byte] :: getlines rest
      else
        match getlines rest with
        | [] =>
            [[byte]]
        | line :: lines =>
            (byte :: line) :: lines

/-- The key and the value of a line, unless the line is skipped. -/
def assignment? (line : List UInt8) :
    Option (List UInt8 × List UInt8) :=
  let key := trim (CString.content line)
  if key = [] ∨ key.head? = some 35 ∨
      (ascii "declare ").isPrefixOf key then
    none
  else
    match CString.splitAtFirst? 61 key with
    | none =>
        none
    | some (key, value) =>
        some (trim key, configValue value)

/-- The known key and the value of a line that changes the configuration. -/
def setting? (line : List UInt8) : Option (FileKey × List UInt8) :=
  match assignment? line with
  | none =>
      none
  | some (key, value) =>
      match fileKey? key with
      | none =>
          none
      | some fileKey =>
          some (fileKey, value)

/-- The loop of `config_load_file`. -/
def loadLines
    (config : ConfigData) :
    List (List UInt8) → Status × ConfigData
  | [] =>
      (.ok (), config)
  | line :: rest =>
      match setting? line with
      | none =>
          loadLines config rest
      | some (fileKey, value) =>
          match applyKey config value fileKey with
          | (.ok (), changed) =>
              loadLines changed rest
          | (.error error, changed) =>
              (.error error, changed)

/-- What reading an open file to its end gives. -/
structure FileContents where
  bytes : List UInt8
  /-- The error that ends the reading, if it is not the end of the file. -/
  readError : Option Errno

/-- `config_load_file`, given what opening its file results in. -/
def configLoadFile
    (file : Except Errno FileContents)
    (config : ConfigData) : Status × ConfigData :=
  match file with
  | .error error =>
      (.error error, config)
  | .ok contents =>
      match loadLines config (getlines contents.bytes) with
      | (.error error, loaded) =>
          (.error error, loaded)
      | (.ok (), loaded) =>
          match contents.readError with
          | none =>
              (.ok (), loaded)
          | some error =>
              (.error error, loaded)

end UgreenLeds
