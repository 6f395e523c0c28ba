import UgreenLeds.Decimals
import UgreenLeds.KernelDriverBlink
import UgreenLeds.KernelDriverEffects
import UgreenLeds.Panel
import UgreenLeds.PowerGrammar

/-!
# Two ways of configuring the power LED

The settings of the power LED in `/etc/ugreen-leds.conf` have two readers:
`ugreen-power-led` hands them to the kernel driver, and the daemon programs the
LED itself.  Both understand the same texts.  The driver brings delays into its
range and takes no brightness and black for a request to switch the LED off, so
that the LED looks the same in both cases unless it is lit and a delay is out of
the driver's range.
-/

namespace UgreenLeds

open CString (Reads ReadsWord isSpace tokens)
open KernelDriver
  (AlwaysThrough Call LedArray LedRegisters Request black clampDelay
    probe registered ReadCorrectly)

section Texts

variable (data : ConfigData)

/-- The value of `BLINK_TYPE_POWER`. -/
def blinkTypePower : List UInt8 :=
  match data.powerMode with
  | .on =>
      ascii "none"
  | .blink =>
      ascii "blink" ++
        (32 :: (CString.decimal data.powerOnMs.toNat ++
          (32 :: CString.decimal data.powerOffMs.toNat)))
  | .breath =>
      ascii "breath" ++
        (32 :: (CString.decimal data.powerOnMs.toNat ++
          (32 :: CString.decimal data.powerOffMs.toNat)))

/-- The value of `BRIGHTNESS_POWER`. -/
def brightnessPower : List UInt8 :=
  CString.decimal data.powerBrightness.toNat

/-- The value of `COLOR_POWER`. -/
def colorPower : List UInt8 :=
  CString.decimal data.powerColor.r.toNat ++
    (32 :: (CString.decimal data.powerColor.g.toNat ++
      (32 :: CString.decimal data.powerColor.b.toNat)))

/-- What `echo` writes for a value. -/
def echo (text : List UInt8) : List UInt8 :=
  text ++ [10]

/--
`ugreen-power-led`: the three attributes it writes.  The LED core reads the number
that is written to `brightness`, and may hand it to the driver when the colour has
already been written.
-/
def ugreenPowerLed (deferred : Bool) : List Call :=
  let brightness : Call :=
    .setBrightnessBlocking powerLed data.powerBrightness
  let color : Call :=
    .colorStore powerLed (echo (colorPower data))
  .blinkTypeStore powerLed (echo (blinkTypePower data)) ::
    if deferred then [color, brightness] else [brightness, color]

/-- The settings of the power LED in place of those of a configuration. -/
def withPower (config : ConfigData) : ConfigData :=
  match data.powerMode with
  | .on =>
      { config with powerMode := .on }
  | mode =>
      { config with
        powerMode := mode
        powerOnMs := data.powerOnMs
        powerOffMs := data.powerOffMs }

/-- The daemon reads the three values as the settings they spell. -/
structure PowerRead (config : ConfigData) : Prop where
  blinkType :
    applyKey config (blinkTypePower data) .blinkTypePower =
      (.ok (), withPower data config)
  brightness :
    applyKey config (brightnessPower data) .brightnessPower =
      (.ok (), { config with powerBrightness := data.powerBrightness })
  color :
    applyKey config (colorPower data) .colorPower =
      (.ok (), { config with powerColor := data.powerColor })

end Texts

section Read

/-- A number is read behind a blank. -/
theorem reads_decimal_behind_blank
    (number : Nat)
    {rest : List UInt8}
    (stops : ∀ byte ∈ rest.head?, CString.isDigit byte = false) :
    Reads (32 :: (CString.decimal number ++ rest)) (.ofNat number)
      rest := by
  refine ⟨⟨[32], ?_, rfl⟩, stops⟩
  intro byte member
  rw [List.mem_singleton.mp member]
  rfl

/-- The last number is read behind a blank. -/
theorem reads_last_decimal (number : Nat) :
    Reads (32 :: CString.decimal number) (.ofNat number) [] := by
  have reads :
      Reads (32 :: (CString.decimal number ++ [])) (.ofNat number) [] :=
    reads_decimal_behind_blank number fun _ member => by cases member
  rwa [List.append_nil] at reads

/-- A mode and two delays are read as such. -/
theorem parsePowerMode_of_delays
    {mode : PowerMode}
    {word : List UInt8}
    (named : CycleWord mode word)
    {config : ConfigData}
    {on off : UInt32}
    (cycle : on.toNat + off.toNat ≤ 65535) :
    parsePowerMode
        (word ++
          (32 :: (CString.decimal on.toNat ++
            (32 :: CString.decimal off.toNat))))
        config =
      (.ok (),
        { config with
          powerMode := mode
          powerOnMs := on
          powerOffMs := off }) := by
  have readsWord :
      ReadsWord
        (word ++
          (32 :: (CString.decimal on.toNat ++
            (32 :: CString.decimal off.toNat))))
        word
        (32 :: (CString.decimal on.toNat ++
          (32 :: CString.decimal off.toNat))) := by
    refine ⟨⟨[], by simp, rfl⟩, ?_, ?_, ?_⟩
    · cases named <;> simp [ascii]
    · cases named <;> exact CString.forall_mem_of_all rfl
    · intro byte member
      cases member
      rfl
  have reading :
      CycleReading _ word (.ofNat on.toNat) (.ofNat off.toNat) :=
    .intro readsWord
      (reads_decimal_behind_blank on.toNat (CString.head_stops rfl _))
      (reads_last_decimal off.toNat)
      fun _ member => by cases member
  have storedOn := CString.Numeral.stored_ofNat on.toNat_lt
  have storedOff := CString.Numeral.stored_ofNat off.toNat_lt
  rw [UInt32.ofNat_toNat] at storedOn storedOff
  have inRange :
      (CString.Numeral.ofNat on.toNat).stored.toNat +
        (CString.Numeral.ofNat off.toNat).stored.toNat ≤ 65535 := by
    rw [storedOn, storedOff]
    exact cycle
  rw [parsePowerMode_of_cycle named reading inRange, storedOn, storedOff]

/-- A byte is read from its digits. -/
theorem parseUnsigned_decimal
    {value : UInt32}
    (small : value ≤ 255) :
    parseUnsigned (CString.decimal value.toNat) 0 255 = .ok value := by
  have reads :
      Reads (CString.decimal value.toNat ++ []) (.ofNat value.toNat) [] :=
    CString.reads_decimal value.toNat fun _ member => by cases member
  rw [List.append_nil] at reads
  have stored := CString.Numeral.stored_ofNat value.toNat_lt
  rw [UInt32.ofNat_toNat] at stored
  have below : value.toNat ≤ 255 := UInt32.le_iff_toNat_le.mp small
  have fits : ¬ (CString.Numeral.ofNat value.toNat).Overlong := by
    rw [CString.Numeral.not_overlong_iff, CString.Numeral.value_ofNat]
    omega
  have word :
      (CString.Numeral.ofNat value.toNat).word.toNat = value.toNat := by
    have same := (CString.Numeral.ofNat value.toNat).word_toNat fits
    rw [CString.Numeral.value_ofNat] at same
    omega
  refine parseUnsigned_ok_iff.mpr ⟨_, reads, fits, ?_, ?_, stored⟩
  · exact Nat.zero_le _
  · rw [word]
    exact below

/-- A colour is read from the digits of its three bytes. -/
theorem parseRgb_decimals (rgb : Rgb) :
    parseRgb
        (CString.decimal rgb.r.toNat ++
          (32 :: (CString.decimal rgb.g.toNat ++
            (32 :: CString.decimal rgb.b.toNat)))) =
      .ok rgb := by
  have stored :
      ∀ byte : UInt8,
        (CString.Numeral.ofNat byte.toNat).stored = byte.toUInt32 := by
    intro byte
    have small := byte.toNat_lt
    rw [CString.Numeral.stored_ofNat (by omega)]
    exact UInt32.toNat_inj.mp (by simp)
  refine parseRgb_ok_iff.mpr
    ⟨.ofNat rgb.r.toNat, .ofNat rgb.g.toNat, .ofNat rgb.b.toNat,
      .blanks (CString.reads_decimal _ (CString.head_stops rfl _))
        (reads_decimal_behind_blank _ (CString.head_stops rfl _))
        (reads_last_decimal _), ?_⟩
  have small : ∀ byte : UInt8, byte.toUInt32.toNat ≤ 255 := by
    intro byte
    have below := byte.toNat_lt
    rw [UInt8.toNat_toUInt32]
    omega
  simp only [stored, UInt8.toUInt8_toUInt32]
  exact ⟨small _, small _, small _, trivial⟩

/-- The daemon reads the three values as the settings they spell. -/
theorem powerRead
    {data : ConfigData}
    (inRange : data.InRange)
    (config : ConfigData) :
    PowerRead data config where
  blinkType := by
    have cycle := inRange.powerCycle
    simp only [applyKey, blinkTypePower, withPower]
    cases data.powerMode with
    | on =>
        rfl
    | blink =>
        exact parsePowerMode_of_delays .blink cycle
    | breath =>
        exact parsePowerMode_of_delays .breath cycle
  brightness := by
    simp only [applyKey, brightnessPower,
      parseUnsigned_decimal inRange.powerBrightness, storeParsed]
  color := by
    simp only [applyKey, colorPower, parseRgb_decimals, storeParsed]

end Read

section Requests

variable (data : ConfigData)

/-- What `blink_type_store` asks for when it is given the mode. -/
def modeRequest : Request :=
  match data.powerMode with
  | .on =>
      .on
  | .blink =>
      Call.periodicRequest data.powerOnMs.toUInt64
        data.powerOffMs.toUInt64 true
  | .breath =>
      Call.periodicRequest data.powerOnMs.toUInt64
        data.powerOffMs.toUInt64 false

/-- The driver reads a mode and two delays. -/
theorem request?_of_delayText
    {led : LedIndex}
    {buf : List UInt8}
    {delayOn delayOff : UInt64}
    {isBlink : Bool}
    (accepted :
      KernelDriver.DelayText buf delayOn delayOff isBlink) :
    (Call.blinkTypeStore led buf).request? =
      some (Call.periodicRequest delayOn delayOff isBlink) := by
  obtain ⟨nrchars, scanned, fits⟩ := accepted
  simp only [Call.request?, scanned, fits, if_false]

/-- The requests of `ugreen-power-led`. -/
def powerRequestsOf (deferred : Bool) : List Request :=
  modeRequest data ::
    if deferred then
      [.color data.powerColor, .brightness data.powerBrightness]
    else
      [.brightness data.powerBrightness, .color data.powerColor]

/-- The texts that `ugreen-power-led` writes make its requests. -/
theorem requests_ugreenPowerLed (deferred : Bool) :
    (ugreenPowerLed data deferred).filterMap
        (Call.requestOf? powerLed) =
      powerRequestsOf data deferred := by
  have mode :
      (Call.blinkTypeStore powerLed
          (echo (blinkTypePower data))).request? =
        some (modeRequest data) := by
    have delays :
        ∀ isBlink,
          ascii (if isBlink then "blink" else "breath") ++
              (32 :: (CString.decimal data.powerOnMs.toNat ++
                (32 :: CString.decimal data.powerOffMs.toNat))) ++
              [10] =
            KernelDriver.delayText isBlink data.powerOnMs.toUInt64
              data.powerOffMs.toUInt64 := by
      intro isBlink
      simp [KernelDriver.delayText, KernelDriver.decimal_natCast]
    simp only [echo, blinkTypePower, modeRequest]
    cases data.powerMode with
    | on =>
        rfl
    | blink =>
        simp only
        rw [← request?_of_delayText
          (KernelDriver.delayText_accepted true _ _), ← delays]
        rfl
    | breath =>
        simp only
        rw [← request?_of_delayText
          (KernelDriver.delayText_accepted false _ _), ← delays]
        rfl
  have color :
      (Call.colorStore powerLed (echo (colorPower data))).request? =
        some (.color data.powerColor) := by
    have written :
        echo (colorPower data) =
          KernelDriver.rgbText data.powerColor := by
      simp [echo, colorPower, KernelDriver.rgbText,
        KernelDriver.decimal_natCast, ascii]
    obtain ⟨nrchars, scanned, fits⟩ :=
      KernelDriver.colorText_rgbText data.powerColor
    rw [written]
    simp only [Call.request?, scanned, fits, if_false]
  have first :
      Call.requestOf? powerLed
          (.blinkTypeStore powerLed (echo (blinkTypePower data))) =
        some (modeRequest data) :=
    (if_pos rfl).trans mode
  have second :
      Call.requestOf? powerLed
          (.setBrightnessBlocking powerLed data.powerBrightness) =
        some (.brightness data.powerBrightness) :=
    if_pos rfl
  have third :
      Call.requestOf? powerLed
          (.colorStore powerLed (echo (colorPower data))) =
        some (.color data.powerColor) :=
    (if_pos rfl).trans color
  rw [ugreenPowerLed, powerRequestsOf, List.filterMap_cons_some first]
  cases deferred <;>
    simp [second, third]

end Requests

section Looks

/-- What an LED looks like: nothing can be told about a dark one. -/
def look (registers : LedRegisters) : Option (Display × UInt8 × Rgb) :=
  if registers .display = Display.off ∨
      registers .brightness = (0 : UInt8) ∨
      registers .color = black then
    none
  else
    some
      (registers .display, registers .brightness, registers .color)

variable (data : ConfigData)

/-- The display that `ugreen-power-led` asks the driver for. -/
def drivenDisplay : Display :=
  match data.powerMode with
  | .on =>
      .on
  | .blink =>
      .blink (clampDelay data.powerOnMs.toNat)
        (clampDelay data.powerOnMs.toNat +
          clampDelay data.powerOffMs.toNat)
  | .breath =>
      .breath (clampDelay data.powerOnMs.toNat)
        (clampDelay data.powerOnMs.toNat +
          clampDelay data.powerOffMs.toNat)

/-- The display that the daemon asks the MCU for. -/
def appliedDisplay : Display :=
  match data.powerMode with
  | .on =>
      .on
  | .blink =>
      .blink data.powerOnMs.toNat
        (data.powerOnMs.toNat + data.powerOffMs.toNat)
  | .breath =>
      .breath data.powerOnMs.toNat
        (data.powerOnMs.toNat + data.powerOffMs.toNat)

/--
The look of an LED with a display, and the configured brightness and colour.
-/
def configuredLook (display : Display) :
    Option (Display × UInt8 × Rgb) :=
  if data.powerBrightness = 0 ∨ data.powerColor = black then
    none
  else
    some (display, data.powerBrightness.toUInt8, data.powerColor)

/-- The mode is asked for with the delays that the driver has clamped. -/
theorem effect_modeRequest (registers : LedRegisters) :
    (modeRequest data).effect registers =
      Function.update registers .display (drivenDisplay data) := by
  simp only [modeRequest, drivenDisplay]
  cases data.powerMode with
  | on =>
      rfl
  | blink | breath =>
      simp only [Request.effect, Call.periodicRequest,
        KernelDriver.tOn_toNat, KernelDriver.tCycle_toNat,
        UInt32.toNat_toUInt64]
      rfl

omit data in
/-- A brightness other than zero is one in the byte that is sent. -/
theorem brightness_ne_zero
    {data : ConfigData}
    (inRange : data.InRange)
    (lit : data.powerBrightness ≠ 0) :
    data.powerBrightness.toUInt8 ≠ 0 := by
  have small :=
    UInt32.le_iff_toNat_le.mp inRange.powerBrightness
  change data.powerBrightness.toNat ≤ 255 at small
  intro isZero
  have zero := congrArg UInt8.toNat isZero
  rw [UInt32.toNat_toUInt8] at zero
  change data.powerBrightness.toNat % 256 = 0 at zero
  exact lit (UInt32.toNat_inj.mp (by simp; omega))

/--
What the driver makes the power LED look like, whatever it showed before.  Black
is a request to switch the LED off, which a brightness that follows takes back.
-/
theorem look_driven
    (inRange : data.InRange)
    {deferred : Bool}
    (settled : deferred = true → data.powerColor ≠ black)
    (registers : LedRegisters) :
    look ((powerRequestsOf data deferred).foldl Request.effect
        registers) =
      configuredLook data (drivenDisplay data) := by
  have lit : drivenDisplay data ≠ Display.off := by
    rw [drivenDisplay]
    cases data.powerMode <;> simp
  rw [powerRequestsOf, List.foldl_cons, effect_modeRequest]
  by_cases dark : data.powerBrightness = 0
  · by_cases isBlack : data.powerColor = black <;>
      cases deferred <;>
        simp [configuredLook, look, Request.effect, dark, isBlack]
  · have visible : data.powerBrightness.toUInt8 ≠ 0 :=
      brightness_ne_zero inRange dark
    by_cases isBlack : data.powerColor = black
    · cases deferred with
      | true =>
          exact absurd isBlack (settled rfl)
      | false =>
          simp [configuredLook, look, Request.effect, dark, isBlack]
    · cases deferred <;>
        simp [configuredLook, look, Request.effect, dark, isBlack, lit,
          visible]

/-- What the daemon makes the power LED look like. -/
theorem look_applied
    (inRange : data.InRange)
    {registers : LedRegisters}
    (holds : ShadowedRegister.Holds registers (powerPicture data)) :
    look registers = configuredLook data (appliedDisplay data) := by
  have color : registers .color = data.powerColor :=
    holds .color data.powerColor rfl
  have brightness :
      registers .brightness = data.powerBrightness.toUInt8 :=
    holds .brightness data.powerBrightness.toUInt8 rfl
  have display : registers .display = appliedDisplay data :=
    holds .display (appliedDisplay data) rfl
  have lit : appliedDisplay data ≠ Display.off := by
    rw [appliedDisplay]
    cases data.powerMode <;> simp
  by_cases dark : data.powerBrightness = 0
  · simp [look, configuredLook, brightness, dark]
  · have visible := brightness_ne_zero inRange dark
    simp [look, configuredLook, color, brightness, display, dark, lit,
      visible]

/-- The driver leaves these delays as they are. -/
def InDriverRange (delay : UInt32) : Prop :=
  100 ≤ delay.toNat ∧ delay.toNat ≤ 0x7fff

omit data in
theorem clampDelay_eq_iff (delay : UInt32) :
    clampDelay delay.toNat = delay.toNat ↔ InDriverRange delay := by
  simp only [clampDelay, InDriverRange]
  omega

/-- Both ask for the same display of a steady LED, and of delays in the range. -/
theorem appliedDisplay_eq_iff :
    appliedDisplay data = drivenDisplay data ↔
      data.powerMode = .on ∨
        InDriverRange data.powerOnMs ∧
          InDriverRange data.powerOffMs := by
  have on := clampDelay_eq_iff data.powerOnMs
  have off := clampDelay_eq_iff data.powerOffMs
  cases mode : data.powerMode with
  | on =>
      simp [drivenDisplay, appliedDisplay, mode]
  | blink | breath =>
      simp only [drivenDisplay, appliedDisplay, mode, Display.blink.injEq,
        Display.breath.injEq, reduceCtorEq, false_or, ← on, ← off]
      omega

/-- A dark LED looks the same whatever its display. -/
theorem configuredLook_eq_iff (display other : Display) :
    configuredLook data display = configuredLook data other ↔
      data.powerBrightness = 0 ∨ data.powerColor = black ∨
        display = other := by
  rw [configuredLook, configuredLook]
  split
  · rename_i dark
    grind
  · rename_i lit
    rw [not_or] at lit
    simp [lit.1, lit.2]

end Looks

/--
The daemon reads the values of `ugreen-power-led` as the settings they spell.
When both have configured the power LED, with all commands to it going through, it
looks the same, whatever either LED showed before and whatever the driver was
asked for until then, exactly if the LED is dark, is steady, or has both delays in
the driver's range.
-/
theorem powerFrontEnds_agree_iff
    {data : ConfigData}
    (accepted : data.Accepted)
    (enabled : data.powerEnabled = true)
    {script : Script}
    (reliable : Reliable (script powerLed))
    (daemonMcu : LedIndex → McuLed)
    {driverScript : Script}
    (through : AlwaysThrough (driverScript powerLed))
    {replies : LedIndex → Nat → Except Errno (List UInt8)}
    {mcu : LedIndex → McuLed}
    (isRegistered :
      registered (probe driverScript replies mcu) powerLed = true)
    (read : ReadCorrectly replies mcu powerLed)
    {deferred : Bool}
    (settled : deferred = true → data.powerColor ≠ black)
    {calls : List Call}
    {after : LedArray}
    (ran :
      PartialRun.run?
        (KernelDriver.step driverScript
          (registered (probe driverScript replies mcu)))
        (probe driverScript replies mcu)
        (calls ++ ugreenPowerLed data deferred) =
          some after) :
    (∀ config, PowerRead data config) ∧
      (look
          ((App.applyPower script (.initial daemonMcu) data).2.bus.mcu
            powerLed).registers =
          look (after.bus.mcu powerLed).registers ↔
        data.powerBrightness = 0 ∨ data.powerColor = black ∨
          data.powerMode = .on ∨
          InDriverRange data.powerOnMs ∧
            InDriverRange data.powerOffMs) := by
  have inRange := accepted.inRange
  have driven :
      look (after.bus.mcu powerLed).registers =
        configuredLook data (drivenDisplay data) := by
    obtain ⟨follows, -⟩ :=
      KernelDriver.probe_registers through isRegistered read
    obtain ⟨-, replayed⟩ := KernelDriver.run_registers through follows ran
    rw [replayed, List.filterMap_append, requests_ugreenPowerLed,
      List.foldl_append]
    exact look_driven data inRange settled _
  have applied :
      look
          ((App.applyPower script (.initial daemonMcu) data).2.bus.mcu
            powerLed).registers =
        configuredLook data (appliedDisplay data) := by
    have displays :=
      applyPower_displays (.initial daemonMcu) accepted enabled reliable
        (LedController.Slice.coherent_of_zero rfl)
    exact look_applied data inRange displays.holds
  refine ⟨powerRead inRange, ?_⟩
  rw [driven, applied, configuredLook_eq_iff,
    appliedDisplay_eq_iff]

/-- A blink that is shorter than the driver lets one be. -/
def shortBlink : ConfigData :=
  { ConfigData.defaults with
    powerMode := .blink
    powerOnMs := 50
    powerOffMs := 500 }

theorem shortBlink_accepted : shortBlink.Accepted where
  inRange :=
    { App.defaults_accepted.inRange with
      powerCycle := by decide }
  diskPulse_lt := by decide
  enabled := Or.inl rfl

/-- The driver makes a short blink longer. -/
theorem powerFrontEnds_agree_iff_of_shortBlink :
    ∃ after,
      PartialRun.run?
          (KernelDriver.step KernelDriver.retryingScript
            (registered
              (probe KernelDriver.retryingScript
                KernelDriver.steadyReplies KernelDriver.steadyMcu)))
          (probe KernelDriver.retryingScript KernelDriver.steadyReplies
            KernelDriver.steadyMcu)
          (KernelDriver.blinkThenSteady ++
            ugreenPowerLed shortBlink true) =
        some after ∧
      look
          ((App.applyPower LedController.retriedScript
              (.initial KernelDriver.steadyMcu)
              shortBlink).2.bus.mcu powerLed).registers ≠
        look (after.bus.mcu powerLed).registers := by
  have through :
      AlwaysThrough (KernelDriver.retryingScript powerLed) :=
    fun _ => ⟨2, by decide, rfl, rfl⟩
  have read :
      ReadCorrectly KernelDriver.steadyReplies KernelDriver.steadyMcu
        powerLed :=
    rfl
  have settled : true = true → shortBlink.powerColor ≠ black := by
    decide
  obtain ⟨after, ran⟩ :
      ∃ after,
        PartialRun.run?
            (KernelDriver.step KernelDriver.retryingScript
              (registered
                (probe KernelDriver.retryingScript
                  KernelDriver.steadyReplies KernelDriver.steadyMcu)))
            (probe KernelDriver.retryingScript
              KernelDriver.steadyReplies KernelDriver.steadyMcu)
            (KernelDriver.blinkThenSteady ++
              ugreenPowerLed shortBlink true) =
          some after :=
    ⟨_, rfl⟩
  refine ⟨after, ran, ?_⟩
  obtain ⟨-, agree⟩ :=
    powerFrontEnds_agree_iff shortBlink_accepted rfl
      (App.retriedScript_reliable powerLed) KernelDriver.steadyMcu
      through rfl read settled ran
  rw [ne_eq, agree, InDriverRange, InDriverRange]
  decide

end UgreenLeds
