import UgreenLeds.LedPictures
import UgreenLeds.NetworkLedStranding

/-!
# What the network LED shows

Between two pulses the network LED is dark; during a pulse it is lit in the colour
of the direction that the scheduler has picked last.  Every callback of the
network policy keeps this up as long as its LED is reliable, also when the pulse's
timer cannot be armed.
-/

namespace UgreenLeds

namespace PulseScheduler

/-- The direction that is picked for a call that follows some others. -/
def pickAfter
    (Credit : Type)
    [NatCast Credit] [Add Credit] [Sub Credit] [Div Credit]
    [LE Credit] [DecidableLE Credit]
    (earlier : List Call)
    (call : Call) : Bool :=
  ((zero.afterCalls earlier : PulseScheduler Credit).chooseRx call.1
    call.2).1

variable
  {Credit : Type}
  [NatCast Credit] [Add Credit] [Sub Credit] [Div Credit]
  [LE Credit] [DecidableLE Credit]

/-- One more call after some others. -/
theorem afterCalls_concat
    (scheduler : PulseScheduler Credit)
    (earlier : List Call)
    (call : Call) :
    scheduler.afterCalls (earlier ++ [call]) =
      ((scheduler.afterCalls earlier).chooseRx call.1 call.2).2 := by
  simp [afterCalls]

end PulseScheduler

namespace NetworkLed

open LedController (Slice)

section Pictures

variable {Credit : Type}

/-- What the network LED shows while its policy takes it to be dark. -/
def darkPicture (config : Config) : Picture
  | .color =>
      none
  | .brightness =>
      some config.networkBrightness.toUInt8
  | .display =>
      some .off

/-- What the network LED shows during a pulse. -/
def pulsePicture
    (config : Config)
    (rx : Bool) : Picture
  | .color =>
      some (if rx then config.networkRxColor else config.networkTxColor)
  | .brightness =>
      some config.networkBrightness.toUInt8
  | .display =>
      some .on

/-- The requests of a pulse paint it over a dark LED. -/
theorem paintAll_pulse
    (config : Config)
    (rx : Bool) :
    LedController.paintAll (darkPicture config)
        [.color (if rx then config.networkRxColor else config.networkTxColor),
          .onOff true] =
      pulsePicture config rx := by
  funext register
  cases register <;>
    simp [LedController.paintAll, LedController.Request.paint,
      LedController.Request.command, Command.register, Command.value,
      darkPicture, pulsePicture, Function.update]

/-- Switching off a pulse leaves a dark LED. -/
theorem displays_dark
    {led : Slice}
    {config : Config}
    {picture : Picture}
    (dims : picture .brightness = some config.networkBrightness.toUInt8)
    (displays :
      led.Displays
        ((LedController.Request.onOff false).paint picture)) :
    led.Displays (darkPicture config) := by
  refine ⟨displays.coherent, displays.holds.weaken ?_⟩
  intro register value said
  cases register with
  | color =>
      cases said
  | brightness =>
      rw [← said]
      exact dims
  | display =>
      rw [← said]
      rfl

end Pictures

section Displayed

variable
  {Credit : Type}
  [NatCast Credit] [Add Credit] [Sub Credit] [Div Credit]
  [LE Credit] [DecidableLE Credit]

/--
The scheduler's state comes from the calls made so far, and a reliable LED shows
the pulse that was picked last, or is dark.
-/
structure Displayed
    (script : Script)
    (network : NetworkLed Credit) : Prop where
  replayed :
    network.scheduler = PulseScheduler.zero.afterCalls network.scheduled
  dark :
    Reliable (script networkLed) →
    network.ledOn = false →
    network.led.Displays (darkPicture network.config)
  lit :
    Reliable (script networkLed) →
    network.ledOn = true →
    ∃ earlier call,
      network.scheduled = earlier ++ [call] ∧
        network.led.Displays
          (pulsePicture network.config
            (PulseScheduler.pickAfter Credit earlier call))

variable
  {script : Script}
  {network : NetworkLed Credit}

/-- The LED shows the configured brightness, whether it is lit or not. -/
theorem Displayed.switchOff
    (displayed : network.Displayed script)
    (reliable : Reliable (script networkLed)) :
    ∃ after,
      network.controller.setOn script ledNetwork false =
          (.ok (), after) ∧
        (after.slice networkLed).Displays
          (darkPicture network.config) := by
  have fits : (LedController.Request.onOff false).Fits := trivial
  cases isLit : network.ledOn with
  | true =>
      obtain ⟨earlier, call, -, shown⟩ := displayed.lit reliable isLit
      obtain ⟨after, sent, painted⟩ :=
        LedController.set_displays ledIndex?_ledNetwork reliable shown
          fits
      exact ⟨after, sent, displays_dark rfl painted⟩
  | false =>
      obtain ⟨after, sent, painted⟩ :=
        LedController.set_displays ledIndex?_ledNetwork reliable
          (displayed.dark reliable isLit) fits
      exact ⟨after, sent, displays_dark rfl painted⟩

/-- Samples change nothing that is shown. -/
theorem Displayed.addSample
    (displayed : network.Displayed script)
    (rxBytes txBytes : UInt64) :
    (network.addSample rxBytes txBytes).Displayed script :=
  ⟨displayed.replayed, displayed.dark, displayed.lit⟩

/-- The timer has no part in what is shown. -/
theorem Displayed.timer
    (displayed : network.Displayed script)
    (timer : Timerfd) :
    ({ network with timer } : NetworkLed Credit).Displayed script :=
  ⟨displayed.replayed, displayed.dark, displayed.lit⟩

/-- Taking what is pending makes the call that is recorded. -/
theorem takePending_replayed
    (replayed :
      network.scheduler =
        PulseScheduler.zero.afterCalls network.scheduled) :
    network.takePending.scheduler =
      PulseScheduler.zero.afterCalls network.takePending.scheduled := by
  simp only [takePending]
  rw [PulseScheduler.afterCalls_concat, ← replayed]

/-- The colour of a pulse is that of the direction picked for its call. -/
theorem pulseColor_eq
    (replayed :
      network.scheduler =
        PulseScheduler.zero.afterCalls network.scheduled) :
    network.pulseColor =
      if PulseScheduler.pickAfter Credit network.scheduled
          (network.pendingRxBytes, network.pendingTxBytes) then
        network.config.networkRxColor
      else
        network.config.networkTxColor := by
  rw [PulseScheduler.pickAfter, ← replayed]
  rfl

/-- A render shows a new pulse, or keeps up what is shown. -/
theorem Displayed.render
    (displayed : network.Displayed script)
    (settime : Option Errno) :
    (network.render script settime).2.Displayed script := by
  rcases render_cases script network settime with
      ⟨unchanged, -⟩ | ⟨dark, -, outcome⟩
  · rw [unchanged]
    exact displayed
  · have replayed := takePending_replayed displayed.replayed
    have starts :
        Reliable (script networkLed) →
        ∃ after,
          startPulse script network.controller network.pulseColor =
              (.ok (), after) ∧
            (after.slice networkLed).Displays
              (pulsePicture network.config
                (PulseScheduler.pickAfter Credit network.scheduled
                  (network.pendingRxBytes,
                    network.pendingTxBytes))) := by
      intro reliable
      obtain ⟨after, sent, painted⟩ :=
        LedController.setAll_displays ledIndex?_ledNetwork reliable
          (displayed.dark reliable dark)
          (show
            ∀ request ∈
              [LedController.Request.color network.pulseColor,
                .onOff true],
              request.Fits by
            simp [LedController.Request.Fits])
      rw [pulseColor_eq displayed.replayed, paintAll_pulse] at painted
      rw [startPulse_eq]
      exact ⟨after, sent, painted⟩
    rcases outcome with
        ⟨error, controller, started, dropped⟩ |
          ⟨controller, started, -, lights⟩ |
          ⟨error, controller, started, -, failed⟩
    · rw [dropped]
      refine ⟨replayed, ?_, ?_⟩
      · intro reliable _
        obtain ⟨after, sent, -⟩ := starts reliable
        rw [started] at sent
        cases sent
      · intro _ isLit
        cases isLit
    · rw [lights]
      refine ⟨replayed, ?_, ?_⟩
      · intro _ isDark
        cases isDark
      · intro reliable _
        obtain ⟨after, sent, shown⟩ := starts reliable
        rw [started] at sent
        cases sent
        exact ⟨network.scheduled, _, rfl, shown⟩
    · rw [failed]
      refine ⟨replayed, ?_, ?_⟩
      · intro reliable _
        obtain ⟨after, sent, shown⟩ := starts reliable
        rw [started] at sent
        cases sent
        have fits : (LedController.Request.onOff false).Fits := trivial
        obtain ⟨switched, off, painted⟩ :=
          LedController.set_displays ledIndex?_ledNetwork reliable
            shown fits
        have isOff :
            (controller.setOn script ledNetwork false).2 = switched :=
          congrArg Prod.snd off
        simp only [led, isOff]
        exact displays_dark rfl painted
      · intro _ isLit
        cases isLit

/-- The end of a pulse leaves a dark LED. -/
theorem Displayed.finishPulse
    (displayed : network.Displayed script) :
    (network.finishPulse script).Displayed script := by
  simp only [NetworkLed.finishPulse]
  split
  · rename_i error controller failed
    refine ⟨displayed.replayed, ?_, ?_⟩
    · intro reliable _
      obtain ⟨after, sent, -⟩ := displayed.switchOff reliable
      rw [failed] at sent
      cases sent
    · intro _ isLit
      cases isLit
  · rename_i controller switched
    refine ⟨displayed.replayed, ?_, ?_⟩
    · intro reliable _
      obtain ⟨after, sent, shown⟩ := displayed.switchOff reliable
      rw [switched] at sent
      cases sent
      exact shown
    · intro _ isLit
      cases isLit

/-- The timer's callback ends a pulse, and may show the next one. -/
theorem Displayed.handleTimer
    (displayed : network.Displayed script)
    (read settime : Option Errno) :
    (network.handleTimer script read settime).2.Displayed script := by
  rcases handleTimer_cases script network read settime with
      ⟨error, -, -, failed⟩ |
        ⟨-, timer, ⟨-, unchanged⟩ | ⟨-, finished⟩⟩
  · rw [failed]
    exact displayed
  · rw [unchanged]
    exact displayed.timer timer
  · rw [finished]
    exact (displayed.timer timer).finishPulse.render settime

/-- A render leaves the configuration alone. -/
theorem render_config
    (script : Script)
    (network : NetworkLed Credit)
    (settime : Option Errno) :
    (network.render script settime).2.config = network.config := by
  rcases render_cases script network settime with
      ⟨unchanged, -⟩ |
        ⟨-, -, ⟨error, controller, -, after⟩ |
          ⟨controller, -, -, after⟩ | ⟨error, controller, -, -, after⟩⟩
  · rw [unchanged]
  all_goals
    rw [after]
    rfl

/-- So does the timer's callback. -/
theorem handleTimer_config
    (script : Script)
    (network : NetworkLed Credit)
    (read settime : Option Errno) :
    (network.handleTimer script read settime).2.config =
      network.config := by
  rcases handleTimer_cases script network read settime with
      ⟨error, -, -, failed⟩ |
        ⟨-, timer, ⟨-, unchanged⟩ | ⟨-, finished⟩⟩
  · rw [failed]
  · rw [unchanged]
  · rw [finished, render_config]
    simp only [NetworkLed.finishPulse]
    split <;> rfl

/-- A policy that is initialized finds its LED dark. -/
theorem init_displayed
    (controller : LedController)
    (config : Config)
    (coherent :
      Reliable (script networkLed) →
        (controller.slice networkLed).Coherent) :
    (init script controller config :
      Status × NetworkLed Credit).2.Displayed script := by
  have unlit :
      (init script controller config :
        Status × NetworkLed Credit).2.ledOn = false := by
    simp only [init]
    split <;> rfl
  refine ⟨?_, ?_, ?_⟩
  · simp only [init]
    split <;> rfl
  · intro reliable _
    obtain ⟨dimmed, first, dims⟩ :=
      LedController.set_displays ledIndex?_ledNetwork reliable
        (coherent reliable).displays
        (show
          (LedController.Request.brightness
            config.networkBrightness.toUInt8).Fits from trivial)
    obtain ⟨after, second, darkens⟩ :=
      LedController.set_displays ledIndex?_ledNetwork reliable dims
        (show (LedController.Request.onOff false).Fits from trivial)
    change controller.setBrightness script ledNetwork _ = _ at first
    change dimmed.setOn script ledNetwork false = _ at second
    simp only [init, first, second]
    exact displays_dark rfl darkens
  · intro _ lit
    rw [unlit] at lit
    cases lit

/-- What the network LED shows, as its policy sees it. -/
def picture (network : NetworkLed Credit) : Picture :=
  match network.ledOn, network.scheduled.getLast? with
  | true, some call =>
      pulsePicture network.config
        (PulseScheduler.pickAfter Credit network.scheduled.dropLast call)
  | _, _ =>
      darkPicture network.config

/-- A reliable LED shows what its policy takes it to show. -/
theorem Displayed.displays
    (displayed : network.Displayed script)
    (reliable : Reliable (script networkLed)) :
    network.led.Displays network.picture := by
  cases isLit : network.ledOn with
  | true =>
      obtain ⟨earlier, call, scheduled, shown⟩ :=
        displayed.lit reliable isLit
      simpa [picture, isLit, scheduled] using shown
  | false =>
      simpa [picture, isLit] using displayed.dark reliable isLit

/-- `network_led_cleanup` leaves a reliable LED dark. -/
theorem Displayed.cleanup
    (displayed : network.Displayed script)
    (reliable : Reliable (script networkLed)) :
    (network.cleanup script).led.Displays
      (darkPicture network.config) := by
  obtain ⟨after, sent, shown⟩ := displayed.switchOff reliable
  have isAfter :
      (network.controller.setOn script ledNetwork false).2 = after :=
    congrArg Prod.snd sent
  simp only [led, NetworkLed.cleanup, isAfter]
  exact shown

end Displayed

end NetworkLed

end UgreenLeds
