import UgreenLeds.LedControllerDelivery
import UgreenLeds.NetworkLedPulse

/-!
# When the network LED is not stranded

While the policy's flag says that the LED is off, the LED should be dark.  The
policy clears the flag whether or not its commands arrived and then never looks
at the LED again before traffic comes, so it keeps this up exactly as long as
they do.  The last theorem replays the run in which the command that starts a
pulse is executed but never acknowledged.
-/

namespace UgreenLeds

/-- The LED of the network policy. -/
def networkLed : LedIndex :=
  ⟨1, by decide⟩

/-- The policy's identifier denotes its LED. -/
theorem ledIndex?_ledNetwork : ledIndex? ledNetwork = some networkLed :=
  rfl

namespace LedController

namespace Line

/-- The commands that start a pulse of a colour go through. -/
def Lights
    (exchanges : Nat → Exchange)
    (line : Line)
    (color : Rgb) : Prop :=
  line.Acks exchanges (.color color) ∧
    (line.acked (.color color)).Acks exchanges (.onOff true)

/--
Starting a pulse cannot leave the LED lit behind the policy's back: a command
that switches the LED on is acknowledged or never executed, and when the timer
then fails the one that switches it off again reaches the MCU.
-/
def PulseSafe
    (exchanges : Nat → Exchange)
    (line : Line)
    (color : Rgb)
    (settime : Option Errno) : Prop :=
  line.Acks exchanges (.color color) →
    let colored := line.acked (.color color)
    (colored.Acks exchanges (.onOff true) →
        settime = none ∨
          (colored.acked (.onOff true)).Reaches exchanges
            (.onOff false)) ∧
      (¬ colored.Acks exchanges (.onOff true) →
        NeverApplied (exchanges colored.served) commandRetryCount)

/-- Starting a pulse is safe if every command goes through. -/
theorem PulseSafe.of_goesThrough
    {exchanges : Nat → Exchange}
    (through :
      ∀ position, GoesThrough (exchanges position) commandRetryCount)
    (line : Line)
    (color : Rgb)
    (settime : Option Errno) :
    line.PulseSafe exchanges color settime := by
  intro _
  constructor
  · exact fun _ => Or.inr (Or.inl (Or.inr (through _)))
  · exact fun fails => (fails (Or.inr (through _))).elim

end Line

namespace Slice

section Pulse

variable
  {exchanges : Nat → Exchange}
  (sleeps : SleepsOnlyInterrupted exchanges)
  {led : Slice}
  {color : Rgb}

include sleeps

/-- The commands of a pulse that go through leave the LED lit. -/
theorem pulse_of_lights
    (lights : led.line.Lights exchanges color) :
    ∃ after,
      led.setAll exchanges [.color color, .onOff true] =
          (.ok (), after) ∧
        after.line =
          (led.line.acked (.color color)).acked (.onOff true) := by
  obtain ⟨colored, colorSet, coloredLine⟩ :=
    set_of_acks sleeps lights.1
  have switches := lights.2
  rw [← coloredLine] at switches ⊢
  obtain ⟨switched, switchSet, switchedLine⟩ :=
    set_of_acks sleeps switches
  refine ⟨switched, ?_, switchedLine⟩
  simp only [setAll, colorSet, switchSet]

/-- A pulse that fails safely leaves the LED in the mode it had. -/
theorem pulse_of_not_lights
    {settime : Option Errno}
    (safe : led.line.PulseSafe exchanges color settime)
    (fails : ¬ led.line.Lights exchanges color) :
    ∃ error after,
      led.setAll exchanges [.color color, .onOff true] =
          (.error error, after) ∧
        after.device.status = led.device.status := by
  by_cases colors : led.line.Acks exchanges (.color color)
  · obtain ⟨colored, colorSet, coloredLine⟩ :=
      set_of_acks sleeps colors
    have sameStatus : colored.device.status = led.device.status := by
      rcases set_device_cases sleeps (.color color) led with
          unchanged | executed
      · rw [colorSet] at unchanged
        exact congrArg McuLed.status unchanged
      · rw [colorSet] at executed
        simp only at executed
        rw [executed]
        rfl
    have switchFails :
        ¬ colored.line.Acks exchanges (.onOff true) := by
      rw [coloredLine]
      exact fun switches => fails ⟨colors, switches⟩
    have unapplied := (safe colors).2
    simp only [← coloredLine] at unapplied
    obtain ⟨error, after, switchSet, -, -, kept⟩ :=
      set_of_not_acks sleeps switchFails
    refine ⟨error, after, ?_, ?_⟩
    · simp only [setAll, colorSet, switchSet]
    · rw [kept (unapplied switchFails)]
      exact sameStatus
  · obtain ⟨error, after, colorFails, -, moved, -⟩ :=
      set_of_not_acks sleeps colors
    refine ⟨error, after, ?_, ?_⟩
    · simp only [setAll, colorFails]
    · rcases moved with unchanged | executed
      · rw [unchanged]
      · rw [executed]
        rfl

/-- A request to go dark that reaches the MCU switches the LED off. -/
theorem dark_of_reaches
    (coherent : led.Coherent)
    (reaches : led.line.Reaches exchanges (.onOff false)) :
    (led.set exchanges (.onOff false)).2.device.status =
      statusOff := by
  have fits : (Request.onOff false).Fits := trivial
  refine set_attained_of_executes sleeps fits coherent ?_
  rcases reaches with (cached | goesThrough) | applied
  · exact Or.inl cached
  · exact
      Or.inr
        (executes_of_acknowledged exchanges
          ((acknowledged_iff sleeps led).mpr goesThrough))
  · exact Or.inr (executes_eq_true sleeps applied)

end Pulse

end Slice

end LedController

namespace NetworkLed

open LedController
  (Slice retriedScript retriedScript_goesThrough retriedScript_sleeps)

/-- The network LED's part of the controller. -/
def led
    {Credit : Type}
    (network : NetworkLed Credit) : Slice :=
  network.controller.slice networkLed

/-- The two commands of a pulse are a list of requests. -/
theorem startPulse_eq
    (script : Script)
    (controller : LedController)
    (color : Rgb) :
    startPulse script controller color =
      controller.setAll script ledNetwork
        [.color color, .onOff true] := by
  simp only [startPulse, LedController.setAll, LedController.set]
  rcases controller.setColor script ledNetwork color with
    ⟨error | done, colored⟩
  · rfl
  · simp only
    rcases colored.setOn script ledNetwork true with
      ⟨error | done, switched⟩ <;> rfl

/-- Starting a pulse is what `Slice.setAll` does to the network LED. -/
theorem startPulse_slice
    (script : Script)
    (controller : LedController)
    (color : Rgb) :
    ((startPulse script controller color).1,
        (startPulse script controller color).2.slice networkLed) =
      (controller.slice networkLed).setAll (script networkLed)
        [.color color, .onOff true] := by
  rw [startPulse_eq]
  refine
    LedController.setAll_slice script controller
      ledIndex?_ledNetwork ?_
  simp [LedController.Request.Fits]

/-- Switching the LED off is what `Slice.set` does to the network LED. -/
theorem switchOff_slice
    (script : Script)
    (controller : LedController) :
    ((controller.setOn script ledNetwork false).1,
        (controller.setOn script ledNetwork false).2.slice
          networkLed) =
      (controller.slice networkLed).set (script networkLed)
        (.onOff false) :=
  have fits : (LedController.Request.onOff false).Fits := trivial
  LedController.set_slice script controller ledIndex?_ledNetwork fits

section StartPulse

variable
  {script : Script}
  (sleeps : SleepsOnlyInterrupted (script networkLed))
  {controller after : LedController}
  {color : Rgb}

include sleeps

/-- Starting a pulse leaves a coherent cache. -/
theorem startPulse_coherent
    {status : Status}
    (pulse : startPulse script controller color = (status, after))
    (coherent : (controller.slice networkLed).Coherent) :
    (after.slice networkLed).Coherent := by
  have sent := startPulse_slice script controller color
  rw [pulse] at sent
  have stillCoherent :
      ((controller.slice networkLed).setAll (script networkLed)
        [.color color, .onOff true]).2.Coherent :=
    Slice.setAll_coherent sleeps
      (by simp [LedController.Request.Fits]) coherent
  rw [← sent] at stillCoherent
  exact stillCoherent

/-- A pulse that fails safely leaves the LED in the mode it had. -/
theorem startPulse_failed
    {error : Errno}
    (pulse : startPulse script controller color = (.error error, after))
    {settime : Option Errno}
    (safe :
      (controller.slice networkLed).line.PulseSafe (script networkLed)
        color settime) :
    ¬ (controller.slice networkLed).line.Lights (script networkLed)
          color ∧
      (after.slice networkLed).device.status =
        (controller.slice networkLed).device.status := by
  have sent := startPulse_slice script controller color
  rw [pulse] at sent
  have fails :
      ¬ (controller.slice networkLed).line.Lights (script networkLed)
          color := by
    intro lights
    obtain ⟨lit, through, -⟩ := Slice.pulse_of_lights sleeps lights
    rw [through] at sent
    cases sent
  obtain ⟨_, stopped, ends, sameStatus⟩ :=
    Slice.pulse_of_not_lights sleeps safe fails
  have sameSlice : after.slice networkLed = stopped :=
    congrArg Prod.snd (sent.trans ends)
  rw [sameSlice]
  exact ⟨fails, sameStatus⟩

/-- A pulse that succeeds has had both of its commands acknowledged. -/
theorem startPulse_lights
    (pulse : startPulse script controller color = (.ok (), after))
    {settime : Option Errno}
    (safe :
      (controller.slice networkLed).line.PulseSafe (script networkLed)
        color settime) :
    (controller.slice networkLed).line.Lights (script networkLed)
        color ∧
      (after.slice networkLed).line =
        ((controller.slice networkLed).line.acked
          (.color color)).acked (.onOff true) := by
  have sent := startPulse_slice script controller color
  rw [pulse] at sent
  by_cases lights :
      (controller.slice networkLed).line.Lights (script networkLed)
        color
  · obtain ⟨lit, through, sameLine⟩ :=
      Slice.pulse_of_lights sleeps lights
    have sameSlice : after.slice networkLed = lit :=
      congrArg Prod.snd (sent.trans through)
    rw [sameSlice]
    exact ⟨lights, sameLine⟩
  · obtain ⟨_, stopped, ends, -⟩ :=
      Slice.pulse_of_not_lights sleeps safe lights
    rw [ends] at sent
    cases sent

/-- Switching the LED off leaves a coherent cache. -/
theorem switchOff_coherent
    (coherent : (controller.slice networkLed).Coherent) :
    ((controller.setOn script ledNetwork false).2.slice
      networkLed).Coherent := by
  have fits : (LedController.Request.onOff false).Fits := trivial
  have switched := Slice.set_coherent sleeps fits coherent
  rw [← switchOff_slice script controller] at switched
  exact switched

/-- Switching the LED off leaves it dark if the command arrives. -/
theorem switchOff_dark
    (coherent : (controller.slice networkLed).Coherent)
    (reaches :
      (controller.slice networkLed).line.Reaches (script networkLed)
        (.onOff false)) :
    ((controller.setOn script ledNetwork false).2.slice
      networkLed).device.status = statusOff := by
  have dark := Slice.dark_of_reaches sleeps coherent reaches
  rw [← switchOff_slice script controller] at dark
  exact dark

end StartPulse

/-- The calls of the disk policy address other LEDs. -/
def Foreign : LedController.Call → Prop
  | .set ledId _ | .invalidate ledId =>
      ledIndex? ledId ≠ some networkLed

instance (call : LedController.Call) : Decidable (Foreign call) := by
  cases call <;> exact inferInstanceAs (Decidable (_ ≠ _))

/-- A call of the disk policy leaves the network LED alone. -/
theorem slice_of_foreign
    (script : Script)
    (controller : LedController)
    {call : LedController.Call}
    (foreign : Foreign call) :
    (controller.call script call).2.slice networkLed =
      controller.slice networkLed := by
  cases call with
  | set ledId request =>
      exact LedController.set_other script controller foreign request
  | invalidate ledId =>
      exact LedController.slice_invalidate_of_ne controller foreign

section FinishPulse

variable
  {Credit : Type}
  {script : Script}
  (network : NetworkLed Credit)

/-- The end of a pulse as `Slice.set` sees it. -/
theorem finishPulse_led :
    (network.finishPulse script).led =
      match network.led.set (script networkLed) (.onOff false) with
      | (.error _, after) =>
          after.invalidate
      | (.ok (), after) =>
          after := by
  have switched :
      ((network.controller.setOn script ledNetwork false).1,
          (network.controller.setOn script ledNetwork false).2.slice
            networkLed) =
        network.led.set (script networkLed) (.onOff false) :=
    switchOff_slice script network.controller
  simp only [finishPulse, ← switched]
  rcases network.controller.setOn script ledNetwork false with
    ⟨error | done, controller⟩
  · exact
      LedController.slice_invalidate_self controller
        ledIndex?_ledNetwork
  · rfl

variable (sleeps : SleepsOnlyInterrupted (script networkLed))

include sleeps

/-- Both outcomes of the end of a pulse, and the line each leaves. -/
theorem finishPulse_cases :
    (network.led.line.Acks (script networkLed) (.onOff false) ∧
        (network.finishPulse script).led.line =
          network.led.line.acked (.onOff false)) ∨
      (¬ network.led.line.Acks (script networkLed) (.onOff false) ∧
        (network.finishPulse script).led.line =
          network.led.line.missed) := by
  rw [finishPulse_led]
  by_cases acks :
      network.led.line.Acks (script networkLed) (.onOff false)
  · obtain ⟨after, switched, sameLine⟩ :=
      Slice.set_of_acks sleeps acks
    rw [switched]
    exact Or.inl ⟨acks, sameLine⟩
  · obtain ⟨error, after, missed, sameLine, -, -⟩ :=
      Slice.set_of_not_acks sleeps acks
    rw [missed]
    refine Or.inr ⟨acks, ?_⟩
    rw [← sameLine]
    have forgotten := congrArg LedController.Line.cache sameLine
    simp only [Slice.line, LedController.Line.missed] at forgotten
    simp only [Slice.line, Slice.invalidate, forgotten]

/-- The end of a pulse leaves a coherent cache. -/
theorem finishPulse_coherent
    (coherent : network.led.Coherent) :
    (network.finishPulse script).led.Coherent := by
  have fits : (LedController.Request.onOff false).Fits := trivial
  have after := Slice.set_coherent sleeps fits coherent
  rw [finishPulse_led]
  generalize
    network.led.set (script networkLed) (.onOff false) = result
      at after ⊢
  rcases result with ⟨error | done, led⟩
  · exact LedController.Slice.coherent_of_zero rfl
  · exact after

/-- A pulse whose end reaches the MCU leaves the LED dark. -/
theorem finishPulse_dark
    (coherent : network.led.Coherent)
    (reaches :
      network.led.line.Reaches (script networkLed) (.onOff false)) :
    (network.finishPulse script).led.device.status = statusOff := by
  have dark := Slice.dark_of_reaches sleeps coherent reaches
  rw [finishPulse_led]
  generalize
    network.led.set (script networkLed) (.onOff false) = result
      at dark ⊢
  rcases result with ⟨error | done, led⟩
  · exact dark
  · exact dark

end FinishPulse

section Start

variable {Credit : Type}

/-- The cache is coherent, and an LED taken to be off is dark. -/
structure Kept (network : NetworkLed Credit) : Prop where
  coherent :
    network.led.Coherent
  dark :
    network.ledOn = false →
    network.led.device.status = statusOff

variable [NatCast Credit]

/-- An `init` that returns `0` leaves the LED dark. -/
theorem init_kept
    {script : Script}
    (sleeps : ∀ led, SleepsOnlyInterrupted (script led))
    {controller : LedController}
    (coherent : controller.Coherent)
    {config : Config}
    (succeeds :
      (init script controller config : Status × NetworkLed Credit).1 =
        .ok ()) :
    (init script controller config :
      Status × NetworkLed Credit).2.Kept := by
  have dimmedCoherent :
      (controller.setBrightness script ledNetwork
        config.networkBrightness.toUInt8).2.Coherent :=
    LedController.set_coherent sleeps coherent ledNetwork
      (.brightness config.networkBrightness.toUInt8)
  simp only [init] at succeeds ⊢
  generalize
    controller.setBrightness script ledNetwork
      config.networkBrightness.toUInt8 = result
        at dimmedCoherent succeeds ⊢
  rcases result with ⟨error | done, dimmed⟩
  · cases succeeds
  · simp only at dimmedCoherent succeeds ⊢
    have switched := switchOff_slice script dimmed
    have switchedSlice := congrArg Prod.snd switched
    have switchedStatus := congrArg Prod.fst switched
    simp only at switchedSlice switchedStatus
    rw [switchedStatus] at succeeds
    have fits : (LedController.Request.onOff false).Fits := trivial
    refine ⟨?_, ?_⟩
    · simp only [led, zeroed, switchedSlice]
      exact
        Slice.set_coherent (sleeps networkLed) fits
          (dimmedCoherent networkLed)
    · intro _
      simp only [led, zeroed, switchedSlice]
      exact
        Slice.set_attained (sleeps networkLed) fits
          (dimmedCoherent networkLed) succeeds

end Start

variable
  {Credit : Type}
  [NatCast Credit] [Add Credit] [Sub Credit] [Div Credit]
  [LE Credit] [DecidableLE Credit]

/-- A callback of the policy, or a call that the disk policy makes. -/
inductive Event where
  | sample (rxBytes txBytes : UInt64)
  | render (settime : Option Errno)
  | timer (read settime : Option Errno)
  | disk (call : LedController.Call)

/-- One event as a step of a run. -/
def handle
    (script : Script)
    (network : NetworkLed Credit) :
    Event → Option (NetworkLed Credit)
  | .sample rxBytes txBytes =>
      some (network.addSample rxBytes txBytes)
  | .render settime =>
      some (network.render script settime).2
  | .timer read settime =>
      some (network.handleTimer script read settime).2
  | .disk call =>
      if Foreign call then
        some
          { network with
            controller := (network.controller.call script call).2 }
      else
        none

/-- The timer is armed and its callback would transmit something. -/
def RetryPending (network : NetworkLed Credit) : Prop :=
  network.timer.isSome ∧
    ∃ script settime,
      (network.handleTimer script none settime).2.controller.bus.sent ≠
        network.controller.bus.sent

/-- An LED that the policy takes to be off is dark or still to be switched. -/
def NotStranded (network : NetworkLed Credit) : Prop :=
  network.ledOn = false →
    (network.controller.bus.mcu networkLed).status = statusOff ∨
      network.RetryPending

/-- Bytes are waiting for a pulse. -/
def Waiting (network : NetworkLed Credit) : Prop :=
  ¬ (network.pendingRxBytes = 0 ∧ network.pendingTxBytes = 0)

/-- The commands an event sends arrive where they have to. -/
def Delivered
    (script : Script)
    (network : NetworkLed Credit) :
    Event → Prop
  | .sample _ _ | .disk _ =>
      True
  | .render settime =>
      network.ledOn = false →
      network.Waiting →
      network.led.line.PulseSafe (script networkLed)
        network.pulseColor settime
  | .timer read settime =>
      (∀ error, read = some error → error = .eagain) →
      network.ledOn = true →
      let exchanges := script networkLed
      let line := network.led.line
      (line.Acks exchanges (.onOff false) →
          network.Waiting →
          (line.acked (.onOff false)).PulseSafe exchanges
            network.pulseColor settime) ∧
        (¬ line.Acks exchanges (.onOff false) →
          (network.Waiting →
            line.missed.PulseSafe exchanges network.pulseColor
              settime) ∧
          (NeverApplied (exchanges line.served) commandRetryCount →
            network.Waiting ∧
              line.missed.Lights exchanges network.pulseColor))

section Callbacks

variable
  {script : Script}
  (sleeps : SleepsOnlyInterrupted (script networkLed))
  {network : NetworkLed Credit}

include sleeps

/--
A safe render keeps the policy and the LED together, also when it starts with a
lit LED behind a cleared flag, if its pulse then lights.
-/
theorem render_kept
    (coherent : network.led.Coherent)
    {settime : Option Errno}
    (safe :
      network.ledOn = false →
      network.Waiting →
      network.led.line.PulseSafe (script networkLed)
        network.pulseColor settime)
    (dark :
      network.ledOn = false →
      network.led.device.status = statusOff ∨
        network.Waiting ∧
          network.led.line.Lights (script networkLed)
            network.pulseColor) :
    (network.render script settime).2.Kept := by
  rcases render_cases script network settime with
      ⟨unchanged, covered⟩ | ⟨isOff, waiting, outcome⟩
  · rw [unchanged]
    refine ⟨coherent, ?_⟩
    intro isOff
    rcases covered with lit | silent
    · rw [isOff] at lit
      cases lit
    · exact (dark isOff).resolve_right fun lights => lights.1 silent
  · rcases outcome with
        ⟨error, controller, pulse, dropped⟩ |
          ⟨controller, pulse, -, lit⟩ |
          ⟨error, controller, pulse, failed, rearmed⟩
    · obtain ⟨fails, sameStatus⟩ :=
        startPulse_failed sleeps pulse (safe isOff waiting)
      have invalidated :
          (controller.invalidate ledNetwork).slice networkLed =
            (controller.slice networkLed).invalidate :=
        LedController.slice_invalidate_self controller
          ledIndex?_ledNetwork
      rw [dropped]
      refine ⟨?_, ?_⟩
      · simp only [led, invalidated]
        exact LedController.Slice.coherent_of_zero rfl
      · intro _
        simp only [led, invalidated]
        exact
          sameStatus.trans
            ((dark isOff).resolve_right fun lights => fails lights.2)
    · rw [lit]
      refine ⟨startPulse_coherent sleeps pulse coherent, ?_⟩
      intro isDark
      cases isDark
    · obtain ⟨lights, litLine⟩ :=
        startPulse_lights sleeps pulse (safe isOff waiting)
      have litCoherent := startPulse_coherent sleeps pulse coherent
      have armed : settime ≠ none := by simp [failed]
      have reaches :
          (controller.slice networkLed).line.Reaches
            (script networkLed) (.onOff false) := by
        rw [litLine]
        exact
          ((safe isOff waiting lights.1).1 lights.2).resolve_left armed
      rw [rearmed]
      refine ⟨switchOff_coherent sleeps litCoherent, ?_⟩
      intro _
      exact switchOff_dark sleeps litCoherent reaches

/-- A timer callback whose commands arrive keeps the policy. -/
theorem Kept.timer
    (kept : network.Kept)
    {read settime : Option Errno}
    (delivered :
      Delivered script network (.timer read settime)) :
    (network.handleTimer script read settime).2.Kept := by
  rcases handleTimer_cases script network read settime with
      ⟨error, -, -, failed⟩ |
        ⟨regular, timer, ⟨-, unchanged⟩ | ⟨lit, finished⟩⟩
  · rw [failed]
    exact kept
  · rw [unchanged]
    exact ⟨kept.coherent, kept.dark⟩
  · obtain ⟨whenAcked, whenMissed⟩ := delivered regular lit
    have unread :
        ({ network with timer } : NetworkLed Credit).led.Coherent :=
      kept.coherent
    have outcome :=
      finishPulse_cases { network with timer } sleeps
    have dark :=
      finishPulse_dark { network with timer } sleeps unread
    have coherent :=
      finishPulse_coherent { network with timer } sleeps unread
    obtain ⟨controller, ended⟩ :=
      finishPulse_eq script { network with timer }
    rw [finished]
    rw [ended] at outcome dark coherent ⊢
    refine render_kept sleeps coherent ?_ ?_
    · intro _ waiting
      rcases outcome with ⟨acks, sameLine⟩ | ⟨missed, sameLine⟩
      · rw [sameLine]
        exact whenAcked acks waiting
      · rw [sameLine]
        exact (whenMissed missed).1 waiting
    · intro _
      rcases outcome with ⟨acks, -⟩ | ⟨missed, sameLine⟩
      · exact Or.inl (dark (Or.inl acks))
      · by_cases never :
            NeverApplied
              (script networkLed network.led.line.served)
              commandRetryCount
        · rw [sameLine]
          exact Or.inr ((whenMissed missed).2 never)
        · exact Or.inl (dark (Or.inr never))

/-- An event whose commands arrive keeps the policy. -/
theorem Kept.handle
    (kept : network.Kept)
    {event : Event}
    (delivered : Delivered script network event)
    {next : NetworkLed Credit}
    (handled : network.handle script event = some next) :
    next.Kept := by
  cases event with
  | sample rxBytes txBytes =>
      cases handled
      exact ⟨kept.coherent, kept.dark⟩
  | render settime =>
      cases handled
      exact
        render_kept sleeps kept.coherent delivered
          fun isOff => Or.inl (kept.dark isOff)
  | timer read settime =>
      cases handled
      exact kept.timer sleeps delivered
  | disk call =>
      simp only [NetworkLed.handle] at handled
      by_cases foreign : Foreign call
      · rw [if_pos foreign] at handled
        cases handled
        have sameLed :=
          slice_of_foreign script network.controller foreign
        refine ⟨?_, ?_⟩
        · simp only [led, sameLed]
          exact kept.coherent
        · intro isOff
          simp only [led, sameLed]
          exact kept.dark isOff
      · rw [if_neg foreign] at handled
        cases handled

end Callbacks

/--
After an `init` that returned `0`, the network LED is not stranded in any state
of a run whose callbacks' commands all arrive where they have to.
-/
theorem not_stranded_of_delivered
    {script : Script}
    (sleeps : ∀ led, SleepsOnlyInterrupted (script led))
    {mcu : LedIndex → McuLed}
    {calls : List LedController.Call}
    {controller : LedController}
    (opened :
      PartialRun.run? (LedController.step script) (.initial mcu) calls =
        some controller)
    {config : Config}
    (initialised :
      (init script controller config : Status × NetworkLed Credit).1 =
        .ok ())
    {events : List Event}
    (delivered :
      PartialRun.Along (handle script) (Delivered script)
        (init script controller config :
          Status × NetworkLed Credit).2
        events) :
    PartialRun.Always (handle script) NotStranded
      (init script controller config : Status × NetworkLed Credit).2
      events := by
  have start :=
    init_kept sleeps
      (LedController.run_coherent sleeps opened) initialised
  have always :=
    PartialRun.always_of_along
      (fun kept arrives handled =>
        Kept.handle (sleeps networkLed) kept arrives handled)
      start delivered
  refine always.mono ?_
  intro network kept isOff
  exact Or.inl (kept.dark isOff)

/-- Under `retriedScript` the commands of every callback arrive. -/
theorem delivered_retriedScript
    (network : NetworkLed Credit)
    (event : Event) :
    network.Delivered retriedScript event := by
  have through := retriedScript_goesThrough networkLed
  cases event with
  | sample rxBytes txBytes =>
      trivial
  | render settime =>
      exact
        fun _ _ =>
          LedController.Line.PulseSafe.of_goesThrough through _ _ _
  | timer read settime =>
      intro _ _
      constructor
      · exact
          fun _ _ =>
            LedController.Line.PulseSafe.of_goesThrough through _ _ _
      · exact fun missed => (missed (Or.inr (through _))).elim
  | disk call =>
      trivial

/-- A pulse, one whose timer cannot be armed, and a blinking disk. -/
def busyEvents : List Event :=
  [.sample 100 0, .render none, .sample 0 50,
    .disk (.set 2 (.blink 100 100 false)), .timer none (some .einval)]

/-- The network LED is not stranded although commands need retries. -/
theorem not_stranded_after_retries :
    PartialRun.Always (handle retriedScript) NotStranded
      (init retriedScript
          (.initial fun _ => ⟨statusOn, 0, ⟨0, 0, 0⟩, 0, 0⟩)
          .defaults :
        Status × NetworkLed ℚ).2
      busyEvents := by
  have opened :
      PartialRun.run? (LedController.step retriedScript)
          (.initial fun _ => ⟨statusOn, 0, ⟨0, 0, 0⟩, 0, 0⟩) [] =
        some (.initial fun _ => ⟨statusOn, 0, ⟨0, 0, 0⟩, 0, 0⟩) :=
    rfl
  have arrives :
      ∀ (network : NetworkLed ℚ) event,
        network.Delivered retriedScript event :=
    delivered_retriedScript
  exact
    not_stranded_of_delivered retriedScript_sleeps opened rfl
      ⟨arrives _ _, fun _ _ => ⟨arrives _ _, fun _ _ =>
        ⟨arrives _ _, fun _ _ => ⟨arrives _ _, fun _ _ =>
          ⟨arrives _ _, fun _ _ => trivial⟩⟩⟩⟩⟩

/-- The fourth command to each LED is executed but never acknowledged. -/
def switchOnLostScript : Script :=
  fun _ position _ =>
    if position = 3 then .unanswered true else .accepted

/-- A single packet arrives and is shown. -/
def onePacket : List Event :=
  [.sample 100 0, .render none]

/-- A pulse whose switch-on is executed but lost leaves the LED lit. -/
theorem switch_on_lost_strands :
    ¬ ∀ (script : Script)
        (mcu : LedIndex → McuLed)
        (config : Config)
        (events : List Event),
      (∀ led, SleepsOnlyInterrupted (script led)) →
      (init script (.initial mcu) config : Status × NetworkLed ℚ).1 =
        .ok () →
      PartialRun.Always (handle script) NotStranded
        (init script (.initial mcu) config : Status × NetworkLed ℚ).2
        events := by
  intro claim
  have sleeps :
      ∀ led, SleepsOnlyInterrupted (switchOnLostScript led) := by
    intro led command attempt
    unfold switchOnLostScript
    split <;> exact ⟨rfl, rfl⟩
  have visited :=
    claim switchOnLostScript (fun _ => ⟨statusOff, 0, ⟨0, 0, 0⟩, 0, 0⟩)
      .defaults onePacket sleeps rfl
  have unstranded := (visited.2 _ rfl).2 _ rfl
  rcases unstranded rfl with dark | ⟨armed, -⟩
  · exact absurd dark (by decide)
  · exact absurd armed (by decide)

end NetworkLed

end UgreenLeds
