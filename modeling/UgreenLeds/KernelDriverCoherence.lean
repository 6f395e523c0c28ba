import UgreenLeds.KernelDriverSlice
import UgreenLeds.LocalFold
import UgreenLeds.PartialRun

/-!
# How far the driver's cached state follows the MCU

The driver, too, keeps a shadow of the MCU's registers, but a command that
exhausts its retries leaves the shadow as it was.  The cached state therefore
stays sound over a run as long as no command is executed by the MCU without
ever being acknowledged; one that is makes a later request elided while the LED
shows something else.
-/

namespace UgreenLeds

namespace KernelDriver

open ShadowedRegister

/-- The cached colour. -/
def LedState.color (state : LedState) : Rgb :=
  ⟨state.r, state.g, state.b⟩

/-- The colour that stands for switching an LED off. -/
def black : Rgb :=
  ⟨0, 0, 0⟩

/--
The registers a cached state claims to know.  Black, a brightness of zero and a
status that is no mode are equal to nothing a request compares them with, so
they claim nothing.
-/
def LedState.shadow (state : LedState) : Shadow LedRegister.Value
  | .color =>
      if state.color = black then none else some state.color
  | .brightness =>
      if state.brightness = 0 then none else some state.brightness
  | .display =>
      if state.status ≤ statusBreath then
        some
          (displayOf state.status state.tOn.toNat state.tCycle.toNat)
      else
        none

/-- Recording a command shows at most its value in addition. -/
theorem LedState.shadow_record
    (state : LedState)
    (command : Command)
    (register : LedRegister)
    (value : register.Value)
    (shown : (state.record command).shadow register = some value) :
    Function.update state.shadow command.register
        (some command.value) register =
      some value := by
  cases command with
  | brightness level =>
      cases register with
      | brightness =>
          have known : level = value := by
            by_cases dark : level = 0
            · simp [record, shadow, dark] at shown
            · simpa [record, shadow, dark] using shown
          simp [Command.register, Command.value, known]
      | color =>
          exact shown
      | display =>
          exact shown
  | color rgb =>
      cases register with
      | color =>
          have known : rgb = value := by
            by_cases isBlack : rgb = black
            · simp [record, shadow, color, isBlack] at shown
            · simpa [record, shadow, color, isBlack] using shown
          simp [Command.register, Command.value, known]
      | brightness =>
          exact shown
      | display =>
          exact shown
  | onOff lit =>
      cases register with
      | display =>
          cases lit <;> exact shown
      | color =>
          exact shown
      | brightness =>
          exact shown
  | blink cycle onTime =>
      cases register <;> exact shown
  | breath cycle onTime =>
      cases register <;> exact shown

namespace Slice

/-- A slice as a device with a shadow. -/
def registers (slice : Slice) : Registers LedRegister.Value where
  device := slice.device.registers
  shadow := slice.state.shadow

/--
The cached state follows the MCU: what it claims to know is so, and a status
that is no mode does not hide an LED that is off.
-/
structure Follows (slice : Slice) : Prop where
  coherent : Coherent slice.registers
  notOff :
    statusBreath < slice.state.status →
    slice.device.status ≠ statusOff

variable (exchanges : Nat → Exchange)

/-- The fate of the command at one script position. -/
def delivery (position : Nat) : Delivery :=
  if acknowledges exchanges position then
    .acknowledged
  else
    .lost (executes exchanges position)

/-- An acknowledged command has been executed. -/
theorem executes_of_acknowledges
    {position : Nat}
    (acknowledged : acknowledges exchanges position = true) :
    executes exchanges position = true := by
  have ended :
      RetryLoop.outcome (answers exchanges position)
        changeStateRetryCount 0 () = .acknowledged := by
    simp only [acknowledges] at acknowledged
    cases outcome :
        RetryLoop.outcome (answers exchanges position)
          changeStateRetryCount 0 () with
    | acknowledged =>
        rfl
    | aborted error =>
        simp [outcome, RetryLoop.Outcome.isAcknowledged] at acknowledged
    | exhausted error =>
        simp [outcome, RetryLoop.Outcome.isAcknowledged] at acknowledged
  refine RetryLoop.executes_of_acknowledged ?_ ended
  intro attempt success
  simp only [answers, answer] at success ⊢
  split at success
  · cases success
  · split at success
    · simp_all
    · cases success

/--
Transmitting a command is a write of a client that retains its shadow, up to
values that stand for no knowledge.
-/
theorem registers_send
    (slice : Slice)
    (command : Command)
    (notShown :
      slice.state.shadow command.register ≠ some command.value) :
    let written :=
      write id command.register command.value
        (delivery exchanges slice.served) slice.registers
    (slice.send exchanges command).registers.device =
        written.device ∧
      ∀ register value,
        (slice.send exchanges command).registers.shadow register =
          some value →
        written.shadow register = some value := by
  cases acknowledged : acknowledges exchanges slice.served with
  | true =>
      have executed :=
        executes_of_acknowledges exchanges acknowledged
      constructor
      · simp [registers, write, send, delivery, acknowledged,
          executed, Command.registers_execute, notShown]
      · intro register value shown
        simp only [send, acknowledged, ↓reduceIte, registers] at shown
        have recorded :=
          slice.state.shadow_record command register value shown
        simpa [registers, write, delivery, acknowledged, notShown]
          using recorded
  | false =>
      constructor
      · cases executed : executes exchanges slice.served <;>
          simp [registers, write, send, delivery, acknowledged,
            executed, Command.registers_execute, notShown]
      · intro register value shown
        simpa [registers, write, send, delivery, acknowledged,
          notShown] using shown

/-- Repeating a value the shadow shows changes nothing it relies on. -/
theorem send_coherent_of_shown
    {slice : Slice}
    {command : Command}
    (coherent : Coherent slice.registers)
    (shown :
      slice.state.shadow command.register = some command.value) :
    Coherent (slice.send exchanges command).registers := by
  have held :
      slice.device.registers command.register = command.value :=
    coherent command.register command.value shown
  have kept :
      (command.execute slice.device).registers =
        slice.device.registers := by
    rw [Command.registers_execute, ← held]
    exact Function.update_eq_self _ _
  refine coherent.weaken ?_ ?_
  · cases executed : executes exchanges slice.served <;>
      simp [registers, send, executed, kept]
  · intro register value isShown
    cases acknowledged : acknowledges exchanges slice.served with
    | true =>
        simp only [registers, send, acknowledged, ↓reduceIte] at isShown
        have recorded :=
          slice.state.shadow_record command register value isShown
        rwa [← shown, Function.update_eq_self] at recorded
    | false =>
        simpa [registers, send, acknowledged] using isShown

/-- A command is acknowledged exactly if one of its attempts goes through. -/
theorem acknowledges_iff (position : Nat) :
    acknowledges exchanges position = true ↔
      GoesThrough (exchanges position) changeStateRetryCount := by
  have neverAborts :
      RetryLoop.NeverAborts (answers exchanges position) := by
    intro attempt error
    simp only [answers, answer]
    split
    · simp
    · split <;> simp
  have succeeds :
      ∀ attempt,
        (answers exchanges position attempt).verdict = .success ↔
          (exchanges position attempt).write = none ∧
            (exchanges position attempt).reply = .ok 1 := by
    intro attempt
    simp only [answers, answer]
    split
    · simp [*]
    · split <;> simp [*]
  have ended :=
    RetryLoop.outcome_eq_acknowledged_iff neverAborts
      changeStateRetryCount 0 ()
  simp only [succeeds, Nat.zero_add] at ended
  rw [GoesThrough, ← ended, acknowledges]
  cases RetryLoop.outcome (answers exchanges position)
      changeStateRetryCount 0 () <;>
    simp [RetryLoop.Outcome.isAcknowledged]

/-- A command none of whose attempts is applied is acknowledged or idle. -/
theorem executes_eq_false_of_neverApplied
    {position : Nat}
    (unacknowledged : acknowledges exchanges position = false)
    (never :
      NeverApplied (exchanges position) changeStateRetryCount) :
    executes exchanges position = false := by
  apply RetryLoop.executes_eq_false
  intro attempt inRange
  rw [Nat.zero_add]
  simp only [answers, answer]
  split
  · exact never attempt inRange
  · rename_i written
    split
    · rename_i answered
      have goesThrough :
          GoesThrough (exchanges position) changeStateRetryCount :=
        ⟨attempt, inRange, written, answered⟩
      rw [← acknowledges_iff, unacknowledged] at goesThrough
      cases goesThrough
    · exact never attempt inRange

/--
Transmitting a command at one script position cannot mislead the cached state:
one of its attempts goes through, or none is executed by the MCU, or the state
already shows the command's value, or the state claims nothing about the
register and the command does not switch the LED off.
-/
def Spares
    (position : Nat)
    (state : LedState)
    (command : Command) : Prop :=
  GoesThrough (exchanges position) changeStateRetryCount ∨
    NeverApplied (exchanges position) changeStateRetryCount ∨
    state.shadow command.register = some command.value ∨
    (state.shadow command.register = none ∧ command ≠ .onOff false)

/-- A spared command that misses the client misses the device, too. -/
theorem Spares.fate
    {exchanges : Nat → Exchange}
    {position : Nat}
    {state : LedState}
    {command : Command}
    (spared : Spares exchanges position state command) :
    acknowledges exchanges position = true ∨
      executes exchanges position = false ∨
      state.shadow command.register = some command.value ∨
      (state.shadow command.register = none ∧
        command ≠ .onOff false) := by
  rcases spared with goesThrough | never | shown | unknown
  · exact Or.inl ((acknowledges_iff exchanges position).mpr goesThrough)
  · cases acknowledged : acknowledges exchanges position with
    | true =>
        exact Or.inl rfl
    | false =>
        exact
          Or.inr
            (Or.inl
              (executes_eq_false_of_neverApplied exchanges
                acknowledged never))
  · exact Or.inr (Or.inr (Or.inl shown))
  · exact Or.inr (Or.inr (Or.inr unknown))

/-- A spared command keeps the shadow coherent. -/
theorem send_coherent
    {slice : Slice}
    {command : Command}
    (coherent : Coherent slice.registers)
    (spared : Spares exchanges slice.served slice.state command) :
    Coherent (slice.send exchanges command).registers := by
  by_cases shown :
      slice.state.shadow command.register = some command.value
  · exact send_coherent_of_shown exchanges coherent shown
  · obtain ⟨sameDevice, showsLess⟩ :=
      registers_send exchanges slice command shown
    have written :
        Coherent
          (write id command.register command.value
            (delivery exchanges slice.served) slice.registers) := by
      rw [write_retaining_coherent_iff coherent]
      rcases spared.fate with
          acknowledged | notExecuted | isShown | ⟨unknown, -⟩
      · exact Or.inr (Or.inl (by simp [delivery, acknowledged]))
      · refine Or.inr (Or.inl ?_)
        simp only [delivery, notExecuted]
        split <;> simp
      · exact (shown isShown).elim
      · exact Or.inr (Or.inr unknown)
    exact written.weaken sameDevice showsLess

/-- A status a command has just recorded is a mode. -/
theorem status_record_le
    (command : Command)
    (state : LedState)
    (writesDisplay : command.register = .display) :
    (state.record command).status ≤ statusBreath := by
  cases command with
  | brightness level =>
      cases writesDisplay
  | color rgb =>
      cases writesDisplay
  | onOff lit =>
      cases lit with
      | false =>
          exact (by decide : statusOff ≤ statusBreath)
      | true =>
          exact (by decide : statusOn ≤ statusBreath)
  | blink cycle onTime =>
      exact (by decide : statusBlink ≤ statusBreath)
  | breath cycle onTime =>
      exact UInt8.le_refl statusBreath

/-- Commands for the other registers leave both statuses alone. -/
theorem status_of_register_ne
    {command : Command}
    (elsewhere : command.register ≠ .display)
    (state : LedState)
    (device : McuLed) :
    (state.record command).status = state.status ∧
      (command.execute device).status = device.status := by
  cases command with
  | brightness level =>
      exact ⟨rfl, rfl⟩
  | color rgb =>
      exact ⟨rfl, rfl⟩
  | onOff lit =>
      exact (elsewhere rfl).elim
  | blink cycle onTime =>
      exact (elsewhere rfl).elim
  | breath cycle onTime =>
      exact (elsewhere rfl).elim

/-- Only switching off makes the MCU show an LED that is off. -/
theorem execute_status_ne_off
    {command : Command}
    (writesDisplay : command.register = .display)
    (notOff : command ≠ .onOff false)
    (device : McuLed) :
    (command.execute device).status ≠ statusOff := by
  cases command with
  | brightness level =>
      cases writesDisplay
  | color rgb =>
      cases writesDisplay
  | onOff lit =>
      cases lit with
      | false =>
          exact (notOff rfl).elim
      | true =>
          exact (by decide : statusOn ≠ statusOff)
  | blink cycle onTime =>
      exact (by decide : statusBlink ≠ statusOff)
  | breath cycle onTime =>
      exact (by decide : statusBreath ≠ statusOff)

/-- A spared command keeps the cached state following the MCU. -/
theorem send_follows
    {slice : Slice}
    {command : Command}
    (follows : slice.Follows)
    (spared : Spares exchanges slice.served slice.state command) :
    (slice.send exchanges command).Follows := by
  refine ⟨send_coherent exchanges follows.coherent spared, ?_⟩
  intro noMode
  by_cases writesDisplay : command.register = .display
  · cases acknowledged : acknowledges exchanges slice.served with
    | true =>
        have recorded :=
          status_record_le command slice.state writesDisplay
        simp only [send, acknowledged, ↓reduceIte] at noMode
        exact (UInt8.not_lt.mpr recorded noMode).elim
    | false =>
        have stillNoMode : statusBreath < slice.state.status := by
          simpa [send, acknowledged] using noMode
        have unknown :
            slice.state.shadow command.register = none := by
          rw [writesDisplay]
          simp [LedState.shadow, UInt8.not_le.mpr stillNoMode]
        cases executed : executes exchanges slice.served with
        | false =>
            simpa [send, executed] using follows.notOff stillNoMode
        | true =>
            have lit : command ≠ .onOff false := by
              rcases spared.fate with
                  isAcknowledged | notExecuted | shown | ⟨-, lit⟩
              · simp [acknowledged] at isAcknowledged
              · simp [executed] at notExecuted
              · rw [unknown] at shown
                cases shown
              · exact lit
            simpa [send, executed] using
              execute_status_ne_off writesDisplay lit slice.device
  · obtain ⟨sameState, sameDevice⟩ :=
      status_of_register_ne writesDisplay slice.state slice.device
    have stillNoMode : statusBreath < slice.state.status := by
      cases acknowledged : acknowledges exchanges slice.served <;>
        simpa [send, acknowledged, sameState] using noMode
    have notOff := follows.notOff stillNoMode
    cases executed : executes exchanges slice.served <;>
      simpa [send, executed, sameDevice] using notOff

/-- Each command of a list is spared at its own script position. -/
def SparesAll
    (slice : Slice)
    (commands : List Command) : Prop :=
  ∀ index command,
    commands[index]? = some command →
    Spares exchanges (slice.served + index) slice.state command

/-- A command leaves what is shown of the other registers alone. -/
theorem shadow_send_of_ne
    (slice : Slice)
    {command : Command}
    {register : LedRegister}
    (different : register ≠ command.register) :
    (slice.send exchanges command).state.shadow register =
      slice.state.shadow register := by
  cases acknowledged : acknowledges exchanges slice.served with
  | false =>
      simp [send, acknowledged]
  | true =>
      simp only [send, acknowledged, ↓reduceIte]
      cases command <;> cases register <;>
        first
          | rfl
          | exact (different rfl).elim

/-- Sparing commands for distinct registers one after the other. -/
theorem foldl_send_follows
    {commands : List Command}
    (distinct : (commands.map Command.register).Nodup)
    {slice : Slice}
    (follows : slice.Follows)
    (spared : slice.SparesAll exchanges commands) :
    (commands.foldl (send exchanges) slice).Follows := by
  induction commands generalizing slice with
  | nil =>
      exact follows
  | cons first rest inductionHypothesis =>
      rw [List.map_cons, List.nodup_cons] at distinct
      obtain ⟨fresh, restDistinct⟩ := distinct
      have sparedFirst :
          Spares exchanges slice.served slice.state first := by
        simpa using spared 0 first rfl
      refine
        inductionHypothesis restDistinct
          (send_follows exchanges follows sparedFirst) ?_
      intro index command found
      have different : command.register ≠ first.register := by
        intro same
        have member : command ∈ rest :=
          List.mem_of_getElem? found
        exact
          fresh
            (same ▸ List.mem_map_of_mem member)
      have later :=
        spared (index + 1) command (by simpa using found)
      have position :
          (slice.send exchanges first).served + index =
            slice.served + (index + 1) := by
        simp only [send]
        omega
      rw [position]
      simpa only [Spares, shadow_send_of_ne exchanges slice different]
        using later

end Slice

namespace Request

/-- The commands of one request write distinct registers. -/
theorem commands_distinct
    (state : LedState)
    (request : Request) :
    ((request.commands state).map Command.register).Nodup := by
  cases request with
  | brightness level =>
      simp only [commands]
      split
      · split <;> simp
      · split <;> split <;> simp [Command.register]
  | color rgb =>
      simp only [commands]
      split
      · split <;> simp
      · split <;> simp
  | periodic tOn tCycle isBlink =>
      by_cases shown :
          state.tOn = tOn ∧ state.tCycle = tCycle ∧
            state.status =
              (if isBlink then statusBlink else statusBreath)
      · rw [commands, if_pos shown]
        exact List.nodup_nil
      · rw [commands, if_neg shown]
        exact List.nodup_singleton _
  | on =>
      simp only [commands]
      split <;> simp

end Request

/-- A cached mode that follows the MCU is the MCU's, with its timing. -/
theorem Slice.Follows.display
    {slice : Slice}
    (follows : slice.Follows)
    (isMode : slice.state.status ≤ statusBreath) :
    displayOf slice.device.status
        slice.device.tOn.toNat slice.device.tCycle.toNat =
      displayOf slice.state.status
        slice.state.tOn.toNat slice.state.tCycle.toNat :=
  follows.coherent .display _
    (by simp [registers, LedState.shadow, isMode])

/-- A cached mode that follows the MCU is the MCU's. -/
theorem Slice.Follows.status
    {slice : Slice}
    (follows : slice.Follows)
    (isMode : slice.state.status ≤ statusBreath) :
    slice.device.status = slice.state.status := by
  have same := congrArg Display.status (follows.display isMode)
  simpa using same

/-- A cached periodic mode that follows the MCU has the MCU's timing. -/
theorem Slice.Follows.timing
    {slice : Slice}
    (follows : slice.Follows)
    (periodic :
      slice.state.status = statusBlink ∨
        slice.state.status = statusBreath) :
    slice.device.tOn = slice.state.tOn ∧
      slice.device.tCycle = slice.state.tCycle := by
  have timed :
      slice.device.tOn.toNat = slice.state.tOn.toNat ∧
        slice.device.tCycle.toNat = slice.state.tCycle.toNat := by
    rcases periodic with blink | breath
    · have isMode : slice.state.status ≤ statusBreath :=
        blink ▸ (by decide : statusBlink ≤ statusBreath)
      have shown :=
        (follows.display isMode).trans
          (displayOf_eq_blink.mpr ⟨blink, rfl, rfl⟩)
      exact (displayOf_eq_blink.mp shown).2
    · have isMode : slice.state.status ≤ statusBreath :=
        breath ▸ UInt8.le_refl statusBreath
      have shown :=
        (follows.display isMode).trans
          (displayOf_eq_breath.mpr ⟨breath, rfl, rfl⟩)
      exact (displayOf_eq_breath.mp shown).2
  exact ⟨UInt16.toNat_inj.mp timed.1, UInt16.toNat_inj.mp timed.2⟩

/-- The MCU is off only if the cached state says so. -/
theorem Slice.Follows.off
    {slice : Slice}
    (follows : slice.Follows)
    (isOff : slice.device.status = statusOff) :
    slice.state.status = statusOff := by
  by_cases isMode : slice.state.status ≤ statusBreath
  · exact (follows.status isMode).symm.trans isOff
  · exact (follows.notOff (UInt8.not_le.mp isMode) isOff).elim

/-- A cached brightness other than zero is the MCU's. -/
theorem Slice.Follows.brightness
    {slice : Slice}
    (follows : slice.Follows)
    (notZero : slice.state.brightness ≠ 0) :
    slice.device.brightness = slice.state.brightness :=
  follows.coherent .brightness _
    (by simp [registers, LedState.shadow, notZero])

/-- A cached colour other than black is the MCU's. -/
theorem Slice.Follows.color
    {slice : Slice}
    (follows : slice.Follows)
    (notBlack : slice.state.color ≠ black) :
    slice.device.color = slice.state.color :=
  follows.coherent .color _
    (by simp [registers, LedState.shadow, notBlack])

/-- An elided brightness is already attained. -/
theorem Slice.Follows.attained_brightness
    {slice : Slice}
    (follows : slice.Follows)
    {level : UInt32}
    (elided : (Request.brightness level).commands slice.state = []) :
    (Request.brightness level).Attained slice.device := by
  by_cases dark : level = 0
  · by_cases cached : slice.state.status = statusOff
    · have isMode : slice.state.status ≤ statusBreath := by
        rw [cached]
        decide
      simpa [Request.Attained, dark] using
        (follows.status isMode).trans cached
    · simp [Request.commands, dark, cached] at elided
  · by_cases shown : slice.state.brightness.toUInt32 = level
    · by_cases cached : slice.state.status = statusOff
      · simp [Request.commands, dark, shown, cached] at elided
      · have notZero : slice.state.brightness ≠ 0 := by
          intro isZero
          rw [isZero] at shown
          exact dark shown.symm
        simp only [Request.Attained, dark, ↓reduceIte]
        refine ⟨follows.brightness notZero ▸ shown, ?_⟩
        exact fun isOff => cached (follows.off isOff)
    · simp [Request.commands, dark, shown] at elided

/-- An elided colour is already attained. -/
theorem Slice.Follows.attained_color
    {slice : Slice}
    (follows : slice.Follows)
    {rgb : Rgb}
    (elided : (Request.color rgb).commands slice.state = []) :
    (Request.color rgb).Attained slice.device := by
  by_cases isBlack : rgb.r = 0 ∧ rgb.g = 0 ∧ rgb.b = 0
  · by_cases cached : slice.state.status = statusOff
    · have isMode : slice.state.status ≤ statusBreath := by
        rw [cached]
        decide
      simpa [Request.Attained, isBlack] using
        (follows.status isMode).trans cached
    · simp [Request.commands, isBlack, cached] at elided
  · by_cases changes :
        slice.state.r ≠ rgb.r ∨ slice.state.g ≠ rgb.g ∨
          slice.state.b ≠ rgb.b
    · simp [Request.commands, isBlack, changes] at elided
    · have shown : slice.state.color = rgb := by
        rcases rgb with ⟨r, g, b⟩
        simp only [ne_eq, not_or, not_not] at changes
        obtain ⟨red, green, blue⟩ := changes
        simp [LedState.color, red, green, blue]
      have notBlack : slice.state.color ≠ black := by
        rw [shown]
        rintro rfl
        exact isBlack ⟨rfl, rfl, rfl⟩
      simp only [Request.Attained, isBlack, ↓reduceIte]
      exact (follows.color notBlack).trans shown

/-- An elided blink or breath is already attained. -/
theorem Slice.Follows.attained_periodic
    {slice : Slice}
    (follows : slice.Follows)
    {tOn tCycle : UInt16}
    {isBlink : Bool}
    (elided :
      (Request.periodic tOn tCycle isBlink).commands slice.state = []) :
    (Request.periodic tOn tCycle isBlink).Attained slice.device := by
  by_cases shown :
      slice.state.tOn = tOn ∧ slice.state.tCycle = tCycle ∧
        slice.state.status =
          (if isBlink then statusBlink else statusBreath)
  · obtain ⟨onTime, cycle, cached⟩ := shown
    have isMode : slice.state.status ≤ statusBreath := by
      rw [cached]
      cases isBlink <;> decide
    have periodic :
        slice.state.status = statusBlink ∨
          slice.state.status = statusBreath := by
      cases isBlink with
      | true =>
          exact Or.inl cached
      | false =>
          exact Or.inr cached
    obtain ⟨heldOn, heldCycle⟩ := follows.timing periodic
    exact
      ⟨(follows.status isMode).trans cached, heldOn.trans onTime,
        heldCycle.trans cycle⟩
  · rw [Request.commands, if_neg shown] at elided
    cases elided

/-- A request that needs no command is already attained. -/
theorem Slice.Follows.attained
    {slice : Slice}
    (follows : slice.Follows)
    {request : Request}
    (elided : request.commands slice.state = []) :
    request.Attained slice.device := by
  cases request with
  | brightness level =>
      exact follows.attained_brightness elided
  | color rgb =>
      exact follows.attained_color elided
  | periodic tOn tCycle isBlink =>
      exact follows.attained_periodic elided
  | on =>
      by_cases cached : slice.state.status = statusOn
      · have isMode : slice.state.status ≤ statusBreath := by
          rw [cached]
          decide
        exact (follows.status isMode).trans cached
      · simp [Request.commands, cached] at elided

/-- Every request that fixes a register transmits a command for it. -/
def Retransmits
    (state : LedState)
    (register : LedRegister) : Prop :=
  ∀ request : Request,
    request.register = register →
    ∃ command ∈ request.commands state,
      command.register = register

/-- A cached black makes every other colour transmit. -/
theorem retransmits_color
    {state : LedState}
    (unknown : state.shadow .color = none) :
    Retransmits state .color := by
  have isBlack : state.color = black := by
    simpa [LedState.shadow] using unknown
  have cached : state.r = 0 ∧ state.g = 0 ∧ state.b = 0 := by
    simpa [LedState.color, black] using isBlack
  intro request fixes
  cases request with
  | color rgb =>
      by_cases off : rgb.r = 0 ∧ rgb.g = 0 ∧ rgb.b = 0
      · simp [Request.register, off] at fixes
      · have changes :
            state.r ≠ rgb.r ∨ state.g ≠ rgb.g ∨ state.b ≠ rgb.b := by
          simp only [cached]
          by_contra same
          simp only [ne_eq, not_or, not_not] at same
          exact off ⟨same.1.symm, same.2.1.symm, same.2.2.symm⟩
        exact
          ⟨.color rgb, by simp [Request.commands, off, changes], rfl⟩
  | brightness level =>
      simp only [Request.register] at fixes
      split at fixes <;> cases fixes
  | periodic tOn tCycle isBlink =>
      cases fixes
  | on =>
      cases fixes

/-- A cached zero makes every other brightness transmit. -/
theorem retransmits_brightness
    {state : LedState}
    (unknown : state.shadow .brightness = none) :
    Retransmits state .brightness := by
  have isZero : state.brightness = 0 := by
    simpa [LedState.shadow] using unknown
  intro request fixes
  cases request with
  | brightness level =>
      by_cases dark : level = 0
      · simp [Request.register, dark] at fixes
      · have changes : ¬ state.brightness.toUInt32 = level := by
          rw [isZero]
          exact fun same => dark same.symm
        exact
          ⟨.brightness level.toUInt8,
            by simp [Request.commands, dark, changes], rfl⟩
  | color rgb =>
      simp only [Request.register] at fixes
      split at fixes <;> cases fixes
  | periodic tOn tCycle isBlink =>
      cases fixes
  | on =>
      cases fixes

/-- A cached status that is no mode makes every mode transmit. -/
theorem retransmits_display
    {state : LedState}
    (unknown : state.shadow .display = none) :
    Retransmits state .display := by
  have noMode : ¬ state.status ≤ statusBreath := by
    simpa [LedState.shadow] using unknown
  have isNot :
      ∀ status, status ≤ statusBreath → state.status ≠ status :=
    fun _ isMode same => noMode (same ▸ isMode)
  have notOff : state.status ≠ statusOff :=
    isNot statusOff (by decide)
  intro request fixes
  cases request with
  | brightness level =>
      by_cases dark : level = 0
      · exact
          ⟨.onOff false,
            by simp [Request.commands, dark, notOff], rfl⟩
      · simp [Request.register, dark] at fixes
  | color rgb =>
      by_cases off : rgb.r = 0 ∧ rgb.g = 0 ∧ rgb.b = 0
      · exact
          ⟨.onOff false, by simp [Request.commands, off, notOff], rfl⟩
      · simp [Request.register, off] at fixes
  | periodic tOn tCycle isBlink =>
      have changes :
          state.status ≠
            (if isBlink then statusBlink else statusBreath) :=
        isNot _ (by cases isBlink <;> decide)
      refine
        ⟨if isBlink then .blink tCycle tOn else .breath tCycle tOn,
          ?_, ?_⟩
      · simp [Request.commands, changes]
      · cases isBlink <;> rfl
  | on =>
      exact
        ⟨.onOff true,
          by simp [Request.commands, isNot statusOn (by decide)], rfl⟩

/--
Each cached field is the MCU's or makes the next request for it transmit, and
no request is elided unless the MCU is in the state it asks for.
-/
structure Sound (state : LedState) (device : McuLed) : Prop where
  status :
    (device.status = state.status ∧
      (state.status = statusBlink ∨ state.status = statusBreath →
        device.tOn = state.tOn ∧ device.tCycle = state.tCycle)) ∨
      Retransmits state .display
  brightness :
    device.brightness = state.brightness ∨
      Retransmits state .brightness
  color :
    device.color = state.color ∨ Retransmits state .color
  elided :
    ∀ request : Request,
      request.commands state = [] →
      request.Attained device

/-- A cached state that follows the MCU is sound. -/
theorem Slice.Follows.sound
    {slice : Slice}
    (follows : slice.Follows) :
    Sound slice.state slice.device where
  status := by
    by_cases isMode : slice.state.status ≤ statusBreath
    · exact Or.inl ⟨follows.status isMode, follows.timing⟩
    · exact
        Or.inr (retransmits_display (by simp [LedState.shadow, isMode]))
  brightness := by
    by_cases isZero : slice.state.brightness = 0
    · exact
        Or.inr
          (retransmits_brightness (by simp [LedState.shadow, isZero]))
    · exact Or.inl (follows.brightness isZero)
  color := by
    by_cases isBlack : slice.state.color = black
    · exact
        Or.inr (retransmits_color (by simp [LedState.shadow, isBlack]))
    · exact Or.inl (follows.color isBlack)
  elided := fun _ => follows.attained

end KernelDriver

end UgreenLeds
