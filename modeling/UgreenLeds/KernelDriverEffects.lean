import UgreenLeds.KernelDriverColor
import UgreenLeds.KernelDriverRuns

/-!
# The driver as a register machine

A driver without a cache would write each request to the MCU.  The driver elides
the commands that its cached state shows to be needless.  On an LED whose own
commands go through, the MCU cannot tell the two apart: from the probe on, its
registers are what the requests make of them one after the other, whatever happens
to the other LEDs.
-/

namespace UgreenLeds

namespace KernelDriver

/-- The registers of one LED. -/
abbrev LedRegisters := ∀ register : LedRegister, register.Value

/-- What a request does to the registers of an LED. -/
def Request.effect
    (registers : LedRegisters) :
    Request → LedRegisters
  | .brightness level =>
      if level = 0 then
        Function.update registers .display Display.off
      else
        let dimmed :=
          Function.update registers .brightness level.toUInt8
        if registers .display = Display.off then
          Function.update dimmed .display Display.on
        else
          dimmed
  | .color rgb =>
      if rgb = black then
        Function.update registers .display Display.off
      else
        Function.update registers .color rgb
  | .periodic tOn tCycle isBlink =>
      Function.update registers .display
        (if isBlink then
          Display.blink tOn.toNat tCycle.toNat
        else
          Display.breath tOn.toNat tCycle.toNat)
  | .on =>
      Function.update registers .display Display.on

/-- The MCU acknowledges every command to an LED. -/
def AlwaysThrough (exchanges : Nat → Exchange) : Prop :=
  ∀ position, GoesThrough (exchanges position) changeStateRetryCount

section Effect

variable
  {exchanges : Nat → Exchange}
  {slice : Slice}

/-- Commands that go through write their values to their registers. -/
theorem Slice.foldl_send_registers
    (through : AlwaysThrough exchanges)
    (commands : List Command)
    (slice : Slice) :
    (commands.foldl (send exchanges) slice).device.registers =
      commands.foldl
        (fun registers command =>
          Function.update registers command.register command.value)
        slice.device.registers := by
  induction commands generalizing slice with
  | nil =>
      rfl
  | cons command rest inductionHypothesis =>
      rw [List.foldl_cons, List.foldl_cons, inductionHypothesis,
        send_of_goesThrough (through slice.served)]
      change
        rest.foldl _ (command.execute slice.device).registers = _
      rw [command.registers_execute]

/-- Commands that go through are all spared. -/
theorem Slice.sparesAll_of_through
    (through : AlwaysThrough exchanges)
    (slice : Slice)
    (commands : List Command) :
    slice.SparesAll exchanges commands :=
  fun _ _ _ => Or.inl (through _)

/-- The LED is off exactly if the cached state says so. -/
theorem Slice.Follows.off_iff
    (follows : slice.Follows) :
    slice.device.registers .display = Display.off ↔
      slice.state.status = statusOff := by
  rw [McuLed.registers, displayOf_eq_off]
  constructor
  · exact follows.off
  · intro cached
    have isMode : slice.state.status ≤ statusBreath := by
      rw [cached]
      decide
    exact (follows.status isMode).trans cached

/-- What the cached state claims is not changed by writing it again. -/
theorem Slice.Follows.update_eq_self
    (follows : slice.Follows)
    {register : LedRegister}
    {value : register.Value}
    (shown : slice.state.shadow register = some value) :
    Function.update slice.device.registers register value =
      slice.device.registers := by
  rw [← follows.coherent register value shown]
  exact Function.update_eq_self _ _

/-- A cached mode claims its display. -/
theorem LedState.shadow_display
    {state : LedState}
    (isMode : state.status ≤ statusBreath) :
    state.shadow .display =
      some
        (displayOf state.status state.tOn.toNat state.tCycle.toNat) := by
  simp [shadow, isMode]

/-- Switching an LED, unless the cached state shows it switched already. -/
theorem Slice.Follows.switch_registers
    (follows : slice.Follows)
    (through : AlwaysThrough exchanges)
    (lit : Bool) :
    ((if slice.state.status = (if lit then statusOn else statusOff) then
          []
        else
          [Command.onOff lit]).foldl
        (Slice.send exchanges) slice).device.registers =
      Function.update slice.device.registers .display
        (if lit then Display.on else Display.off) := by
  by_cases cached :
      slice.state.status = if lit then statusOn else statusOff
  · have isMode : slice.state.status ≤ statusBreath := by
      rw [cached]
      cases lit <;> decide
    rw [if_pos cached]
    refine (follows.update_eq_self ?_).symm
    rw [LedState.shadow_display isMode, cached]
    cases lit <;> rfl
  · rw [if_neg cached]
    exact Slice.foldl_send_registers through [.onOff lit] slice

/-- A request has its effect, whether or not its commands are elided. -/
theorem Slice.Follows.perform_registers
    (follows : slice.Follows)
    (through : AlwaysThrough exchanges)
    (request : Request) :
    (slice.perform exchanges request).device.registers =
      request.effect slice.device.registers := by
  rw [Slice.perform]
  cases request with
  | on =>
      exact follows.switch_registers through true
  | periodic tOn tCycle isBlink =>
      rw [Request.commands, Request.effect]
      by_cases shown :
          slice.state.tOn = tOn ∧ slice.state.tCycle = tCycle ∧
            slice.state.status =
              if isBlink then statusBlink else statusBreath
      · rw [if_pos shown]
        obtain ⟨rfl, rfl, cached⟩ := shown
        have isMode : slice.state.status ≤ statusBreath := by
          rw [cached]
          cases isBlink <;> decide
        refine (follows.update_eq_self ?_).symm
        rw [LedState.shadow_display isMode, cached]
        cases isBlink <;> rfl
      · rw [if_neg shown, Slice.foldl_send_registers through]
        cases isBlink <;> rfl
  | color rgb =>
      by_cases isBlack : rgb = black
      · subst isBlack
        rw [Request.commands_black, Request.effect, if_pos rfl]
        exact follows.switch_registers through false
      · rw [Request.commands_color isBlack, Request.effect,
          if_neg isBlack]
        split
        · rename_i shown
          refine (follows.update_eq_self ?_).symm
          simp [LedState.shadow, shown, isBlack]
        · exact Slice.foldl_send_registers through [.color rgb] slice
  | brightness level =>
      by_cases dark : level = 0
      · rw [Request.commands, Request.effect, if_pos dark, if_pos dark]
        exact follows.switch_registers through false
      · rw [Request.commands, Request.effect, if_neg dark, if_neg dark,
          Slice.foldl_send_registers through, List.foldl_append]
        have dims :
            (if slice.state.brightness.toUInt32 = level then []
              else [Command.brightness level.toUInt8]).foldl
                (fun registers command =>
                  Function.update registers command.register
                    command.value)
                slice.device.registers =
              Function.update slice.device.registers .brightness
                level.toUInt8 := by
          split
          · rename_i shown
            have same : level.toUInt8 = slice.state.brightness := by
              rw [← shown]
              simp
            have notZero : slice.state.brightness ≠ 0 := by
              intro isZero
              rw [isZero] at shown
              exact dark shown.symm
            refine (follows.update_eq_self ?_).symm
            simp [LedState.shadow, same, notZero]
          · rfl
        simp only [dims, follows.off_iff]
        split <;> rfl

/-- Requests have their effects one after the other. -/
theorem Slice.Follows.performAll_registers
    (follows : slice.Follows)
    (through : AlwaysThrough exchanges)
    (requests : List Request) :
    (requests.foldl (Slice.perform exchanges) slice).Follows ∧
      (requests.foldl (Slice.perform exchanges)
          slice).device.registers =
        requests.foldl Request.effect slice.device.registers := by
  induction requests generalizing slice with
  | nil =>
      exact ⟨follows, rfl⟩
  | cons request rest inductionHypothesis =>
      have performed :=
        Slice.perform_follows follows
          (Slice.sparesAll_of_through through slice
            (request.commands slice.state))
      obtain ⟨stillFollows, replayed⟩ := inductionHypothesis performed
      refine ⟨stillFollows, replayed.trans ?_⟩
      rw [follows.perform_registers through]
      rfl

end Effect

section Run

variable
  {script : Script}
  {led : LedIndex}

/-- The request that a call makes of an LED. -/
def Call.requestOf?
    (led : LedIndex)
    (call : Call) : Option Request :=
  if call.led = led then call.request? else none

/-- A call has the effect of its request on the LED, and leaves others alone. -/
theorem Call.perform_registers
    {priv : LedArray}
    (follows : (priv.slice led).Follows)
    (through : AlwaysThrough (script led))
    (call : Call) :
    ((call.perform script priv).slice led).Follows ∧
      ((call.perform script priv).bus.mcu led).registers =
        (call.requestOf? led).toList.foldl Request.effect
          (priv.bus.mcu led).registers := by
  rw [Call.perform_eq, Call.requestOf?]
  by_cases addressed : call.led = led
  · subst addressed
    rw [if_pos rfl]
    cases made : call.request? with
    | none =>
        exact ⟨follows, rfl⟩
    | some request =>
        have sliced :
            (KernelDriver.perform script priv call.led request).slice
                call.led =
              (priv.slice call.led).perform (script call.led) request :=
          perform_slice script priv request
        refine ⟨?_, ?_⟩
        · rw [sliced]
          exact
            Slice.perform_follows follows
              (Slice.sparesAll_of_through through _ _)
        · have effect := follows.perform_registers through request
          rw [← sliced] at effect
          exact effect
  · rw [if_neg addressed]
    cases made : call.request? with
    | none =>
        exact ⟨follows, rfl⟩
    | some request =>
        have kept :=
          perform_other script priv request (Ne.symm addressed)
        refine ⟨?_, ?_⟩
        · rw [kept]
          exact follows
        · exact congrArg (fun slice => slice.device.registers) kept

/-- Calls have the effects of the requests that they make of the LED. -/
theorem run_registers
    {isRegistered : LedIndex → Bool}
    (through : AlwaysThrough (script led))
    {priv after : LedArray}
    {calls : List Call}
    (follows : (priv.slice led).Follows)
    (ran :
      PartialRun.run? (step script isRegistered) priv calls =
        some after) :
    (after.slice led).Follows ∧
      (after.bus.mcu led).registers =
        (calls.filterMap (Call.requestOf? led)).foldl Request.effect
          (priv.bus.mcu led).registers := by
  induction calls generalizing priv with
  | nil =>
      cases ran
      exact ⟨follows, rfl⟩
  | cons call rest inductionHypothesis =>
      obtain ⟨next, taken, later⟩ :=
        PartialRun.run?_cons_eq_some.mp ran
      rw [perform_of_step taken] at later
      obtain ⟨stillFollows, registers⟩ :=
        Call.perform_registers follows through call
      obtain ⟨follows, replayed⟩ :=
        inductionHypothesis stillFollows later
      refine ⟨follows, replayed.trans ?_⟩
      rw [registers]
      cases made : call.requestOf? led <;>
        simp [made]

/-- The two requests that the probe makes of an LED it could read. -/
def probeRequests : List Request :=
  [.brightness 128, .color ⟨0xff, 0xff, 0xff⟩]

/-- The probe transmits what its two requests transmit one after the other. -/
theorem Slice.foldl_probeCommands
    (exchanges : Nat → Exchange)
    (slice : Slice) :
    (probeCommands slice.state).foldl (send exchanges) slice =
      probeRequests.foldl (perform exchanges) slice := by
  have notBlack : (⟨0xff, 0xff, 0xff⟩ : Rgb) ≠ black := by decide
  have kept := slice.perform_brightness_color exchanges 128
  rw [Slice.perform] at kept
  simp only [probeRequests, probeCommands, List.foldl_append,
    List.foldl_cons, List.foldl_nil, Slice.perform,
    Request.commands_color notBlack, kept]

/-- The registers of an LED that the probe could read correctly. -/
theorem probe_registers
    {replies : LedIndex → Nat → Except Errno (List UInt8)}
    {mcu : LedIndex → McuLed}
    (through : AlwaysThrough (script led))
    (isRegistered :
      registered (probe script replies mcu) led = true)
    (read : ReadCorrectly replies mcu led) :
    ((probe script replies mcu).slice led).Follows ∧
      ((probe script replies mcu).bus.mcu led).registers =
        probeRequests.foldl Request.effect (mcu led).registers := by
  have valid :
      (getStateRobust (replies led) .zero).status ≠ stateInvalid := by
    intro invalid
    have unregistered :
        ((probe script replies mcu).slice led).state.status =
          stateInvalid := by
      rw [probe_slice, Slice.probe, if_pos invalid]
      exact invalid
    have valid :
        ((probe script replies mcu).state led).status ≠
          stateInvalid := by
      simpa [registered] using isRegistered
    exact valid unregistered
  have sliced :
      (probe script replies mcu).slice led =
        probeRequests.foldl (Slice.perform (script led))
          (readSlice replies mcu led) := by
    rw [← Slice.foldl_probeCommands, probe_slice, Slice.probe,
      if_neg valid]
    rfl
  obtain ⟨follows, replayed⟩ :=
    (readSlice_follows read).performAll_registers through probeRequests
  rw [← sliced] at follows replayed
  exact ⟨follows, replayed⟩

end Run

/--
From a probe on that reads an LED correctly, through every run of calls on the
class devices, the MCU's registers of an LED whose own commands go through are
what the requests make of them one after the other, beginning with the two of the
probe: as if no command had been elided, and whatever happens to the commands of
other LEDs.
-/
theorem registers_of_run
    {script : Script}
    {replies : LedIndex → Nat → Except Errno (List UInt8)}
    {mcu : LedIndex → McuLed}
    {led : LedIndex}
    (through : AlwaysThrough (script led))
    (isRegistered :
      registered (probe script replies mcu) led = true)
    (read : ReadCorrectly replies mcu led)
    {calls : List Call}
    {after : LedArray}
    (ran :
      PartialRun.run?
        (step script (registered (probe script replies mcu)))
        (probe script replies mcu) calls =
          some after) :
    (after.bus.mcu led).registers =
      (probeRequests ++ calls.filterMap (Call.requestOf? led)).foldl
        Request.effect (mcu led).registers := by
  obtain ⟨follows, probed⟩ := probe_registers through isRegistered read
  obtain ⟨-, replayed⟩ := run_registers through follows ran
  rw [replayed, probed, List.foldl_append]

/-- A script in which only the commands to the network LED are answered. -/
def onlyNetworkScript : Script :=
  fun led _ _ =>
    if led.val = 1 then .accepted else .unanswered true

/-- The network LED is steady after a blink, whatever the other LEDs do. -/
theorem registers_of_run_beside_failures :
    let led : LedIndex := ⟨1, by decide⟩
    ∃ after,
      PartialRun.run?
          (step onlyNetworkScript
            (registered
              (probe onlyNetworkScript steadyReplies steadyMcu)))
          (probe onlyNetworkScript steadyReplies steadyMcu)
          blinkThenSteady =
        some after ∧
      (after.bus.mcu led).registers =
        (probeRequests ++
            blinkThenSteady.filterMap
              (Call.requestOf? led)).foldl
          Request.effect (steadyMcu led).registers := by
  intro led
  have through : AlwaysThrough (onlyNetworkScript led) :=
    fun _ => ⟨0, by decide, rfl, rfl⟩
  have read : ReadCorrectly steadyReplies steadyMcu led := rfl
  exact ⟨_, rfl, registers_of_run through rfl read rfl⟩

end KernelDriver

end UgreenLeds
