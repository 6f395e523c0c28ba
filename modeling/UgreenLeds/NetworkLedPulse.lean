import UgreenLeds.LocalFold
import UgreenLeds.NetworkLed
import UgreenLeds.PartialRun

/-!
# The pulse state machine

What each callback of the network policy can do, and the invariant that this
gives: a lit LED has a timer that will end its pulse, and a dark one has nothing
left to show.  An iteration of the event loop runs the timer's callback when the
timer is readable, lets the disk policy use the controller, and renders after it
has consumed what is in the ring buffer.
-/

namespace UgreenLeds

namespace NetworkLed

section Parts

variable {Credit : Type}

/-- Arming the pulse timer works unless the system call fails. -/
theorem armTimer_none (network : NetworkLed Credit) :
    network.armTimer none =
      (.ok (),
        { network with timer := some (pulseTime network.config) }) := by
  have nonzero :
      ¬ ((pulseTime network.config).tvSec = 0 ∧
        (pulseTime network.config).tvNsec = 0) := by
    simp only [pulseTime]
    split
    · simp
    · assumption
  simp only [armTimer, Timerfd.settime, if_neg nonzero]

/-- Ending a pulse changes the controller and the flag. -/
theorem finishPulse_eq
    (script : Script)
    (network : NetworkLed Credit) :
    ∃ controller,
      network.finishPulse script =
        { network with controller, ledOn := false } := by
  simp only [finishPulse]
  rcases network.controller.setOn script ledNetwork false with
    ⟨error | done, controller⟩
  · exact ⟨controller.invalidate ledNetwork, rfl⟩
  · exact ⟨controller, rfl⟩

/-- The samples of the consumed events. -/
def addSamples
    (network : NetworkLed Credit)
    (samples : List PulseScheduler.Call) : NetworkLed Credit :=
  samples.foldl
    (fun network sample => network.addSample sample.1 sample.2) network

/-- Everything but the bytes that are pending. -/
def withoutPending (network : NetworkLed Credit) : NetworkLed Credit :=
  { network with pendingRxBytes := 0, pendingTxBytes := 0 }

/-- Samples change nothing but what is pending. -/
theorem addSamples_withoutPending
    (network : NetworkLed Credit)
    (samples : List PulseScheduler.Call) :
    (network.addSamples samples).withoutPending =
      network.withoutPending := by
  unfold addSamples
  apply LocalFold.frame_foldl withoutPending
  intro state sample
  rfl

/--
A lit LED has a timer that is armed or has expired unread, a dark one has no
bytes pending, and the scheduler never had to choose between two zeros.
-/
structure Pulsing (network : NetworkLed Credit) : Prop where
  timed :
    network.ledOn = true →
    network.timer.isSome
  drained :
    network.ledOn = false →
    network.pendingRxBytes = 0 ∧ network.pendingTxBytes = 0
  meaningful :
    ∀ call ∈ network.scheduled, call ≠ (0, 0)

end Parts

section Start

variable {Credit : Type} [NatCast Credit]

/-- The policy starts dark with nothing pending. -/
theorem zeroed_pulsing
    (controller : LedController)
    (config : Config) :
    (zeroed controller config : NetworkLed Credit).Pulsing := by
  refine ⟨?_, fun _ => ⟨rfl, rfl⟩, ?_⟩
  · intro lit
    cases lit
  · intro call member
    cases member

/-- `network_led_init` leaves the policy zeroed, whatever it returns. -/
theorem init_eq
    (script : Script)
    (controller : LedController)
    (config : Config) :
    ∃ after,
      (init script controller config : Status × NetworkLed Credit).2 =
        zeroed after config := by
  simp only [init]
  rcases controller.setBrightness script ledNetwork
      config.networkBrightness.toUInt8 with
    ⟨error | done, dimmed⟩
  · exact ⟨dimmed, rfl⟩
  · exact ⟨(dimmed.setOn script ledNetwork false).2, rfl⟩

end Start

variable
  {Credit : Type}
  [NatCast Credit] [Add Credit] [Sub Credit] [Div Credit]
  [LE Credit] [DecidableLE Credit]

/-- Everything `network_led_render` can do. -/
theorem render_cases
    (script : Script)
    (network : NetworkLed Credit)
    (settime : Option Errno) :
    (network.render script settime = (.ok (), network) ∧
        (network.ledOn = true ∨
          network.pendingRxBytes = 0 ∧ network.pendingTxBytes = 0)) ∨
      (network.ledOn = false ∧
        ¬ (network.pendingRxBytes = 0 ∧
            network.pendingTxBytes = 0) ∧
        ((∃ error controller,
            startPulse script network.controller network.pulseColor =
                (.error error, controller) ∧
              network.render script settime =
                (.ok (),
                  { network.takePending with
                    controller := controller.invalidate ledNetwork
                    ledOn := false })) ∨
          (∃ controller,
            startPulse script network.controller network.pulseColor =
                (.ok (), controller) ∧
              settime = none ∧
              network.render script settime =
                (.ok (),
                  { network.takePending with
                    controller
                    ledOn := true
                    timer := some (pulseTime network.config) })) ∨
          ∃ error controller,
            startPulse script network.controller network.pulseColor =
                (.ok (), controller) ∧
              settime = some error ∧
              network.render script settime =
                (.error error,
                  { network.takePending with
                    controller :=
                      (controller.setOn script ledNetwork false).2
                    ledOn := false }))) := by
  by_cases lit : network.ledOn = true
  · exact Or.inl ⟨by simp [render, lit], Or.inl lit⟩
  by_cases silent :
      network.pendingRxBytes = 0 ∧ network.pendingTxBytes = 0
  · exact Or.inl ⟨by simp [render, lit, silent], Or.inr silent⟩
  refine Or.inr ⟨by simpa using lit, silent, ?_⟩
  have sameController :
      network.takePending.controller = network.controller := rfl
  simp only [render, if_neg lit, if_neg silent, sameController]
  rcases startPulse script network.controller network.pulseColor with
    ⟨error | done, controller⟩
  · exact Or.inl ⟨error, controller, rfl, rfl⟩
  · cases settime with
    | none =>
        refine Or.inr (Or.inl ⟨controller, rfl, rfl, ?_⟩)
        simp only [armTimer_none]
        rfl
    | some error =>
        exact Or.inr (Or.inr ⟨error, controller, rfl, rfl, rfl⟩)

/-- Everything `network_led_handle_timer` can do. -/
theorem handleTimer_cases
    (script : Script)
    (network : NetworkLed Credit)
    (read settime : Option Errno) :
    (∃ error,
        read = some error ∧ error ≠ .eagain ∧
          network.handleTimer script read settime =
            (.error error, network)) ∨
      (∀ error, read = some error → error = .eagain) ∧
        ∃ timer,
          (network.ledOn = false ∧
              network.handleTimer script read settime =
                (.ok (), { network with timer })) ∨
            (network.ledOn = true ∧
              network.handleTimer script read settime =
                (finishPulse script { network with timer }).render
                  script settime) := by
  cases read with
  | none =>
      refine Or.inr ⟨by simp, none, ?_⟩
      cases lit : network.ledOn with
      | false =>
          exact Or.inl ⟨rfl, by simp [handleTimer, Timerfd.read, lit]⟩
      | true =>
          exact Or.inr ⟨rfl, by simp [handleTimer, Timerfd.read, lit]⟩
  | some error =>
      by_cases again : error = .eagain
      · refine Or.inr ⟨by simp [again], network.timer, ?_⟩
        cases lit : network.ledOn with
        | false =>
            exact
              Or.inl
                ⟨rfl, by simp [handleTimer, Timerfd.read, again, lit]⟩
        | true =>
            exact
              Or.inr
                ⟨rfl, by simp [handleTimer, Timerfd.read, again, lit]⟩
      · refine Or.inl ⟨error, rfl, again, ?_⟩
        simp [handleTimer, Timerfd.read, again]

/-- Taking what is pending records one meaningful call. -/
theorem takePending_meaningful
    {network : NetworkLed Credit}
    (meaningful : ∀ call ∈ network.scheduled, call ≠ (0, 0))
    (pending :
      ¬ (network.pendingRxBytes = 0 ∧ network.pendingTxBytes = 0)) :
    ∀ call ∈ network.takePending.scheduled, call ≠ (0, 0) := by
  intro call member
  rcases List.mem_append.mp member with earlier | latest
  · exact meaningful call earlier
  · rw [List.mem_singleton] at latest
    intro silent
    rw [latest, Prod.mk.injEq] at silent
    exact pending silent

/--
A render that returns `0` establishes the state machine if a lit LED had its
timer: it drains what is pending or finds the LED lit.
-/
theorem render_pulsing
    {script : Script}
    {network after : NetworkLed Credit}
    {settime : Option Errno}
    (timed : network.ledOn = true → network.timer.isSome)
    (meaningful : ∀ call ∈ network.scheduled, call ≠ (0, 0))
    (rendered : network.render script settime = (.ok (), after)) :
    after.Pulsing := by
  rcases render_cases script network settime with
      ⟨unchanged, covered⟩ | ⟨-, pending, outcome⟩
  · rw [unchanged] at rendered
    cases rendered
    refine ⟨timed, ?_, meaningful⟩
    intro dark
    rcases covered with lit | silent
    · rw [dark] at lit
      cases lit
    · exact silent
  · have later := takePending_meaningful meaningful pending
    rcases outcome with
        ⟨-, controller, -, dropped⟩ |
          ⟨controller, -, -, lit⟩ |
          ⟨error, controller, -, -, failed⟩
    · rw [dropped] at rendered
      cases rendered
      refine ⟨?_, fun _ => ⟨rfl, rfl⟩, later⟩
      intro lit
      cases lit
    · rw [lit] at rendered
      cases rendered
      refine ⟨fun _ => rfl, ?_, later⟩
      intro dark
      cases dark
    · rw [failed] at rendered
      cases rendered

/-- A timer callback that returns `0` keeps the state machine. -/
theorem Pulsing.handleTimer
    {script : Script}
    {network after : NetworkLed Credit}
    (pulsing : network.Pulsing)
    {read settime : Option Errno}
    (handled :
      network.handleTimer script read settime = (.ok (), after)) :
    after.Pulsing := by
  rcases handleTimer_cases script network read settime with
      ⟨error, -, -, failed⟩ |
        ⟨-, timer, ⟨dark, unchanged⟩ | ⟨-, finished⟩⟩
  · rw [failed] at handled
    cases handled
  · rw [unchanged] at handled
    cases handled
    refine ⟨?_, fun _ => pulsing.drained dark, pulsing.meaningful⟩
    intro lit
    simp only at lit
    rw [dark] at lit
    cases lit
  · obtain ⟨controller, ended⟩ :=
      finishPulse_eq script { network with timer }
    rw [finished, ended] at handled
    refine render_pulsing ?_ ?_ handled
    · intro lit
      cases lit
    · exact pulsing.meaningful

/-- What one iteration of `run_event_loop` meets. -/
structure Iteration where
  /-- The results of `read` and `timerfd_settime` if the timer is readable. -/
  timer : Option (Option Errno × Option Errno)
  /-- What the disk policy's callbacks return and do to the controller. -/
  disks : LedController → Status × LedController
  /-- The samples consumed if the ring buffer is readable. -/
  bpf : Option (List PulseScheduler.Call × Option Errno × Option Errno)

/-- The part of `run_event_loop` that follows the network timer. -/
def iterateRest
    (script : Script)
    (network : NetworkLed Credit)
    (iteration : Iteration) : Status × NetworkLed Credit :=
  match iteration.disks network.controller with
  | (.error error, controller) =>
      (.error error, { network with controller })
  | (.ok (), controller) =>
      match iteration.bpf with
      | none =>
          (.ok (), { network with controller })
      | some (samples, consumed, settime) =>
          let sampled :=
            addSamples { network with controller } samples
          match consumed with
          | some error =>
              (.error error, sampled)
          | none =>
              sampled.render script settime

/-- One iteration of `run_event_loop`, seen from the network policy. -/
def iterate
    (script : Script)
    (network : NetworkLed Credit)
    (iteration : Iteration) : Status × NetworkLed Credit :=
  match iteration.timer with
  | none =>
      network.iterateRest script iteration
  | some (read, settime) =>
      match network.handleTimer script read settime with
      | (.error error, network) =>
          (.error error, network)
      | (.ok (), network) =>
          network.iterateRest script iteration

/-- An iteration as a step of a run; an error ends the loop. -/
def step
    (script : Script)
    (network : NetworkLed Credit)
    (iteration : Iteration) : Option (NetworkLed Credit) :=
  match network.iterate script iteration with
  | (.error _, _) =>
      none
  | (.ok (), network) =>
      some network

/-- The part after the network timer keeps the state machine. -/
theorem Pulsing.iterateRest
    {script : Script}
    {network after : NetworkLed Credit}
    (pulsing : network.Pulsing)
    {iteration : Iteration}
    (iterated :
      network.iterateRest script iteration = (.ok (), after)) :
    after.Pulsing := by
  rcases used : iteration.disks network.controller with
    ⟨error | done, controller⟩
  · simp [NetworkLed.iterateRest, used] at iterated
  rcases readable : iteration.bpf with
    _ | ⟨samples, error | _, settime⟩
  · simp only [NetworkLed.iterateRest, used, readable] at iterated
    cases iterated
    exact ⟨pulsing.timed, pulsing.drained, pulsing.meaningful⟩
  · simp only [NetworkLed.iterateRest, used, readable] at iterated
    have kept :=
      addSamples_withoutPending { network with controller } samples
    refine render_pulsing ?_ ?_ iterated
    · have sameLit := congrArg NetworkLed.ledOn kept
      have sameTimer := congrArg NetworkLed.timer kept
      simp only [withoutPending] at sameLit sameTimer
      rw [sameLit, sameTimer]
      exact pulsing.timed
    · have sameCalls := congrArg NetworkLed.scheduled kept
      simp only [withoutPending] at sameCalls
      rw [sameCalls]
      exact pulsing.meaningful
  · simp [NetworkLed.iterateRest, used, readable] at iterated

/-- An iteration that returns no error keeps the state machine. -/
theorem Pulsing.step
    {script : Script}
    {network after : NetworkLed Credit}
    (pulsing : network.Pulsing)
    {iteration : Iteration}
    (stepped : network.step script iteration = some after) :
    after.Pulsing := by
  have iterated :
      network.iterate script iteration = (.ok (), after) := by
    rcases iterated : network.iterate script iteration with
      ⟨error | done, final⟩
    · simp [NetworkLed.step, iterated] at stepped
    · simp only [NetworkLed.step, iterated, Option.some.injEq] at stepped
      rw [stepped]
  rcases readable : iteration.timer with _ | ⟨read, settime⟩
  · simp only [iterate, readable] at iterated
    exact pulsing.iterateRest iterated
  · rcases handled : network.handleTimer script read settime with
      ⟨error | done, ended⟩
    · simp [iterate, readable, handled] at iterated
    · simp only [iterate, readable, handled] at iterated
      exact (pulsing.handleTimer handled).iterateRest iterated

/--
At the end of every iteration of the event loop a lit LED has its timer, a dark
one has nothing pending, and every call of the scheduler had bytes to weigh.
-/
theorem pulsing_of_run
    {script : Script}
    {controller : LedController}
    {config : Config}
    {iterations : List Iteration}
    {network : NetworkLed Credit}
    (accepted :
      PartialRun.run? (step script)
          (init script controller config).2 iterations =
        some network) :
    (network.ledOn = true → network.timer.isSome) ∧
      (network.ledOn = false →
        network.pendingRxBytes = 0 ∧ network.pendingTxBytes = 0) ∧
      ∀ call ∈ network.scheduled, call ≠ (0, 0) := by
  obtain ⟨after, started⟩ :
      ∃ after,
        (init script controller config : Status × NetworkLed Credit).2 =
          zeroed after config :=
    init_eq script controller config
  rw [started] at accepted
  have pulsing : network.Pulsing :=
    PartialRun.invariant_of_step
      (fun pulsing stepped => pulsing.step stepped)
      (zeroed_pulsing after config) accepted
  exact ⟨pulsing.timed, pulsing.drained, pulsing.meaningful⟩

/-- A disk policy with nothing to do. -/
def idleDisks (controller : LedController) : Status × LedController :=
  (.ok (), controller)

/-- A burst, a spurious wake-up with more traffic, and the end of both. -/
def burstIterations : List Iteration :=
  [⟨none, idleDisks, some ([(100, 0), (20, 7)], none, none)⟩,
    ⟨some (some .eagain, none), idleDisks,
      some ([(0, 50)], none, none)⟩,
    ⟨some (none, none), idleDisks, none⟩,
    ⟨some (none, none), idleDisks, none⟩]

/-- The pulse state machine at the end of `burstIterations`. -/
theorem pulsing_after_bursts :
    ∃ network : NetworkLed ℚ,
      PartialRun.run? (step fun _ _ _ => .accepted)
          (init (fun _ _ _ => .accepted)
            (.initial fun _ => ⟨statusOff, 0, ⟨0, 0, 0⟩, 0, 0⟩)
            .defaults).2
          burstIterations =
        some network ∧
      (network.ledOn = true → network.timer.isSome) ∧
      (network.ledOn = false →
        network.pendingRxBytes = 0 ∧ network.pendingTxBytes = 0) ∧
      ∀ call ∈ network.scheduled, call ≠ (0, 0) := by
  have completes :
      (PartialRun.run? (step fun _ _ _ => .accepted)
        (init (fun _ _ _ => .accepted)
            (.initial fun _ => ⟨statusOff, 0, ⟨0, 0, 0⟩, 0, 0⟩)
            .defaults : Status × NetworkLed ℚ).2
        burstIterations).isSome = true := by
    decide +kernel
  obtain ⟨network, accepted⟩ := Option.isSome_iff_exists.mp completes
  exact ⟨network, accepted, pulsing_of_run accepted⟩

end NetworkLed

end UgreenLeds
