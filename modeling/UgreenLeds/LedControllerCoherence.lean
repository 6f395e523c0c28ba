import UgreenLeds.LedControllerSlice
import UgreenLeds.McuRegisters
import UgreenLeds.PartialRun

/-!
# Coherence of the daemon's LED cache

The controller's cache is a shadow of the MCU's registers that forgets a whole
LED when a command to it is lost.  As long as no sleep fails for a reason other
than an interrupting signal, every setter refines one write of the shadowed
register library, so the cache stays coherent over every run, and a setter that
returns `0` has made the MCU show what was asked for.
-/

namespace UgreenLeds

open ShadowedRegister

/-- No sleep fails, except by being interrupted. -/
def SleepsOnlyInterrupted (exchanges : Nat → Exchange) : Prop :=
  ∀ command attempt,
    LedController.sleepFailure (exchanges command attempt).delay =
        none ∧
      LedController.sleepFailure (exchanges command attempt).settle =
        none

/-- The status byte of a known mode. -/
def LedMode.status? : LedMode → Option UInt8
  | .unknown => none
  | .off => some statusOff
  | .on => some statusOn
  | .blink => some statusBlink
  | .breath => some statusBreath

/-- The registers a cache entry claims to know. -/
def LedCache.shadow (cache : LedCache) : Shadow LedRegister.Value
  | .color =>
      if cache.colorValid then some cache.color else none
  | .brightness =>
      if cache.brightnessValid then some cache.brightness else none
  | .display =>
      cache.mode.status?.map fun status =>
        displayOf status cache.onMs.toNat
          (cache.onMs.toNat + cache.offMs.toNat)

namespace LedController

namespace Request

/-- The cache elides a request exactly when its shadow shows the value. -/
theorem cached_iff_shown
    {request : Request}
    (fits : request.Fits)
    (cache : LedCache) :
    request.cached cache = true ↔
      cache.shadow request.command.register =
        some request.command.value := by
  cases request with
  | color rgb =>
      simp [cached, command, Command.register, Command.value,
        LedCache.shadow]
  | brightness level =>
      simp [cached, command, Command.register, Command.value,
        LedCache.shadow]
  | onOff lit =>
      cases lit <;> cases known : cache.mode <;>
        simp [cached, command, Command.register, Command.value,
          LedCache.shadow, LedMode.status?, displayOf, known,
          statusOff, statusOn, statusBlink, statusBreath]
  | blink onMs offMs isBreath =>
      have summed :
          (onMs + offMs).toNat = onMs.toNat + offMs.toNat := by
        rw [UInt16.toNat_add]
        exact Nat.mod_eq_of_lt fits
      have timing :
          (cache.onMs = onMs ∧ cache.offMs = offMs) ↔
            (cache.onMs.toNat = onMs.toNat ∧
              cache.onMs.toNat + cache.offMs.toNat =
                onMs.toNat + offMs.toNat) := by
        rw [← UInt16.toNat_inj, ← UInt16.toNat_inj]
        omega
      cases isBreath <;> cases known : cache.mode <;>
        simp [cached, command, Command.register, Command.value,
          LedCache.shadow, LedMode.status?, displayOf, known, summed,
          timing, statusOff, statusOn, statusBlink, statusBreath]

/-- Recording a request shows its value and changes nothing else shown. -/
theorem shadow_record
    {request : Request}
    (fits : request.Fits)
    (cache : LedCache) :
    (request.record cache).shadow =
      Function.update cache.shadow request.command.register
        (some request.command.value) := by
  funext register
  cases request with
  | color rgb =>
      cases register <;> rfl
  | brightness level =>
      cases register <;> rfl
  | onOff lit =>
      cases lit <;> cases register <;> rfl
  | blink onMs offMs isBreath =>
      have summed :
          (onMs + offMs).toNat = onMs.toNat + offMs.toNat := by
        rw [UInt16.toNat_add]
        exact Nat.mod_eq_of_lt fits
      cases isBreath <;> cases register <;>
        simp [record, command, Command.register, Command.value,
          LedCache.shadow, LedMode.status?, displayOf, summed,
          statusOff, statusOn, statusBlink, statusBreath]

end Request

namespace Slice

/-- A slice as a device with a shadow. -/
def registers (slice : Slice) : Registers LedRegister.Value where
  device := slice.device.registers
  shadow := slice.cache.shadow

/-- The device side of a slice's registers. -/
theorem registers_device (slice : Slice) :
    slice.registers.device = slice.device.registers :=
  rfl

section Set

variable (exchanges : Nat → Exchange)

/-- Whether the next command to this LED is acknowledged. -/
def Acknowledged (slice : Slice) : Prop :=
  slice.outcome exchanges = .acknowledged

instance (slice : Slice) : Decidable (slice.Acknowledged exchanges) :=
  inferInstanceAs (Decidable (_ = _))

/-- The fate of the next command to this LED. -/
def delivery (slice : Slice) : Delivery :=
  if slice.Acknowledged exchanges then
    .acknowledged
  else
    .lost (slice.executes exchanges)

/-- An acknowledged frame has been executed. -/
theorem executes_of_acknowledged
    {slice : Slice}
    (acknowledged : slice.Acknowledged exchanges) :
    slice.executes exchanges = true := by
  refine RetryLoop.executes_of_acknowledged ?_ acknowledged
  intro attempt success
  simp only [answers, answer] at success ⊢
  split at success <;> try cases success
  split at success <;> try cases success
  split at success <;> try cases success
  split at success <;> try cases success
  split at success
  · simp_all
  · cases success

/-- Interrupted sleeps never abort the retry loop. -/
theorem neverAborts
    (sleeps : SleepsOnlyInterrupted exchanges)
    (slice : Slice) :
    RetryLoop.NeverAborts (slice.answers exchanges) := by
  intro attempt error
  obtain ⟨delay, settle⟩ := sleeps slice.served attempt
  simp only [answers, answer, delay, settle]
  split
  · simp
  · split
    · simp
    · split <;> simp

/-- The slice after a command that is transmitted and acknowledged. -/
theorem set_of_acknowledged
    {request : Request}
    {slice : Slice}
    (notCached : request.cached slice.cache = false)
    (acknowledged : slice.Acknowledged exchanges) :
    slice.set exchanges request =
      (.ok (),
        { cache := request.record slice.cache
          device := request.command.execute slice.device
          served := slice.served + 1 }) := by
  have executed :=
    executes_of_acknowledged exchanges acknowledged
  have ended : slice.outcome exchanges = .acknowledged := acknowledged
  simp [set, notCached, send, ended, executed]

/-- The slice after a command whose every attempt fails. -/
theorem set_of_lost
    (sleeps : SleepsOnlyInterrupted exchanges)
    {request : Request}
    {slice : Slice}
    (notCached : request.cached slice.cache = false)
    (lost : ¬ slice.Acknowledged exchanges) :
    ∃ error,
      slice.set exchanges request =
        (.error error,
          { cache := .zero
            device :=
              if slice.executes exchanges then
                request.command.execute slice.device
              else
                slice.device
            served := slice.served + 1 }) := by
  cases ended : slice.outcome exchanges with
  | acknowledged =>
      exact (lost ended).elim
  | aborted error =>
      exact
        (RetryLoop.outcome_ne_aborted
          (neverAborts exchanges sleeps slice) _ _ _ _ ended).elim
  | exhausted error =>
      exact ⟨error, by simp [set, notCached, send, ended]⟩

/-- A setter succeeds exactly when it is elided or acknowledged. -/
theorem set_ok_iff
    (sleeps : SleepsOnlyInterrupted exchanges)
    (request : Request)
    (slice : Slice) :
    (slice.set exchanges request).1 = .ok () ↔
      request.cached slice.cache = true ∨
        slice.Acknowledged exchanges := by
  cases cached : request.cached slice.cache with
  | true =>
      simp [set, cached]
  | false =>
      by_cases acknowledged : slice.Acknowledged exchanges
      · simp [set_of_acknowledged exchanges cached acknowledged,
          acknowledged]
      · obtain ⟨error, after⟩ :=
          set_of_lost exchanges sleeps cached acknowledged
        simp [after, acknowledged]

/-- A setter refines one write of the shadowed register library. -/
theorem registers_set
    (sleeps : SleepsOnlyInterrupted exchanges)
    {request : Request}
    (fits : request.Fits)
    (slice : Slice) :
    (slice.set exchanges request).2.registers =
      write (fun _ _ => none)
        request.command.register request.command.value
        (slice.delivery exchanges) slice.registers := by
  cases cached : request.cached slice.cache with
  | true =>
      have shown :=
        (Request.cached_iff_shown fits slice.cache).mp cached
      simp [set, cached, write, registers, shown]
  | false =>
      have notShown :
          slice.cache.shadow request.command.register ≠
            some request.command.value := by
        intro shown
        have := (Request.cached_iff_shown fits slice.cache).mpr shown
        simp [this] at cached
      by_cases acknowledged : slice.Acknowledged exchanges
      · rw [set_of_acknowledged exchanges cached acknowledged]
        simp [registers, write, notShown, delivery, acknowledged,
          Command.registers_execute, Request.shadow_record fits]
      · obtain ⟨error, after⟩ :=
          set_of_lost exchanges sleeps cached acknowledged
        have blank : LedCache.zero.shadow = fun _ => none := by
          funext register
          cases register <;> rfl
        rw [after]
        cases executed : slice.executes exchanges <;>
          simp [registers, write, notShown, delivery, acknowledged,
            Command.registers_execute, blank, executed]

end Set

/-- The cache entry of a slice is coherent with the MCU. -/
def Coherent (slice : Slice) : Prop :=
  ShadowedRegister.Coherent slice.registers

/-- A zeroed entry is coherent with any device. -/
theorem coherent_of_zero
    {slice : Slice}
    (zeroed : slice.cache = .zero) :
    slice.Coherent := by
  refine coherent_of_blank ?_
  intro register
  cases register <;> simp [registers, zeroed, LedCache.shadow,
    LedCache.zero, LedMode.status?]

/-- Setters keep a slice coherent. -/
theorem set_coherent
    {exchanges : Nat → Exchange}
    (sleeps : SleepsOnlyInterrupted exchanges)
    {request : Request}
    (fits : request.Fits)
    {slice : Slice}
    (coherent : slice.Coherent) :
    (slice.set exchanges request).2.Coherent := by
  unfold Coherent
  rw [registers_set exchanges sleeps fits]
  exact write_coherent (discards_all _) coherent

/-- A successful setter has made the MCU hold the requested value. -/
theorem set_device
    {exchanges : Nat → Exchange}
    (sleeps : SleepsOnlyInterrupted exchanges)
    {request : Request}
    (fits : request.Fits)
    {slice : Slice}
    (coherent : slice.Coherent)
    (succeeds : (slice.set exchanges request).1 = .ok ()) :
    (slice.set exchanges request).2.device.registers
        request.command.register =
      request.command.value := by
  have written :
      slice.registers.shadow request.command.register =
          some request.command.value ∨
        slice.delivery exchanges = .acknowledged := by
    rcases (set_ok_iff exchanges sleeps request slice).mp succeeds with
        cached | acknowledged
    · exact
        Or.inl ((Request.cached_iff_shown fits slice.cache).mp cached)
    · exact Or.inr (by simp [delivery, acknowledged])
  rw [← Slice.registers_device, registers_set exchanges sleeps fits]
  exact write_device coherent written

end Slice

/-- A call of a client into the controller. -/
inductive Call where
  | set (ledId : UInt8) (request : Request)
  | invalidate (ledId : UInt8)
  deriving DecidableEq, Repr

/-- Perform one call; `led_controller_invalidate` has no result. -/
def call
    (script : Script)
    (controller : LedController) :
    Call → Status × LedController
  | .set ledId request =>
      controller.set script ledId request
  | .invalidate ledId =>
      (.ok (), controller.invalidate ledId)

/-- A call as a step of a run. -/
def step
    (script : Script)
    (controller : LedController)
    (made : Call) : Option LedController :=
  some (controller.call script made).2

/-- Every known field of a cache entry is the MCU's. -/
structure EntryCoherent (cache : LedCache) (device : McuLed) : Prop where
  color :
    cache.colorValid = true →
    device.color = cache.color
  brightness :
    cache.brightnessValid = true →
    device.brightness = cache.brightness
  mode :
    ∀ status,
      cache.mode.status? = some status →
      device.status = status
  timing :
    cache.mode = .blink ∨ cache.mode = .breath →
    device.tOn = cache.onMs ∧
      device.tCycle.toNat = cache.onMs.toNat + cache.offMs.toNat

/-- The MCU holds the attribute a request names. -/
def Request.Attained : Request → McuLed → Prop
  | .color rgb, device =>
      device.color = rgb
  | .brightness level, device =>
      device.brightness = level
  | .onOff lit, device =>
      device.status = if lit then statusOn else statusOff
  | .blink onMs offMs breath, device =>
      device.status = (if breath then statusBreath else statusBlink) ∧
        device.tOn = onMs ∧
        device.tCycle.toNat = onMs.toNat + offMs.toNat

/-- A known mode of a coherent slice is the MCU's. -/
theorem Slice.Coherent.status
    {slice : Slice}
    (coherent : slice.Coherent)
    {status : UInt8}
    (known : slice.cache.mode.status? = some status) :
    slice.device.status = status := by
  have shown :=
    coherent .display _
      (by simp only [registers, LedCache.shadow, known]; rfl)
  cases mode : slice.cache.mode with
  | unknown =>
      simp [mode, LedMode.status?] at known
  | off =>
      simp only [mode, LedMode.status?, Option.some.injEq] at known
      subst known
      exact displayOf_eq_off.mp shown
  | on =>
      simp only [mode, LedMode.status?, Option.some.injEq] at known
      subst known
      exact displayOf_eq_on.mp shown
  | blink =>
      simp only [mode, LedMode.status?, Option.some.injEq] at known
      subst known
      exact (displayOf_eq_blink.mp shown).1
  | breath =>
      simp only [mode, LedMode.status?, Option.some.injEq] at known
      subst known
      exact (displayOf_eq_breath.mp shown).1

/-- A known periodic mode of a coherent slice has the MCU's timing. -/
theorem Slice.Coherent.timing
    {slice : Slice}
    (coherent : slice.Coherent)
    (periodic : slice.cache.mode = .blink ∨ slice.cache.mode = .breath) :
    slice.device.tOn = slice.cache.onMs ∧
      slice.device.tCycle.toNat =
        slice.cache.onMs.toNat + slice.cache.offMs.toNat := by
  rcases periodic with blink | breath
  · have shown :=
      coherent .display _
        (by simp only [registers, LedCache.shadow, blink]; rfl)
    have timing := (displayOf_eq_blink.mp shown).2
    exact ⟨UInt16.toNat_inj.mp timing.1, timing.2⟩
  · have shown :=
      coherent .display _
        (by simp only [registers, LedCache.shadow, breath]; rfl)
    have timing := (displayOf_eq_breath.mp shown).2
    exact ⟨UInt16.toNat_inj.mp timing.1, timing.2⟩

/-- In a coherent slice every known cache field is the MCU's. -/
theorem Slice.Coherent.entry
    {slice : Slice}
    (coherent : slice.Coherent) :
    EntryCoherent slice.cache slice.device where
  color := by
    intro valid
    exact coherent .color slice.cache.color
      (by simp [registers, LedCache.shadow, valid])
  brightness := by
    intro valid
    exact coherent .brightness slice.cache.brightness
      (by simp [registers, LedCache.shadow, valid])
  mode := fun _ known => coherent.status known
  timing := coherent.timing

/-- A register that holds the value of a request attains the request. -/
theorem Request.attained_of_registers
    {request : Request}
    (fits : request.Fits)
    {device : McuLed}
    (holds :
      device.registers request.command.register =
        request.command.value) :
    request.Attained device := by
  cases request with
  | color rgb =>
      exact holds
  | brightness level =>
      exact holds
  | onOff lit =>
      cases lit with
      | false =>
          exact displayOf_eq_off.mp holds
      | true =>
          exact displayOf_eq_on.mp holds
  | blink onMs offMs breath =>
      have summed :
          (onMs + offMs).toNat = onMs.toNat + offMs.toNat := by
        rw [UInt16.toNat_add]
        exact Nat.mod_eq_of_lt fits
      cases breath with
      | false =>
          obtain ⟨status, onTime, cycle⟩ := displayOf_eq_blink.mp holds
          exact ⟨status, UInt16.toNat_inj.mp onTime, cycle.trans summed⟩
      | true =>
          obtain ⟨status, onTime, cycle⟩ := displayOf_eq_breath.mp holds
          exact ⟨status, UInt16.toNat_inj.mp onTime, cycle.trans summed⟩

/-- Every LED's slice is coherent. -/
def Coherent (controller : LedController) : Prop :=
  ∀ led, (controller.slice led).Coherent

section Run

variable
  {script : Script}
  (sleeps : ∀ led, SleepsOnlyInterrupted (script led))
  {controller : LedController}

include sleeps

/-- Every setter call keeps the whole cache coherent. -/
theorem set_coherent
    (coherent : controller.Coherent)
    (ledId : UInt8)
    (request : Request) :
    (controller.set script ledId request).2.Coherent := by
  intro led
  by_cases addressed : ledIndex? ledId = some led
  · by_cases fits : request.Fits
    · have sliced :=
        set_slice script controller addressed fits
      rw [show
          (controller.set script ledId request).2.slice led =
            ((controller.slice led).set (script led) request).2 from
        congrArg Prod.snd sliced]
      exact Slice.set_coherent (sleeps led) fits (coherent led)
    · rw [set_overlong script controller fits]
      exact coherent led
  · rw [set_other script controller addressed request]
    exact coherent led

omit sleeps in
/-- Invalidating any identifier keeps the whole cache coherent. -/
theorem invalidate_coherent
    (coherent : controller.Coherent)
    (ledId : UInt8) :
    (controller.invalidate ledId).Coherent := by
  intro led
  by_cases addressed : ledIndex? ledId = some led
  · rw [slice_invalidate_self controller addressed]
    exact Slice.coherent_of_zero rfl
  · rw [slice_invalidate_of_ne controller addressed]
    exact coherent led

/-- Every call is a coherence-preserving step. -/
theorem step_coherent
    {next : LedController}
    {made : Call}
    (coherent : controller.Coherent)
    (taken : controller.step script made = some next) :
    next.Coherent := by
  simp only [step, Option.some.injEq] at taken
  subst taken
  cases made with
  | set ledId request =>
      exact set_coherent sleeps coherent ledId request
  | invalidate ledId =>
      exact invalidate_coherent coherent ledId

/-- Coherence of the whole cache over every run. -/
theorem run_coherent
    {mcu : LedIndex → McuLed}
    {calls : List Call}
    (accepted :
      PartialRun.run? (step script) (initial mcu) calls =
        some controller) :
    controller.Coherent := by
  refine
    PartialRun.invariant_of_step
      (fun coherent taken => step_coherent sleeps coherent taken)
      ?_ accepted
  intro led
  exact Slice.coherent_of_zero rfl

/-- A setter that returns `0` on a coherent controller attains its request. -/
theorem set_attained
    (coherent : controller.Coherent)
    {ledId : UInt8}
    {request : Request}
    (succeeds : (controller.set script ledId request).1 = .ok ()) :
    ∃ led,
      ledIndex? ledId = some led ∧
        request.Attained
          ((controller.set script ledId request).2.bus.mcu led) := by
  cases addressed : ledIndex? ledId with
  | none =>
      rw [set_unknown script controller addressed request] at succeeds
      cases succeeds
  | some led =>
      by_cases fits : request.Fits
      · have sliced :=
          set_slice script controller addressed fits
        have status := congrArg Prod.fst sliced
        have after := congrArg Prod.snd sliced
        simp only at status after
        rw [status] at succeeds
        have holds :=
          Slice.set_device (sleeps led) fits (coherent led) succeeds
        rw [← after] at holds
        exact ⟨led, rfl, Request.attained_of_registers fits holds⟩
      · rw [set_overlong script controller fits] at succeeds
        cases succeeds

end Run

/--
After any sequence of controller calls, over any initial MCU and any outcome of
every transfer, each known cache field is the MCU's, and a further setter call
that returns `0` leaves the MCU with the value it was asked for.
-/
theorem cache_mirrors_mcu
    {script : Script}
    (sleeps : ∀ led, SleepsOnlyInterrupted (script led))
    (mcu : LedIndex → McuLed)
    (calls : List Call)
    {reached : LedController}
    (accepted :
      PartialRun.run? (step script) (initial mcu) calls =
        some reached) :
    (∀ led, EntryCoherent (reached.cache led) (reached.bus.mcu led)) ∧
      ∀ ledId request,
        (reached.set script ledId request).1 = .ok () →
        ∃ led,
          ledIndex? ledId = some led ∧
            request.Attained
              ((reached.set script ledId request).2.bus.mcu led) := by
  have coherent : reached.Coherent := run_coherent sleeps accepted
  constructor
  · intro led
    exact (coherent led).entry
  · intro ledId request succeeds
    exact set_attained sleeps coherent succeeds

/--
A script that acknowledges the first command to each LED at its third attempt
and loses every later command, executing it all the same.
-/
def lossyScript : Script :=
  fun _ command attempt =>
    if command = 0 ∧ attempt = 2 then
      .accepted
    else
      .unanswered true

/-- Calls whose blink and switch-off are lost under `lossyScript`. -/
def lossyCalls : List Call :=
  [.set 1 (.color ⟨0, 96, 255⟩), .set 1 (.blink 100 900 false),
    .invalidate 2, .set 1 (.onOff false)]

/-- A lost blink and a lost switch-off leave a coherent cache behind. -/
theorem cache_mirrors_mcu_after_losses :
    ∃ reached,
      PartialRun.run? (step lossyScript)
          (initial fun _ => ⟨statusOn, 128, ⟨255, 255, 255⟩, 0, 0⟩)
          lossyCalls =
        some reached ∧
      ∀ led,
        EntryCoherent (reached.cache led) (reached.bus.mcu led) := by
  have sleeps :
      ∀ led, SleepsOnlyInterrupted (lossyScript led) := by
    intro led command attempt
    unfold lossyScript
    split <;> exact ⟨rfl, rfl⟩
  exact
    ⟨_, rfl,
      (cache_mirrors_mcu sleeps
        (fun _ => ⟨statusOn, 128, ⟨255, 255, 255⟩, 0, 0⟩)
        lossyCalls rfl).1⟩

end LedController

end UgreenLeds
