import UgreenLeds.KernelDriverCoherence

/-!
# Runs of the driver

A run is a probe followed by calls into the class devices and attributes of the
registered LEDs.  Every call is a request or changes nothing, so the cached
state of each registered LED stays sound over a run whose transmitted commands
are all spared.  The final theorem replays the run in which one is not: a blink
command is executed, its acknowledgement is lost five times, and the request
for a steady LED that follows is elided.
-/

namespace UgreenLeds

namespace KernelDriver

/-- A call into the driver on behalf of one registered LED. -/
inductive Call where
  | setBrightnessBlocking (led : LedIndex) (brightness : UInt32)
  | setBlink (led : LedIndex) (delayOn delayOff : UInt64)
  | colorStore (led : LedIndex) (buf : List UInt8)
  | blinkTypeStore (led : LedIndex) (buf : List UInt8)
  deriving DecidableEq, Repr

namespace Call

/-- The LED a call is about. -/
def led : Call → LedIndex
  | .setBrightnessBlocking led _ => led
  | .setBlink led _ _ => led
  | .colorStore led _ => led
  | .blinkTypeStore led _ => led

/-- The array after a call. -/
def perform
    (script : Script)
    (priv : LedArray) :
    Call → LedArray
  | .setBrightnessBlocking led brightness =>
      (KernelDriver.setBrightnessBlocking script priv led brightness).2
  | .setBlink led delayOn delayOff =>
      (KernelDriver.setBlink script priv led delayOn delayOff).2.2.2
  | .colorStore led buf =>
      (KernelDriver.colorStore script priv led buf).2
  | .blinkTypeStore led buf =>
      (KernelDriver.blinkTypeStore script priv led buf).2

/-- The request that two delays amount to once they are truncated. -/
def periodicRequest
    (delayOn delayOff : UInt64)
    (isBlink : Bool) : Request :=
  .periodic (truncateDelay delayOn).toUInt16
    (truncateDelay delayOn + truncateDelay delayOff).toUInt16 isBlink

/-- The request a call makes, unless its text is rejected. -/
def request? : Call → Option Request
  | .setBrightnessBlocking _ brightness =>
      some (.brightness brightness)
  | .setBlink _ delayOn delayOff =>
      some (periodicRequest delayOn delayOff true)
  | .colorStore _ buf =>
      match scanColor buf with
      | none =>
          none
      | some (rgb, nrchars) =>
          if nrchars + 1 < buf.length then none else some (.color rgb)
  | .blinkTypeStore _ buf =>
      match scanBlinkType buf with
      | none =>
          none
      | some (blinkType, nrchars) =>
          if nrchars + 1 < buf.length then
            none
          else
            match blinkType with
            | .on =>
                some .on
            | .periodic delayOn delayOff isBlink =>
                some (periodicRequest delayOn delayOff isBlink)

/-- A call serves the request it makes; a rejected text has no effect. -/
theorem perform_eq
    (script : Script)
    (priv : LedArray)
    (call : Call) :
    call.perform script priv =
      match call.request? with
      | none =>
          priv
      | some request =>
          KernelDriver.perform script priv call.led request := by
  cases call with
  | setBrightnessBlocking led brightness =>
      rfl
  | setBlink led delayOn delayOff =>
      rfl
  | colorStore led buf =>
      simp only [perform, KernelDriver.colorStore, request?]
      rcases scanColor buf with _ | ⟨rgb, nrchars⟩
      · rfl
      · by_cases rejected : nrchars + 1 < buf.length
        · simp [rejected]
        · simp only [rejected, ↓reduceIte]
          rfl
  | blinkTypeStore led buf =>
      simp only [perform, KernelDriver.blinkTypeStore, request?]
      rcases scanBlinkType buf with _ | ⟨blinkType, nrchars⟩
      · rfl
      · by_cases rejected : nrchars + 1 < buf.length
        · simp [rejected]
        · cases blinkType <;> simp only [rejected, ↓reduceIte] <;> rfl

end Call

/-- The LEDs whose class devices a probe registers. -/
def registered
    (probed : LedArray)
    (led : LedIndex) : Bool :=
  (probed.state led).status ≠ stateInvalid

/-- One call as a step; only registered LEDs have anything to call. -/
def step
    (script : Script)
    (isRegistered : LedIndex → Bool)
    (priv : LedArray)
    (call : Call) : Option LedArray :=
  if isRegistered call.led then
    some (call.perform script priv)
  else
    none

/-- A step that is taken performs its call. -/
theorem perform_of_step
    {script : Script}
    {isRegistered : LedIndex → Bool}
    {priv next : LedArray}
    {call : Call}
    (taken : step script isRegistered priv call = some next) :
    next = call.perform script priv := by
  simp only [step] at taken
  split at taken
  · exact (Option.some.inj taken).symm
  · cases taken

section Conditions

variable
  (script : Script)
  (replies : LedIndex → Nat → Except Errno (List UInt8))
  (mcu : LedIndex → McuLed)

/-- What the probe of one LED starts from. -/
def readSlice (led : LedIndex) : Slice where
  state := getStateRobust (replies led) .zero
  device := mcu led
  served := 0

/-- The probe has read the state of one LED correctly. -/
def ReadCorrectly (led : LedIndex) : Prop :=
  (getStateRobust (replies led) .zero).view = mcu led

/-- The commands the probe transmits to an LED with a given state. -/
def probeCommands (state : LedState) : List Command :=
  (Request.brightness 128).commands state ++
    (Request.color ⟨0xff, 0xff, 0xff⟩).commands state

/-- Every command the probe transmits to a registered LED is spared. -/
def ProbeSpared : Prop :=
  ∀ led,
    registered (probe script replies mcu) led = true →
    (readSlice replies mcu led).SparesAll (script led)
      (probeCommands (readSlice replies mcu led).state)

/-- Every command a call transmits is spared. -/
def CallSpared
    (priv : LedArray)
    (call : Call) : Prop :=
  ∀ request,
    call.request? = some request →
    (priv.slice call.led).SparesAll (script call.led)
      (request.commands (priv.state call.led))

end Conditions

section Probe

variable
  (script : Script)
  (replies : LedIndex → Nat → Except Errno (List UInt8))

/-- A command that writes another register does not colour an LED. -/
theorem LedState.color_record
    {command : Command}
    (elsewhere : command.register ≠ .color)
    (state : LedState) :
    (state.record command).color = state.color := by
  cases command with
  | color rgb =>
      exact (elsewhere rfl).elim
  | _ =>
      rfl

/-- A brightness request transmits no colour. -/
theorem Request.brightness_register_ne
    {level : UInt32}
    {state : LedState}
    {command : Command}
    (member : command ∈ (Request.brightness level).commands state) :
    command.register ≠ .color := by
  simp only [Request.commands] at member
  split at member
  · split at member <;> simp_all [Command.register]
  · simp only [List.mem_append] at member
    rcases member with dims | switches
    · split at dims <;> simp_all [Command.register]
    · split at switches <;> simp_all [Command.register]

/-- A brightness request does not colour an LED in the cached state. -/
theorem Slice.perform_brightness_color
    (exchanges : Nat → Exchange)
    (slice : Slice)
    (level : UInt32) :
    (slice.perform exchanges (.brightness level)).state.color =
      slice.state.color :=
  slice.foldl_send_frame exchanges LedState.color
    fun _ member state =>
      state.color_record (Request.brightness_register_ne member)

/-- The commands of a colour request depend on the cached colour alone. -/
theorem Request.commands_color
    {rgb : Rgb}
    (notBlack : rgb ≠ black)
    (state : LedState) :
    (Request.color rgb).commands state =
      if state.color = rgb then [] else [.color rgb] := by
  have lit : ¬ (rgb.r = 0 ∧ rgb.g = 0 ∧ rgb.b = 0) := by
    rintro ⟨red, green, blue⟩
    exact notBlack (by cases rgb; simp_all [black])
  by_cases shown : state.color = rgb
  · subst shown
    rw [commands, if_neg lit, if_pos rfl]
    simp [LedState.color]
  · have changes :
        state.r ≠ rgb.r ∨ state.g ≠ rgb.g ∨ state.b ≠ rgb.b := by
      by_contra same
      simp only [ne_eq, not_or, not_not] at same
      exact shown (by cases rgb; simp_all [LedState.color])
    rw [commands, if_neg lit, if_pos changes, if_neg shown]

/-- One LED's turn in the probe, on its slice. -/
def Slice.probe
    (exchanges : Nat → Exchange)
    (replies : Nat → Except Errno (List UInt8))
    (slice : Slice) : Slice :=
  let state := getStateRobust replies slice.state
  let read : Slice := { slice with state }
  if state.status = stateInvalid then
    read
  else
    (probeCommands state).foldl (Slice.send exchanges) read

/-- The two setters the probe calls transmit the probe's commands. -/
theorem probeSetters_slice
    (priv : LedArray)
    (led : LedIndex) :
    (setColor script (setBrightness script priv led 128) led
        0xff 0xff 0xff).slice led =
      (probeCommands (priv.slice led).state).foldl
        (Slice.send (script led)) (priv.slice led) := by
  have notBlack : (⟨0xff, 0xff, 0xff⟩ : Rgb) ≠ black := by decide
  have colored :
      (perform script (setBrightness script priv led 128) led
          (.color ⟨0xff, 0xff, 0xff⟩)).slice led = _ :=
    perform_slice script _ _
  have kept :=
    Slice.perform_brightness_color (script led) (priv.slice led) 128
  rw [perform, setBrightness_slice] at colored
  rw [colored, probeCommands, List.foldl_append, Slice.perform,
    Request.commands_color notBlack, Request.commands_color notBlack,
    kept]
  rfl

/-- One LED's turn in the probe acts on its slice. -/
theorem probeLed_slice
    (priv : LedArray)
    (led : LedIndex) :
    (probeLed script replies priv led).slice led =
      (priv.slice led).probe (script led) (replies led) := by
  have read :
      (priv.setState led
          (getStateRobust (replies led) (priv.state led))).slice led =
        { priv.slice led with
          state := getStateRobust (replies led) (priv.state led) } :=
    slice_setState_self priv _
  have cached :
      ((priv.setState led
          (getStateRobust (replies led) (priv.state led))).state
            led).status =
        (getStateRobust (replies led) (priv.slice led).state).status :=
    congrArg (fun slice => slice.state.status) read
  simp only [probeLed, Slice.probe, cached]
  split
  · exact read
  · rw [probeSetters_slice, read]
    rfl

/-- One LED's turn in the probe leaves the other LEDs alone. -/
theorem probeLed_other
    (priv : LedArray)
    {led other : LedIndex}
    (different : other ≠ led) :
    (probeLed script replies priv led).slice other =
      priv.slice other := by
  have read :=
    slice_setState_of_ne priv different
      (getStateRobust (replies led) (priv.state led))
  simp only [probeLed]
  split
  · exact read
  · rw [← read]
    exact
      (perform_other script _ (.color ⟨0xff, 0xff, 0xff⟩)
        different).trans
        (perform_other script _ (.brightness 128) different)

/-- The probe treats every LED once, starting from a zeroed state. -/
theorem probe_slice
    (mcu : LedIndex → McuLed)
    (led : LedIndex) :
    (probe script replies mcu).slice led =
      Slice.probe (script led) (replies led) ⟨.zero, mcu led, 0⟩ := by
  have loop :=
    LocalFold.view_foldl LedArray.slice
      (fun led => Slice.probe (script led) (replies led))
      (fun priv led => probeLed_slice script replies priv led)
      (fun priv _ _ different =>
        probeLed_other script replies priv different)
      (List.nodup_finRange ledCount)
      { state := fun _ => .zero
        bus := { mcu, served := fun _ => 0, sent := [] } }
      led
  rw [if_pos (List.mem_finRange led)] at loop
  exact loop

/-- The commands of the probe write distinct registers. -/
theorem probeCommands_distinct (state : LedState) :
    ((probeCommands state).map Command.register).Nodup := by
  have notBlack : (⟨0xff, 0xff, 0xff⟩ : Rgb) ≠ black := by decide
  rw [probeCommands, Request.commands_color notBlack, List.map_append,
    List.nodup_append]
  refine ⟨Request.commands_distinct state _, ?_, ?_⟩
  · split <;> simp
  · intro register dims other colors
    obtain ⟨command, member, rfl⟩ := List.mem_map.mp dims
    have isColor : other = .color := by
      split at colors <;> simp_all [Command.register]
    rw [isColor]
    exact Request.brightness_register_ne member

end Probe

section Run

variable
  {script : Script}
  {replies : LedIndex → Nat → Except Errno (List UInt8)}
  {mcu : LedIndex → McuLed}

/-- A correctly read state follows the MCU. -/
theorem readSlice_follows
    {led : LedIndex}
    (read : ReadCorrectly replies mcu led) :
    (readSlice replies mcu led).Follows := by
  have device : (readSlice replies mcu led).device =
      (readSlice replies mcu led).state.view :=
    read.symm
  constructor
  · intro register value shown
    simp only [Slice.registers, device] at shown ⊢
    cases register with
    | color =>
        simp only [LedState.shadow, Option.ite_none_left_eq_some,
          Option.some.injEq] at shown
        exact shown.2
    | brightness =>
        simp only [LedState.shadow, Option.ite_none_left_eq_some,
          Option.some.injEq] at shown
        exact shown.2
    | display =>
        simp only [LedState.shadow, Option.ite_none_right_eq_some,
          Option.some.injEq] at shown
        exact shown.2
  · intro noMode
    rw [device]
    intro isOff
    have cached :
        (readSlice replies mcu led).state.status = statusOff := isOff
    rw [cached] at noMode
    exact absurd noMode (by decide)

/-- A request whose commands are all spared keeps a slice following. -/
theorem Slice.perform_follows
    {exchanges : Nat → Exchange}
    {slice : Slice}
    (follows : slice.Follows)
    {request : Request}
    (spared :
      slice.SparesAll exchanges (request.commands slice.state)) :
    (slice.perform exchanges request).Follows :=
  foldl_send_follows exchanges
    (request.commands_distinct slice.state) follows spared

/-- Every registered LED follows the MCU after a spared probe. -/
theorem probe_follows
    (spared : ProbeSpared script replies mcu)
    {led : LedIndex}
    (isRegistered :
      registered (probe script replies mcu) led = true)
    (read : ReadCorrectly replies mcu led) :
    ((probe script replies mcu).slice led).Follows := by
  rw [probe_slice, Slice.probe]
  by_cases invalid :
      (getStateRobust (replies led) .zero).status = stateInvalid
  · have unregistered :
        ((probe script replies mcu).slice led).state.status =
          stateInvalid := by
      rw [probe_slice, Slice.probe, if_pos invalid]
      exact invalid
    have valid :
        ((probe script replies mcu).state led).status ≠
          stateInvalid := by
      simpa [registered] using isRegistered
    exact (valid unregistered).elim
  · rw [if_neg invalid]
    exact
      Slice.foldl_send_follows (script led)
        (probeCommands_distinct _) (readSlice_follows read)
        (spared led isRegistered)

/-- A spared call keeps every registered LED following the MCU. -/
theorem step_follows
    {isRegistered : LedIndex → Bool}
    {priv next : LedArray}
    {call : Call}
    (follows :
      ∀ led, isRegistered led = true → (priv.slice led).Follows)
    (spared : CallSpared script priv call)
    (taken : step script isRegistered priv call = some next) :
    ∀ led, isRegistered led = true → (next.slice led).Follows := by
  intro led registeredLed
  rw [perform_of_step taken, Call.perform_eq]
  cases made : call.request? with
  | none =>
      exact follows led registeredLed
  | some request =>
      by_cases addressed : led = call.led
      · subst addressed
        simp only [perform_slice]
        exact
          Slice.perform_follows (follows call.led registeredLed)
            (spared request made)
      · simp only [perform_other script priv request addressed]
        exact follows led registeredLed

end Run

/--
In every run that starts with a probe that reads the registered LEDs correctly,
and in which every transmitted command is spared, the cached state of every
registered LED is sound after the probe and after every call.
-/
theorem state_sound_of_spared
    {script : Script}
    {replies : LedIndex → Nat → Except Errno (List UInt8)}
    {mcu : LedIndex → McuLed}
    (read :
      ∀ led,
        registered (probe script replies mcu) led = true →
        ReadCorrectly replies mcu led)
    (probeSpared : ProbeSpared script replies mcu)
    {calls : List Call}
    (callsSpared :
      PartialRun.Along
        (step script (registered (probe script replies mcu)))
        (CallSpared script)
        (probe script replies mcu) calls) :
    PartialRun.Always
      (step script (registered (probe script replies mcu)))
      (fun priv =>
        ∀ led,
          registered (probe script replies mcu) led = true →
          Sound (priv.state led) (priv.bus.mcu led))
      (probe script replies mcu) calls := by
  have start :
      ∀ led,
        registered (probe script replies mcu) led = true →
        ((probe script replies mcu).slice led).Follows :=
    fun led isRegistered =>
      probe_follows probeSpared isRegistered (read led isRegistered)
  have always :=
    PartialRun.always_of_along step_follows start callsSpared
  refine always.mono ?_
  intro priv follows led isRegistered
  exact (follows led isRegistered).sound

/-- An MCU whose LEDs are all as the probe would set them. -/
def steadyMcu : LedIndex → McuLed :=
  fun _ => ⟨statusOn, 128, ⟨255, 255, 255⟩, 0, 0⟩

/-- Replies that report `steadyMcu` truthfully. -/
def steadyReplies : LedIndex → Nat → Except Errno (List UInt8) :=
  fun _ _ => .ok [1, 128, 255, 255, 255, 0, 0, 0, 0, 3, 126]

/-- A blink of the network LED followed by a request for a steady one. -/
def blinkThenSteady : List Call :=
  [.setBlink 1 100 100, .blinkTypeStore 1 (ascii "none\n")]

/-- A script in which every command goes through at its third attempt. -/
def retryingScript : Script :=
  fun _ _ attempt =>
    if attempt = 2 then .accepted else .unanswered false

/-- Under `retryingScript` every command is spared. -/
theorem retryingScript_spares
    (led : LedIndex)
    (slice : Slice)
    (commands : List Command) :
    slice.SparesAll (retryingScript led) commands :=
  fun _ _ _ => Or.inl ⟨2, by decide, rfl, rfl⟩

/-- Two failing attempts of every command leave the cached state sound. -/
theorem state_sound_of_spared_retries :
    PartialRun.Always
      (step retryingScript
        (registered (probe retryingScript steadyReplies steadyMcu)))
      (fun priv =>
        ∀ led,
          registered (probe retryingScript steadyReplies steadyMcu)
            led = true →
          Sound (priv.state led) (priv.bus.mcu led))
      (probe retryingScript steadyReplies steadyMcu)
      blinkThenSteady := by
  have callsSpared :
      ∀ priv call, CallSpared retryingScript priv call :=
    fun _ _ _ _ => retryingScript_spares _ _ _
  exact
    state_sound_of_spared (fun _ _ => rfl)
      (fun _ _ => retryingScript_spares _ _ _)
      ⟨callsSpared _ _, fun _ _ => ⟨callsSpared _ _, fun _ _ => trivial⟩⟩

/-- Five lost acknowledgements of an executed blink leave the state unsound. -/
theorem blink_lost_misleads :
    ¬ ∀ (script : Script)
        (replies : LedIndex → Nat → Except Errno (List UInt8))
        (mcu : LedIndex → McuLed)
        (calls : List Call),
      (∀ led,
        registered (probe script replies mcu) led = true →
        ReadCorrectly replies mcu led) →
      PartialRun.Always
        (step script (registered (probe script replies mcu)))
        (fun priv =>
          ∀ led,
            registered (probe script replies mcu) led = true →
            Sound (priv.state led) (priv.bus.mcu led))
        (probe script replies mcu) calls := by
  intro claim
  have visited :=
    claim (fun _ _ _ => .unanswered true) steadyReplies steadyMcu
      blinkThenSteady (fun _ _ => rfl)
  have sound := (visited.2 _ rfl).1 1 rfl
  -- The request for a steady LED is elided although the MCU blinks.
  have steady : statusBlink = statusOn := sound.elided .on rfl
  exact absurd steady (by decide)

end KernelDriver

end UgreenLeds
