import UgreenLeds.KernelDriverRuns

/-!
# The driver's readable attributes

What `brightness_get`, `color_show` and `status_show` report of the cached
state.  The name that `status_show` prints is looked up with the raw status
byte: a local copy is clamped to the table, the copy is never used.  The bytes
the setters write are modes, so only a probe can bring in a byte beyond the
table, and a run stays inside the table exactly if no accepted reply carries
one.
-/

namespace UgreenLeds

namespace KernelDriver

section Show

/-- One number as `%d` prints it. -/
def decimal (value : Int) : List UInt8 :=
  ascii (toString value)

/-- The format `"%d %d %d\n"` of a colour. -/
def rgbText (rgb : Rgb) : List UInt8 :=
  decimal rgb.r.toNat ++ ascii " " ++ decimal rgb.g.toNat ++ ascii " " ++
    decimal rgb.b.toNat ++ ascii "\n"

variable (state : LedState)

/-- `ugreen_led_get_brightness`, where `LED_OFF` is zero. -/
def getBrightness : UInt8 :=
  if state.r = 0 ∧ state.g = 0 ∧ state.b = 0 then 0
  else if state.status = statusOff then 0
  else state.brightness

/-- `color_show`. -/
def colorShow : List UInt8 :=
  rgbText ⟨state.r, state.g, state.b⟩

/-- `ugreen_led_state_name`. -/
def stateName : List String :=
  ["off", "on", "blink", "breath", "unknown"]

/-- The index with which `status_show` reads the table of names. -/
def statusIndex : Nat :=
  state.status.toNat

/-- `status_show`; there is no text if the table has no such entry. -/
def statusShow : Option (List UInt8) :=
  match stateName[statusIndex state]? with
  | none =>
      none
  | some name =>
      some
        (ascii name ++ ascii " " ++
          decimal state.brightness.toNat ++ ascii " " ++
          decimal state.r.toNat ++ ascii " " ++
          decimal state.g.toNat ++ ascii " " ++
          decimal state.b.toNat ++ ascii " " ++
          decimal state.tOn.toNat ++ ascii " " ++
          decimal (state.tCycle.toNat - state.tOn.toNat : Int) ++
          ascii "\n")

/-- There is a text to show exactly if the index is inside the table. -/
theorem statusShow_isSome_iff :
    (statusShow state).isSome ↔
      statusIndex state < stateName.length := by
  unfold statusShow
  cases found : stateName[statusIndex state]? with
  | none =>
      simpa using found
  | some name =>
      simpa using (List.getElem?_eq_some_iff.mp found).1

end Show

section Accepted

/-- The reply the probe of one LED accepts: the first of five that decodes. -/
def acceptedReply?
    (replies : Nat → Except Errno (List UInt8)) : Option (List UInt8) :=
  (List.range changeStateRetryCount).findSome? fun attempt =>
    match replies attempt with
    | .ok reply =>
        if (getState reply).isSome then some reply else none
    | .error _ =>
        none

/-- The first byte of a reply, which carries the status. -/
def statusByte (reply : List UInt8) : UInt8 :=
  reply.headD 0

/-- A reply that decodes reports its first byte as the status. -/
theorem getState_status
    {reply : List UInt8}
    {state : LedState}
    (decoded : getState reply = some state) :
    state.status = statusByte reply := by
  unfold getState at decoded
  split at decoded
  · simp only [Option.ite_none_left_eq_some, Option.some.injEq]
      at decoded
    rw [← decoded.2]
    rfl
  · cases decoded

/-- What the probe reads is the status byte of the reply it accepts. -/
theorem getStateRobust_status
    (replies : Nat → Except Errno (List UInt8))
    (state : LedState) :
    (getStateRobust replies state).status =
      ((acceptedReply? replies).map statusByte).getD stateInvalid := by
  simp only [getStateRobust, acceptedReply?]
  induction List.range changeStateRetryCount with
  | nil =>
      rfl
  | cons attempt rest inductionHypothesis =>
      simp only [List.findSome?_cons]
      cases replies attempt with
      | error error =>
          exact inductionHypothesis
      | ok reply =>
          cases decoded : getState reply with
          | none =>
              simpa [decoded] using inductionHypothesis
          | some read =>
              simpa [decoded] using getState_status decoded

end Accepted

section Preserved

/-- Sending a command keeps a status that has a name. -/
theorem Slice.send_named
    (exchanges : Nat → Exchange)
    {slice : Slice}
    (command : Command)
    (named : statusIndex slice.state < stateName.length) :
    statusIndex (slice.send exchanges command).state <
      stateName.length := by
  simp only [Slice.send]
  split
  · by_cases writesDisplay : command.register = .display
    · have isMode :=
        status_record_le command slice.state writesDisplay
      have inRange :
          (slice.state.record command).status.toNat ≤ 3 := by
        simpa [UInt8.le_iff_toNat_le, statusBreath] using isMode
      exact Nat.lt_succ_of_le (Nat.le_succ_of_le inRange)
    · have kept :=
        (status_of_register_ne writesDisplay slice.state
          slice.device).1
      simpa [statusIndex, kept] using named
  · exact named

/-- Sending a list of commands keeps a status that has a name. -/
theorem Slice.foldl_send_named
    (exchanges : Nat → Exchange)
    {slice : Slice}
    (commands : List Command)
    (named : statusIndex slice.state < stateName.length) :
    statusIndex (commands.foldl (Slice.send exchanges) slice).state <
      stateName.length := by
  induction commands generalizing slice with
  | nil =>
      exact named
  | cons command rest inductionHypothesis =>
      exact
        inductionHypothesis (slice.send_named exchanges command named)

/-- The probe transmits nothing that switches an LED whose status is no mode. -/
theorem probeCommands_register_ne
    {state : LedState}
    (noMode : statusBreath < state.status)
    {command : Command}
    (member : command ∈ probeCommands state) :
    command.register ≠ .display := by
  have notOff : state.status ≠ statusOff := by
    intro isOff
    rw [isOff] at noMode
    exact absurd noMode (by decide)
  have white : (⟨0xff, 0xff, 0xff⟩ : Rgb) ≠ black := by decide
  rw [probeCommands, Request.commands_color white] at member
  simp only [Request.commands, notOff, ↓reduceIte, List.append_nil,
    List.mem_append] at member
  rcases member with dims | colors
  · split at dims
    · rename_i dark
      exact absurd dark (by decide)
    · split at dims
      · cases dims
      · cases List.mem_singleton.mp dims
        simp [Command.register]
  · split at colors
    · cases colors
    · cases List.mem_singleton.mp colors
      simp [Command.register]

variable
  {script : Script}
  {replies : LedIndex → Nat → Except Errno (List UInt8)}
  {mcu : LedIndex → McuLed}

/-- After a probe, the index has a name exactly if the byte read has one. -/
theorem probe_named_iff (led : LedIndex) :
    statusIndex ((probe script replies mcu).state led) <
        stateName.length ↔
      (getStateRobust (replies led) .zero).status.toNat <
        stateName.length := by
  have probed :
      (probe script replies mcu).state led =
        (Slice.probe (script led) (replies led)
          ⟨.zero, mcu led, 0⟩).state :=
    congrArg Slice.state (probe_slice script replies mcu led)
  rw [probed, Slice.probe]
  by_cases invalid :
      (getStateRobust (replies led) .zero).status = stateInvalid
  · rw [if_pos invalid]
    rfl
  · rw [if_neg invalid]
    by_cases named :
        (getStateRobust (replies led) .zero).status.toNat <
          stateName.length
    · exact
        iff_of_true
          (Slice.foldl_send_named (script led) _ named) named
    · have noMode :
          statusBreath <
            (getStateRobust (replies led) .zero).status := by
        rw [UInt8.lt_iff_toNat_lt]
        exact Nat.lt_of_lt_of_le (by decide) (Nat.le_of_not_lt named)
      have kept :=
        Slice.foldl_send_frame (script led) LedState.status
          (fun _ member state =>
            (Slice.status_of_register_ne
              (probeCommands_register_ne noMode member)
              state (mcu led)).1)
          ⟨getStateRobust (replies led) .zero, mcu led, 0⟩
      rw [statusIndex, kept]

/-- An LED that is not registered has the index of the invalid state. -/
theorem unregistered_index
    {probed : LedArray}
    {led : LedIndex}
    (unregistered : ¬ registered probed led = true) :
    statusIndex (probed.state led) = stateInvalid.toNat := by
  have invalid : (probed.state led).status = stateInvalid := by
    simpa [registered] using unregistered
  rw [statusIndex, invalid]

/-- A call keeps every index that has a name. -/
theorem step_named
    {isRegistered : LedIndex → Bool}
    {priv next : LedArray}
    {call : Call}
    (named :
      ∀ led, statusIndex (priv.state led) < stateName.length)
    (taken : step script isRegistered priv call = some next) :
    ∀ led, statusIndex (next.state led) < stateName.length := by
  intro led
  change statusIndex (next.slice led).state < stateName.length
  rw [perform_of_step taken, Call.perform_eq]
  cases call.request? with
  | none =>
      exact named led
  | some request =>
      by_cases addressed : led = call.led
      · subst addressed
        simp only [perform_slice]
        exact Slice.foldl_send_named (script call.led) _ (named call.led)
      · simp only [perform_other script priv request addressed]
        exact named led

end Preserved

/--
In a run, `status_show` of every registered LED stays inside its table exactly
if no reply accepted by the probe carries a status byte beyond it.
-/
theorem statusIndex_lt_iff
    (script : Script)
    (replies : LedIndex → Nat → Except Errno (List UInt8))
    (mcu : LedIndex → McuLed)
    (calls : List Call) :
    PartialRun.Always
        (step script (registered (probe script replies mcu)))
        (fun priv =>
          ∀ led,
            registered (probe script replies mcu) led = true →
            statusIndex (priv.state led) < stateName.length)
        (probe script replies mcu) calls ↔
      ∀ led reply,
        acceptedReply? (replies led) = some reply →
        (statusByte reply).toNat < stateName.length := by
  constructor
  · intro always led reply accepted
    have named :
        statusIndex ((probe script replies mcu).state led) <
          stateName.length := by
      by_cases isRegistered :
          registered (probe script replies mcu) led = true
      · exact always.start led isRegistered
      · rw [unregistered_index isRegistered]
        decide
    rw [probe_named_iff, getStateRobust_status, accepted] at named
    exact named
  · intro inTable
    have start :
        ∀ led,
          statusIndex ((probe script replies mcu).state led) <
            stateName.length := by
      intro led
      rw [probe_named_iff, getStateRobust_status]
      cases accepted : acceptedReply? (replies led) with
      | none =>
          exact (by decide : stateInvalid.toNat < stateName.length)
      | some reply =>
          exact inTable led reply accepted
    have always :
        PartialRun.Always
          (step script (registered (probe script replies mcu)))
          (fun priv =>
            ∀ led, statusIndex (priv.state led) < stateName.length)
          (probe script replies mcu) calls :=
      PartialRun.always_of_step step_named start calls
    exact always.mono fun named led _ => named led

/-- An LED whose accepted reply carries the status byte 5 is registered. -/
theorem status_five_out_of_table :
    ¬ ∀ (script : Script)
        (replies : LedIndex → Nat → Except Errno (List UInt8))
        (mcu : LedIndex → McuLed)
        (calls : List Call),
      PartialRun.Always
        (step script (registered (probe script replies mcu)))
        (fun priv =>
          ∀ led,
            registered (probe script replies mcu) led = true →
            statusIndex (priv.state led) < stateName.length)
        (probe script replies mcu) calls := by
  intro claim
  have visited :=
    claim (fun _ _ _ => .accepted)
      (fun _ _ => .ok [5, 128, 255, 255, 255, 0, 0, 0, 0, 3, 130])
      steadyMcu []
  have inTable := visited ⟨0, by decide⟩ rfl
  exact absurd inTable (by decide)

end KernelDriver

end UgreenLeds
