import UgreenLeds.KernelDriver
import UgreenLeds.McuRegisters

/-!
# One LED's slice of the driver

The entry points reduce to four requests, each of which transmits the commands
the cached state does not already show, in order.  This module gives a request
that meaning on the addressed LED's slice alone and shows that the driver
computes exactly it, leaving the slices of all other LEDs unchanged.
-/

namespace UgreenLeds

namespace KernelDriver

/-- The cached state read as the MCU record it stands for. -/
def LedState.view (state : LedState) : McuLed where
  status := state.status
  brightness := state.brightness
  color := ⟨state.r, state.g, state.b⟩
  tOn := state.tOn
  tCycle := state.tCycle

/-- The cached state after a command has been acknowledged. -/
def LedState.record : Command → LedState → LedState
  | .brightness level, state =>
      { state with brightness := level }
  | .color rgb, state =>
      { state with r := rgb.r, g := rgb.g, b := rgb.b }
  | .onOff lit, state =>
      { state with status := if lit then statusOn else statusOff }
  | .blink cycle onTime, state =>
      { state with tOn := onTime, tCycle := cycle, status := statusBlink }
  | .breath cycle onTime, state =>
      { state with tOn := onTime, tCycle := cycle, status := statusBreath }

/-- What the entry points ask of an LED. -/
inductive Request where
  | brightness (level : UInt32)
  | color (rgb : Rgb)
  | periodic (tOn tCycle : UInt16) (isBlink : Bool)
  | on
  deriving DecidableEq, Repr

namespace Request

/-- The commands the driver transmits for a request, given its cached state. -/
def commands (state : LedState) : Request → List Command
  | .brightness level =>
      if level = 0 then
        if state.status = statusOff then [] else [.onOff false]
      else
        (if state.brightness.toUInt32 = level then []
          else [.brightness level.toUInt8]) ++
          if state.status = statusOff then [.onOff true] else []
  | .color rgb =>
      if rgb.r = 0 ∧ rgb.g = 0 ∧ rgb.b = 0 then
        if state.status = statusOff then [] else [.onOff false]
      else if
          state.r ≠ rgb.r ∨ state.g ≠ rgb.g ∨ state.b ≠ rgb.b then
        [.color rgb]
      else
        []
  | .periodic tOn tCycle isBlink =>
      if state.tOn = tOn ∧ state.tCycle = tCycle ∧
          state.status =
            (if isBlink then statusBlink else statusBreath) then
        []
      else
        [if isBlink then .blink tCycle tOn else .breath tCycle tOn]
  | .on =>
      if state.status = statusOn then [] else [.onOff true]

/-- The register whose value a request fixes. -/
def register : Request → LedRegister
  | .brightness level => if level = 0 then .display else .brightness
  | .color rgb =>
      if rgb.r = 0 ∧ rgb.g = 0 ∧ rgb.b = 0 then .display else .color
  | .periodic _ _ _ => .display
  | .on => .display

/-- The MCU is in the state a request asks for. -/
def Attained : Request → McuLed → Prop
  | .brightness level, device =>
      if level = 0 then
        device.status = statusOff
      else
        device.brightness.toUInt32 = level ∧ device.status ≠ statusOff
  | .color rgb, device =>
      if rgb.r = 0 ∧ rgb.g = 0 ∧ rgb.b = 0 then
        device.status = statusOff
      else
        device.color = rgb
  | .periodic tOn tCycle isBlink, device =>
      device.status = (if isBlink then statusBlink else statusBreath) ∧
        device.tOn = tOn ∧ device.tCycle = tCycle
  | .on, device =>
      device.status = statusOn

end Request

/-- Serve a request through the function the entry points call for it. -/
def perform
    (script : Script)
    (priv : LedArray)
    (led : LedIndex) :
    Request → LedArray
  | .brightness level =>
      setBrightness script priv led level
  | .color rgb =>
      setColor script priv led rgb.r rgb.g rgb.b
  | .periodic tOn tCycle isBlink =>
      setBlinkOrBreath script priv led tOn tCycle isBlink
  | .on =>
      turnOnOrOff script priv led true

/-- The part of the array and its bus that belongs to one LED. -/
@[ext] structure Slice where
  state : LedState
  device : McuLed
  served : Nat
  deriving DecidableEq, Repr

/-- One LED's slice. -/
def LedArray.slice
    (priv : LedArray)
    (led : LedIndex) : Slice where
  state := priv.state led
  device := priv.bus.mcu led
  served := priv.bus.served led

namespace Slice

variable (exchanges : Nat → Exchange)

/-- The answers the command at one script position receives. -/
def answers (position : Nat) : Nat → RetryLoop.Answer Unit :=
  fun attempt => answer (exchanges position attempt)

/-- Whether the command at one script position is acknowledged. -/
def acknowledges (position : Nat) : Bool :=
  (RetryLoop.outcome (answers exchanges position)
    changeStateRetryCount 0 ()).isAcknowledged

/-- Whether the MCU executes the command at one script position. -/
def executes (position : Nat) : Bool :=
  RetryLoop.executes (answers exchanges position)
    changeStateRetryCount 0

/-- Transmit one command and record it if it is acknowledged. -/
def send
    (slice : Slice)
    (command : Command) : Slice where
  state :=
    if acknowledges exchanges slice.served then
      slice.state.record command
    else
      slice.state
  device :=
    if executes exchanges slice.served then
      command.execute slice.device
    else
      slice.device
  served := slice.served + 1

/-- Serve a request: transmit the commands it needs, in order. -/
def perform
    (slice : Slice)
    (request : Request) : Slice :=
  (request.commands slice.state).foldl (send exchanges) slice

/-- What no recorded command changes survives sending them all. -/
theorem foldl_send_frame
    {Part : Type}
    (part : LedState → Part)
    {commands : List Command}
    (kept :
      ∀ command ∈ commands, ∀ state : LedState,
        part (state.record command) = part state)
    (slice : Slice) :
    part (commands.foldl (send exchanges) slice).state =
      part slice.state := by
  induction commands generalizing slice with
  | nil =>
      rfl
  | cons first rest inductionHypothesis =>
      have sent :
          part (slice.send exchanges first).state =
            part slice.state := by
        simp only [send]
        split
        · exact kept first List.mem_cons_self slice.state
        · rfl
      rw [List.foldl_cons, ← sent]
      exact
        inductionHypothesis
          (fun command member =>
            kept command (List.mem_cons_of_mem first member))
          (slice.send exchanges first)

end Slice

section Frames

/-- An LED's identifier byte denotes it. -/
theorem ledIndex?_ledByte (led : LedIndex) :
    ledIndex? (ledByte led) = some led := by
  rw [ledIndex?_eq_some]
  have inRange : led.val < 10 := led.isLt
  simp only [ledByte, UInt8.toNat_ofNat']
  omega

/-- `ugreen_led_change_state` always writes a frame the MCU accepts. -/
theorem changeStateFrame_decode?
    (led : LedIndex)
    {code p1 p2 p3 p4 : UInt8}
    {command : Command}
    (decoded : Command.decode? code p1 p2 p3 p4 = some command) :
    (changeStateFrame (ledByte led) code p1 p2 p3 p4).decode? =
      some (led, command) := by
  have summed :
      (0xa1 + code.toUInt16 + p1.toUInt16 + p2.toUInt16 +
          p3.toUInt16 + p4.toUInt16 : UInt16).toNat =
        checksum
          [0xa0, 0x01, 0x00, 0x00, code, p1, p2, p3, p4] := by
    have := code.toNat_lt
    have := p1.toNat_lt
    have := p2.toNat_lt
    have := p3.toNat_lt
    have := p4.toNat_lt
    simp [checksum, UInt16.toNat_add]
    omega
  have same :
      changeStateFrame (ledByte led) code p1 p2 p3 p4 =
        .change (ledByte led) code p1 p2 p3 p4
          (0xa1 + code.toUInt16 + p1.toUInt16 + p2.toUInt16 +
            p3.toUInt16 + p4.toUInt16 : UInt16).toNat := by
    simp only [changeStateFrame, Frame.change, highByte_eq, lowByte_eq]
  rw [same]
  exact Frame.decode?_change summed (ledIndex?_ledByte led) decoded

end Frames

section Local

variable
  (script : Script)
  (priv : LedArray)
  {led : LedIndex}
  {code p1 p2 p3 p4 : UInt8}
  {command : Command}

/-- What a command tells the driver and does to its LED's slice. -/
theorem changeStateRobust_slice
    (led : LedIndex)
    (decoded : Command.decode? code p1 p2 p3 p4 = some command) :
    let slice := priv.slice led
    let result := changeStateRobust script priv led code p1 p2 p3 p4
    result.1 = Slice.acknowledges (script led) slice.served ∧
      result.2.slice led =
        { slice with
          device :=
            if Slice.executes (script led) slice.served then
              command.execute slice.device
            else
              slice.device
          served := slice.served + 1 } := by
  have carries := changeStateFrame_decode? led decoded
  refine ⟨?_, ?_⟩
  · simp only [changeStateRobust, Bus.command_outcome]
    rfl
  · apply Slice.ext
    · rfl
    · exact
        priv.bus.command_mcu_self script answer
          changeStateRetryCount led _ () carries
    · simp only [changeStateRobust, LedArray.slice,
        Bus.command_served]
      simp

/-- A command leaves the slices of the other LEDs unchanged. -/
theorem changeStateRobust_other
    (decoded : Command.decode? code p1 p2 p3 p4 = some command)
    {other : LedIndex}
    (different : other ≠ led) :
    (changeStateRobust script priv led
        code p1 p2 p3 p4).2.slice other =
      priv.slice other := by
  have carries := changeStateFrame_decode? led decoded
  apply Slice.ext
  · rfl
  · exact
      priv.bus.command_mcu_of_ne script answer
        changeStateRetryCount led _ () carries different
  · simp only [changeStateRobust, LedArray.slice, Bus.command_served]
    simp [Function.update_of_ne different]

theorem slice_setState_self (state : LedState) :
    (priv.setState led state).slice led =
      { priv.slice led with state } := by
  simp [LedArray.slice, LedArray.setState]

theorem slice_setState_of_ne
    {other : LedIndex}
    (different : other ≠ led)
    (state : LedState) :
    (priv.setState led state).slice other = priv.slice other := by
  simp [LedArray.slice, LedArray.setState,
    Function.update_of_ne different]

/-- A recorded command acts on its LED's slice as `Slice.send` does. -/
theorem changeAndRecord_slice
    (decoded : Command.decode? code p1 p2 p3 p4 = some command)
    {record : LedState → LedState}
    (records : record = LedState.record command) :
    (changeAndRecord script priv led code p1 p2 p3 p4
        record).slice led =
      (priv.slice led).send (script led) command := by
  obtain ⟨done, after⟩ :=
    changeStateRobust_slice script priv led decoded
  subst records
  simp only [changeAndRecord]
  generalize
    changeStateRobust script priv led code p1 p2 p3 p4 =
      result at done after ⊢
  rcases result with ⟨reported, sent⟩
  simp only at done after
  have state : sent.state led = priv.state led :=
    congrArg Slice.state after
  cases acknowledged :
      Slice.acknowledges (script led) (priv.slice led).served with
  | true =>
      simp [done, acknowledged, slice_setState_self, after,
        Slice.send, state]
      rfl
  | false =>
      simp [done, acknowledged, after, Slice.send]

/-- A recorded command leaves the slices of the other LEDs unchanged. -/
theorem changeAndRecord_other
    (decoded : Command.decode? code p1 p2 p3 p4 = some command)
    (record : LedState → LedState)
    {other : LedIndex}
    (different : other ≠ led) :
    (changeAndRecord script priv led code p1 p2 p3 p4
        record).slice other =
      priv.slice other := by
  have kept :=
    changeStateRobust_other script priv decoded different
  simp only [changeAndRecord]
  split
  · exact (slice_setState_of_ne _ different _).trans kept
  · exact kept

/-- A setter that may elide its command transmits at most that one. -/
theorem unless_slice
    (shown : Prop)
    [Decidable shown]
    (decoded : Command.decode? code p1 p2 p3 p4 = some command)
    {record : LedState → LedState}
    (records : record = LedState.record command) :
    (if shown then priv
      else
        changeAndRecord script priv led code p1 p2 p3 p4
          record).slice led =
      (if shown then [] else [command]).foldl
        (Slice.send (script led)) (priv.slice led) := by
  split
  · rfl
  · exact changeAndRecord_slice script priv decoded records

/-- A setter that may elide its command never touches the other LEDs. -/
theorem unless_other
    (shown : Prop)
    [Decidable shown]
    (decoded : Command.decode? code p1 p2 p3 p4 = some command)
    (record : LedState → LedState)
    {other : LedIndex}
    (different : other ≠ led) :
    (if shown then priv
      else
        changeAndRecord script priv led code p1 p2 p3 p4
          record).slice other =
      priv.slice other := by
  split
  · rfl
  · exact changeAndRecord_other script priv decoded record different

end Local

section Perform

variable
  (script : Script)
  (priv : LedArray)
  {led : LedIndex}

/-- The frame parameters of the switch command. -/
theorem onOff_decode? (on : Bool) :
    Command.decode? 0x03 (if on then 1 else 0) 0 0 0 =
      some (.onOff on) := by
  cases on <;> rfl

/-- The frame parameters of the periodic commands. -/
theorem periodic_decode?
    (tOn tCycle : UInt16)
    (isBlink : Bool) :
    Command.decode? (if isBlink then 0x04 else 0x05)
        (highByte tCycle) (lowByte tCycle)
        (highByte tOn) (lowByte tOn) =
      some
        (if isBlink then .blink tCycle tOn
          else .breath tCycle tOn) := by
  cases isBlink <;> simp [Command.decode?]

/-- Switching an LED transmits one command unless the state shows it. -/
theorem turnOnOrOff_slice (on : Bool) :
    (turnOnOrOff script priv led on).slice led =
      (if (priv.slice led).state.status =
            (if on then statusOn else statusOff) then []
        else [.onOff on]).foldl
          (Slice.send (script led)) (priv.slice led) :=
  unless_slice script priv _ (onOff_decode? on) rfl

theorem turnOnOrOff_other
    (on : Bool)
    {other : LedIndex}
    (different : other ≠ led) :
    (turnOnOrOff script priv led on).slice other =
      priv.slice other :=
  unless_other script priv _ (onOff_decode? on) _ different

/-- The second half of `ugreen_led_set_brightness_unlock`. -/
theorem lightUp_slice
    (dimmed : LedArray) :
    (if (dimmed.state led).status = statusOff then
        turnOnOrOff script dimmed led true
      else
        dimmed).slice led =
      (if (dimmed.slice led).state.status = statusOff then
          [.onOff true]
        else []).foldl
          (Slice.send (script led)) (dimmed.slice led) := by
  by_cases off : (dimmed.slice led).state.status = statusOff
  · have isOff : (dimmed.state led).status = statusOff := off
    simp only [isOff, off, ↓reduceIte]
    rw [turnOnOrOff_slice]
    simp [off, statusOff, statusOn]
  · have notOff : ¬ (dimmed.state led).status = statusOff := off
    simp [notOff, off]

theorem lightUp_other
    (dimmed : LedArray)
    {other : LedIndex}
    (different : other ≠ led) :
    (if (dimmed.state led).status = statusOff then
        turnOnOrOff script dimmed led true
      else
        dimmed).slice other =
      dimmed.slice other := by
  split
  · exact turnOnOrOff_other script dimmed true different
  · rfl

/-- Dimming an LED does not switch it in the cached state. -/
theorem Slice.send_brightness_status
    (exchanges : Nat → Exchange)
    (slice : Slice)
    (level : UInt8) :
    (slice.send exchanges (.brightness level)).state.status =
      slice.state.status := by
  simp only [Slice.send]
  split <;> rfl

/-- `ugreen_led_set_brightness_unlock` transmits what its request needs. -/
theorem setBrightness_slice (level : UInt32) :
    (setBrightness script priv led level).slice led =
      (priv.slice led).perform (script led) (.brightness level) := by
  by_cases dark : level = 0
  · simp only [setBrightness, dark, ↓reduceIte, Slice.perform,
      Request.commands]
    exact turnOnOrOff_slice script priv false
  · have dimming :
        Command.decode? 0x01 level.toUInt8 0 0 0 =
          some (.brightness level.toUInt8) :=
      rfl
    have dimmed :
        (if (priv.state led).brightness.toUInt32 = level then priv
          else
            changeAndRecord script priv led 0x01 level.toUInt8 0 0 0
              (fun state =>
                { state with
                  brightness := level.toUInt8 })).slice led =
          (if (priv.state led).brightness.toUInt32 = level then []
            else [.brightness level.toUInt8]).foldl
              (Slice.send (script led)) (priv.slice led) :=
      unless_slice script priv _ dimming rfl
    simp only [setBrightness, dark, ↓reduceIte, Slice.perform,
      Request.commands, List.foldl_append]
    rw [lightUp_slice, dimmed]
    by_cases shown : (priv.state led).brightness.toUInt32 = level
    · have shown' :
          (priv.slice led).state.brightness.toUInt32 = level := shown
      simp only [shown, shown', ↓reduceIte, List.foldl_nil]
    · have notShown :
          ¬ (priv.slice led).state.brightness.toUInt32 = level := shown
      simp only [shown, notShown, ↓reduceIte, List.foldl_cons,
        List.foldl_nil, Slice.send_brightness_status]

/-- `ugreen_led_set_color_unlock` transmits what its request needs. -/
theorem setColor_slice (rgb : Rgb) :
    (setColor script priv led rgb.r rgb.g rgb.b).slice led =
      (priv.slice led).perform (script led) (.color rgb) := by
  by_cases black : rgb.r = 0 ∧ rgb.g = 0 ∧ rgb.b = 0
  · simp only [setColor, Slice.perform, Request.commands,
      if_pos black]
    exact turnOnOrOff_slice script priv false
  · simp only [setColor, Slice.perform, Request.commands,
      if_neg black]
    by_cases changes :
        (priv.state led).r ≠ rgb.r ∨ (priv.state led).g ≠ rgb.g ∨
          (priv.state led).b ≠ rgb.b
    · have changes' :
          (priv.slice led).state.r ≠ rgb.r ∨
            (priv.slice led).state.g ≠ rgb.g ∨
            (priv.slice led).state.b ≠ rgb.b := changes
      simp only [changes, changes', ↓reduceIte]
      exact
        changeAndRecord_slice script priv
          (show Command.decode? 0x02 rgb.r rgb.g rgb.b 0 =
            some (.color rgb) from rfl) rfl
    · have unchanged :
          ¬ ((priv.slice led).state.r ≠ rgb.r ∨
            (priv.slice led).state.g ≠ rgb.g ∨
            (priv.slice led).state.b ≠ rgb.b) := changes
      simp only [changes, unchanged, ↓reduceIte, List.foldl_nil]

/-- `ugreen_led_set_blink_or_breath_unlock` transmits what it needs. -/
theorem setBlinkOrBreath_slice
    (tOn tCycle : UInt16)
    (isBlink : Bool) :
    (setBlinkOrBreath script priv led tOn tCycle isBlink).slice led =
      (priv.slice led).perform (script led)
        (.periodic tOn tCycle isBlink) :=
  unless_slice script priv _ (periodic_decode? tOn tCycle isBlink)
    (by cases isBlink <;> rfl)

/-- Serving a request acts on its LED's slice as `Slice.perform` does. -/
theorem perform_slice (request : Request) :
    (perform script priv led request).slice led =
      (priv.slice led).perform (script led) request := by
  cases request with
  | brightness level =>
      exact setBrightness_slice script priv level
  | color rgb =>
      exact setColor_slice script priv rgb
  | periodic tOn tCycle isBlink =>
      exact setBlinkOrBreath_slice script priv tOn tCycle isBlink
  | on =>
      exact turnOnOrOff_slice script priv true

/-- Serving a request leaves the slices of the other LEDs unchanged. -/
theorem perform_other
    (request : Request)
    {other : LedIndex}
    (different : other ≠ led) :
    (perform script priv led request).slice other =
      priv.slice other := by
  cases request with
  | brightness level =>
      simp only [perform, setBrightness]
      split
      · exact turnOnOrOff_other script priv false different
      · have dimming :
            Command.decode? 0x01 level.toUInt8 0 0 0 =
              some (.brightness level.toUInt8) :=
          rfl
        have dimmed :=
          unless_other script priv
            ((priv.state led).brightness.toUInt32 = level) dimming
            (fun state =>
              { state with brightness := level.toUInt8 }) different
        exact (lightUp_other script _ different).trans dimmed
  | color rgb =>
      simp only [perform, setColor]
      split
      · exact turnOnOrOff_other script priv false different
      · have coloring :
            Command.decode? 0x02 rgb.r rgb.g rgb.b 0 =
              some (.color rgb) :=
          rfl
        split
        · exact changeAndRecord_other script priv coloring _ different
        · rfl
  | periodic tOn tCycle isBlink =>
      exact
        unless_other script priv _
          (periodic_decode? tOn tCycle isBlink) _ different
  | on =>
      exact turnOnOrOff_other script priv true different

end Perform

end KernelDriver

end UgreenLeds
