import UgreenLeds.EventLoop
import UgreenLeds.LedFootprint

/-!
# Who owns which LED

In a whole run of the daemon the network LED belongs to the callbacks of the
network policy, the bays of the chassis belong to those of the disk policy, and
the power LED belongs to nobody once it has been programmed.  What carries this
over a run is that the slot table stays in order for the chassis, whatever
identifiers the events of the BPF program name.
-/

namespace UgreenLeds

open Footprint (Spares)
open LedController (TouchesOnly ledView)
open DiskLeds (StaysInChassis)

/-- The LEDs a call may touch in a chassis with so many bays. -/
def AppAction.Owns
    (slotCount : Nat) : AppAction → LedIndex → Prop
  | .networkInit, led | .networkTimer _ _, led | .render _, led =>
      led = networkLed
  | .disksInit _, led | .diskTimer _ _ _, led | .uevent _, led =>
      CountedBay slotCount led
  | .bpfEvent (some event) _ _, led =>
      event.kind = eventDisk ∧ CountedBay slotCount led
  | _, _ =>
      False

/-- The LEDs that belong to one of the two policies. -/
def PolicyLed
    (slotCount : Nat)
    (led : LedIndex) : Prop :=
  led = networkLed ∨ CountedBay slotCount led

/-- Every call owns LEDs of the policies only. -/
theorem AppAction.Owns.policyLed
    {slotCount : Nat}
    {action : AppAction}
    {led : LedIndex}
    (owns : action.Owns slotCount led) :
    PolicyLed slotCount led := by
  cases action with
  | networkInit | networkTimer read settime | render settime =>
      exact Or.inl owns
  | disksInit discovery | diskTimer clock read settime
  | uevent uevents =>
      exact Or.inr owns
  | bpfEvent event clock settime =>
      cases event with
      | none =>
          exact owns.elim
      | some event =>
          exact Or.inr owns.2
  | _ =>
      exact owns.elim

/-- No bay has the power LED. -/
theorem bayLed_ne_powerLed (index : DiskIndex) :
    bayLed index ≠ powerLed := by
  intro same
  have numbers := congrArg Fin.val same
  simp only [bayLed, powerLed] at numbers
  omega

/-- The power LED belongs to no policy. -/
theorem powerLed_not_policyLed
    (slotCount : Nat) :
    ¬ PolicyLed slotCount powerLed := by
  rintro (isNetwork | ⟨index, -, isBay⟩)
  · cases isNetwork
  · exact bayLed_ne_powerLed index isBay.symm

/-- A bay that the chassis does not have belongs to no policy. -/
theorem bayLed_not_policyLed
    {slotCount : Nat}
    {index : DiskIndex}
    (missing : slotCount ≤ index.val) :
    ¬ PolicyLed slotCount (bayLed index) := by
  rintro (isNetwork | ⟨other, counted, isBay⟩)
  · have numbers := congrArg Fin.val isNetwork
    simp only [bayLed, networkLed] at numbers
    omega
  · have numbers := congrArg Fin.val isBay
    simp only [bayLed] at numbers
    omega

namespace App

section Callbacks

variable
  {Credit : Type}
  {slotCount : Nat}
  {Own : LedIndex → Prop}
  {app : App Credit}

/-- The slot table is in order for the chassis. -/
structure InChassis
    (slotCount : Nat)
    (app : App Credit) : Prop where
  chassis : diskLayoutSlotCount app.productName = slotCount
  table :
    ∀ disks, app.disks = some disks →
      disks.WellFormed ∧ disks.slotCount = slotCount

/-- A call keeps the table in order and touches only owned LEDs. -/
structure Keeps
    (slotCount : Nat)
    (Own : LedIndex → Prop)
    (app after : App Credit) : Prop where
  inChassis : after.InChassis slotCount
  touches : TouchesOnly Own app.controller after.controller

/-- Doing nothing touches nothing. -/
theorem Keeps.refl (inChassis : app.InChassis slotCount) :
    Keeps slotCount Own app app where
  inChassis := inChassis
  touches := Footprint.Touches.refl app.controller

/-- A call touches no more than an owner of more LEDs may touch. -/
theorem Keeps.mono
    {Wider : LedIndex → Prop}
    {after : App Credit}
    (wider : ∀ led, Own led → Wider led)
    (keeps : Keeps slotCount Own app after) :
    Keeps slotCount Wider app after where
  inChassis := keeps.inChassis
  touches := keeps.touches.mono wider

/-- Two calls touch what either of them touches. -/
theorem Keeps.trans
    {middle after : App Credit}
    (first : Keeps slotCount Own app middle)
    (second : Keeps slotCount Own middle after) :
    Keeps slotCount Own app after where
  inChassis := second.inChassis
  touches := first.touches.trans second.touches

/-- How the daemon goes on does not matter. -/
theorem Keeps.progress
    {after : App Credit}
    (keeps : Keeps slotCount Own app after)
    (progress : Progress) :
    Keeps slotCount Own app { after with progress } where
  inChassis := ⟨keeps.inChassis.chassis, keeps.inChassis.table⟩
  touches := keeps.touches

/-- The status a call returns does not matter. -/
theorem Keeps.settle
    {after : App Credit}
    (keeps : Keeps slotCount Own app after)
    (status : Status) :
    Keeps slotCount Own app (after.settle status) := by
  cases status with
  | ok done =>
      exact keeps
  | error error =>
      exact keeps.progress _

/-- A callback of the network policy touches what it touches by itself. -/
theorem onNetwork_keeps
    (inChassis : app.InChassis slotCount)
    {callback : NetworkLed Credit → Status × NetworkLed Credit}
    (touches :
      ∀ network,
        TouchesOnly Own network.controller
          (callback network).2.controller) :
    Keeps slotCount Own app (app.onNetwork callback) := by
  simp only [onNetwork]
  split
  · exact .refl inChassis
  · rename_i network _
    apply Keeps.settle
    exact
      { inChassis := ⟨inChassis.chassis, inChassis.table⟩
        touches :=
          touches { network with controller := app.controller } }

/-- A callback of the disk policy that stays in the chassis does so here. -/
theorem onDisks_keeps
    (inChassis : app.InChassis slotCount)
    {callback : DiskLeds → Status × DiskLeds}
    (stays :
      ∀ disks, disks.WellFormed →
        StaysInChassis disks (callback disks).2) :
    Keeps slotCount (CountedBay slotCount) app
      (app.onDisks callback) := by
  simp only [onDisks]
  split
  · exact .refl inChassis
  · rename_i disks initialized
    obtain ⟨wellFormed, counted⟩ := inChassis.table disks initialized
    subst counted
    obtain ⟨stillFormed, sameCount, touches⟩ :=
      stays { disks with controller := app.controller }
        ⟨wellFormed.identified, wellFormed.occupied⟩
    apply Keeps.settle
    refine ⟨⟨inChassis.chassis, ?_⟩, touches⟩
    intro after isAfter
    cases isAfter
    exact ⟨stillFormed, sameCount⟩

/-- `disk_leds_init` sets up a table for the chassis. -/
theorem disksInit_keeps
    (script : Script)
    (inChassis : app.InChassis slotCount)
    (discovery : Except Errno Discovery) :
    Keeps slotCount (CountedBay slotCount) app
      (app.disksInit script discovery) := by
  have stays :
      StaysInChassis
        (DiskLeds.zeroed app.controller app.config app.productName)
        (DiskLeds.init script app.controller app.config
          app.productName discovery).2 :=
    DiskLeds.rescan_stays script
      (DiskLeds.zeroed_wellFormed ..) discovery
  obtain ⟨stillFormed, sameCount, touches⟩ := stays
  have counted :
      (DiskLeds.zeroed app.controller app.config
        app.productName).slotCount = slotCount :=
    inChassis.chassis
  rw [counted] at sameCount touches
  simp only [disksInit]
  generalize
    DiskLeds.init script app.controller app.config app.productName
      discovery = result at stillFormed sameCount touches ⊢
  rcases result with ⟨error | done, disks⟩
  · apply Keeps.settle
    exact ⟨⟨inChassis.chassis, inChassis.table⟩, touches⟩
  · refine ⟨⟨inChassis.chassis, ?_⟩, touches⟩
    intro after isAfter
    cases isAfter
    exact ⟨stillFormed, sameCount⟩

/-- `disk_leds_handle_uevent` stays in the chassis. -/
theorem uevent_keeps
    (script : Script)
    (inChassis : app.InChassis slotCount)
    (uevents : DiskLeds.Uevents) :
    Keeps slotCount (CountedBay slotCount) app
      (app.uevent script uevents) := by
  simp only [uevent]
  split
  · exact .refl inChassis
  · rename_i disks initialized
    obtain ⟨wellFormed, counted⟩ := inChassis.table disks initialized
    subst counted
    obtain ⟨stillFormed, sameCount, touches⟩ :=
      DiskLeds.handleUevent_stays script
        (show ({ disks with controller := app.controller } :
          DiskLeds).WellFormed from
            ⟨wellFormed.identified, wellFormed.occupied⟩)
        app.bpf uevents
    generalize
      DiskLeds.handleUevent script
        { disks with controller := app.controller } app.bpf uevents =
          result at stillFormed sameCount touches ⊢
    rcases result with ⟨status, after, bpf⟩
    have keeps :
        Keeps disks.slotCount (CountedBay disks.slotCount) app
          { app with
            disks := some after
            controller := after.controller
            bpf } := by
      refine ⟨⟨inChassis.chassis, ?_⟩, touches⟩
      intro other isAfter
      cases isAfter
      exact ⟨stillFormed, sameCount⟩
    cases status with
    | none =>
        exact keeps.progress .stuck
    | some status =>
        exact keeps.settle status

/-- `disk_leds_sync_bpf` touches no LED. -/
theorem syncBpf_keeps
    (inChassis : app.InChassis slotCount)
    (maps : MapScript)
    (fuel : Nat) :
    Keeps slotCount Own app (app.syncBpf maps fuel) := by
  have unchanged : Keeps slotCount Own app app := .refl inChassis
  simp only [syncBpf]
  split
  · exact unchanged
  · split
    · exact unchanged.progress _
    · apply Keeps.settle
      exact
        ⟨⟨inChassis.chassis, inChassis.table⟩, unchanged.touches⟩

/-- `network_led_init` touches the network LED. -/
theorem networkInit_keeps
    [NatCast Credit]
    (script : Script)
    (inChassis : app.InChassis slotCount) :
    Keeps slotCount (· = networkLed) app (app.networkInit script) := by
  have touches : TouchesOnly (· = networkLed) app.controller
      (NetworkLed.init script app.controller app.config :
        Status × NetworkLed Credit).2.controller :=
    NetworkLed.init_touches script app.controller app.config
  simp only [networkInit]
  generalize
    (NetworkLed.init script app.controller app.config :
      Status × NetworkLed Credit) = result at touches ⊢
  rcases result with ⟨error | done, network⟩
  · apply Keeps.settle
    exact ⟨⟨inChassis.chassis, inChassis.table⟩, touches⟩
  · exact ⟨⟨inChassis.chassis, inChassis.table⟩, touches⟩

/-- `handle_bpf_event` touches the bays for disk events only. -/
theorem bpfEvent_keeps
    (script : Script)
    (inChassis : app.InChassis slotCount)
    (event : Option LedEvent)
    (clock : Option MonotonicTime)
    (settime : Option Errno) :
    Keeps slotCount
      ((AppAction.bpfEvent event clock settime).Owns slotCount) app
      (app.bpfEvent script event clock settime) := by
  cases event with
  | none =>
      exact .refl inChassis
  | some event =>
      simp only [bpfEvent]
      split
      · exact
          onNetwork_keeps inChassis fun network =>
            Footprint.Touches.refl network.controller
      · split
        · rename_i isDisk
          refine Keeps.mono (fun led counted => ⟨isDisk, counted⟩) ?_
          exact
            onDisks_keeps inChassis fun disks wellFormed =>
              DiskLeds.handleActivity_stays script wellFormed
                event.ledId clock settime
        · exact .refl inChassis

/-- The cleanup touches only the LEDs of the policies. -/
theorem cleanup_keeps
    (script : Script)
    (inChassis : app.InChassis slotCount) :
    Keeps slotCount (PolicyLed slotCount) app (app.cleanup script) := by
  have network : Keeps slotCount (· = networkLed) app
      (app.onNetwork fun network =>
        (.ok (), network.cleanup script)) :=
    onNetwork_keeps inChassis fun network =>
      NetworkLed.cleanup_touches script network
  have disks : Keeps slotCount (CountedBay slotCount) _
      (app.cleanup script) :=
    onDisks_keeps network.inChassis fun disks wellFormed =>
      DiskLeds.cleanup_stays script wellFormed
  exact
    (network.mono fun _ => Or.inl).trans (disks.mono fun _ => Or.inr)

/-- The daemon starts without a table. -/
theorem start_inChassis
    (script : Script)
    (controller : LedController)
    {data : ConfigData}
    (accepted : data.Accepted)
    (productName : List UInt8)
    (bpf : BpfRuntime) :
    (start script controller accepted productName bpf :
      App Credit).InChassis (diskLayoutSlotCount productName) := by
  simp only [start]
  cases (applyPower script controller data).1 with
  | ok done =>
      refine ⟨rfl, ?_⟩
      intro disks initialized
      cases initialized
  | error error =>
      refine ⟨rfl, ?_⟩
      intro disks initialized
      cases initialized

/-- The controller that the daemon starts with. -/
@[simp] theorem start_controller
    (script : Script)
    (controller : LedController)
    {data : ConfigData}
    (accepted : data.Accepted)
    (productName : List UInt8)
    (bpf : BpfRuntime) :
    (start script controller accepted productName bpf :
      App Credit).controller =
      (applyPower script controller data).2 := by
  simp only [start]
  cases (applyPower script controller data).1 <;> rfl

section Run

variable
  [NatCast Credit] [Add Credit] [Sub Credit] [Div Credit]
  [LE Credit] [DecidableLE Credit]
  (script : Script)

/-- Every call keeps the table in order and touches only its own LEDs. -/
theorem handle_keeps
    (inChassis : app.InChassis slotCount)
    (action : AppAction) :
    Keeps slotCount (action.Owns slotCount) app
      (app.handle script action) := by
  have unchanged : Keeps slotCount (action.Owns slotCount) app app :=
    .refl inChassis
  cases action with
  | disksInit discovery =>
      exact disksInit_keeps script inChassis discovery
  | networkInit =>
      exact networkInit_keeps script inChassis
  | bpfStart failure =>
      cases failure with
      | none =>
          exact unchanged
      | some error =>
          exact unchanged.settle (.error error)
  | syncBpf maps fuel =>
      exact syncBpf_keeps inChassis maps fuel
  | signal result =>
      match result with
      | .error error =>
          exact unchanged.settle (.error error)
      | .ok true =>
          exact unchanged.progress _
      | .ok false =>
          exact unchanged
  | networkTimer read settime =>
      exact
        onNetwork_keeps inChassis fun network =>
          NetworkLed.handleTimer_touches script network read settime
  | diskTimer clock read settime =>
      exact
        onDisks_keeps inChassis fun disks wellFormed =>
          DiskLeds.handleTimer_stays script wellFormed clock read
            settime
  | uevent uevents =>
      exact uevent_keeps script inChassis uevents
  | bpfEvent event clock settime =>
      exact bpfEvent_keeps script inChassis event clock settime
  | consumed failure =>
      cases failure with
      | none =>
          exact unchanged
      | some error =>
          exact unchanged.settle (.error error)
  | render settime =>
      exact
        onNetwork_keeps inChassis fun network =>
          NetworkLed.render_touches script network settime
  | fail error =>
      exact unchanged.settle (.error error)

/-- A call that is made or not touches only its own LEDs. -/
theorem call_keeps
    (inChassis : app.InChassis slotCount)
    (action : AppAction) :
    Keeps slotCount (action.Owns slotCount) app
      (app.call script action) := by
  simp only [call]
  split
  · exact handle_keeps script inChassis action
  · exact .refl inChassis

/-- A run touches only the LEDs of the policies. -/
theorem run_keeps
    (inChassis : app.InChassis slotCount)
    (actions : List AppAction) :
    Keeps slotCount (PolicyLed slotCount) app
      (app.run script actions) := by
  obtain ⟨stays, touches⟩ :=
    Footprint.touches_foldl controller (InChassis slotCount)
      (fun before action _ stays =>
        have keeps := call_keeps script stays action
        ⟨keeps.inChassis,
          keeps.touches.mono fun _ owns => owns.policyLed⟩)
      app inChassis
  exact ⟨stays, touches⟩

/-- One more call after a run. -/
theorem run_concat
    (actions : List AppAction)
    (action : AppAction) :
    app.run script (actions ++ [action]) =
      (app.run script actions).call script action := by
  simp [run]

end Run

end Callbacks

section Ownership

variable
  {Credit : Type}
  [NatCast Credit] [Add Credit] [Sub Credit] [Div Credit]
  [LE Credit] [DecidableLE Credit]

/-- What ownership of the LEDs means in a run of the daemon. -/
structure LedOwnership
    (script : Script)
    (controller : LedController)
    (data : ConfigData)
    (slotCount : Nat)
    (started : App Credit)
    (actions : List AppAction) : Prop where
  /-- Every call changes the LEDs it owns and sends its frames to them. -/
  calls :
    ∀ earlier action later,
      actions = earlier ++ action :: later →
      TouchesOnly (action.Owns slotCount)
        (started.run script earlier).controller
        (started.run script (earlier ++ [action])).controller
  /-- The power LED stays as `power_led_apply` has left it. -/
  power :
    ∀ earlier later,
      actions = earlier ++ later →
      Spares ledView powerLed (applyPower script controller data).2
        (started.run script earlier).controller
  /-- The bays that the chassis does not have are never driven. -/
  bays :
    ∀ earlier later,
      actions = earlier ++ later →
      ∀ index : DiskIndex, slotCount ≤ index.val →
        Spares ledView (bayLed index) controller
          (started.run script earlier).controller
  /-- Neither changes when `main` cleans up. -/
  cleanup :
    TouchesOnly (PolicyLed slotCount)
      (started.run script actions).controller
      ((started.run script actions).cleanup script).controller

/-- What programs the power LED touches it. -/
theorem applyPower_touches
    (script : Script)
    (controller : LedController)
    (data : ConfigData) :
    TouchesOnly (· = powerLed) controller
      (applyPower script controller data).2 := by
  simp only [applyPower]
  split
  · exact powerLedApply_touches script controller data
  · exact Footprint.Touches.refl controller

/--
In every run of the daemon, whatever the system calls return and whatever the
events name, each call drives only the LEDs of its own policy, the power LED
stays as `power_led_apply` has left it, and bays beyond the model's slot count
are never driven.
-/
theorem ledOwnership_of_run
    (script : Script)
    (controller : LedController)
    {data : ConfigData}
    (accepted : data.Accepted)
    (productName : List UInt8)
    (bpf : BpfRuntime)
    (startUp : StartUp)
    (polls : List Poll) :
    LedOwnership script controller data
      (diskLayoutSlotCount productName)
      (start script controller accepted productName bpf : App Credit)
      (mainActions data startUp polls) := by
  have inChassis :
      (start script controller accepted productName bpf :
        App Credit).InChassis (diskLayoutSlotCount productName) :=
    start_inChassis script controller accepted productName bpf
  have runs :=
    fun actions => run_keeps script inChassis actions
  refine
    { calls := ?_
      power := ?_
      bays := ?_
      cleanup := (cleanup_keeps script (runs _).inChassis).touches }
  · rintro earlier action later -
    rw [run_concat]
    exact (call_keeps script (runs earlier).inChassis action).touches
  · rintro earlier later -
    have touches := (runs earlier).touches
    rw [start_controller] at touches
    exact touches.spares (powerLed_not_policyLed _)
  · rintro earlier later - index missing
    have touches := (runs earlier).touches
    rw [start_controller] at touches
    have powered :=
      applyPower_touches script controller data
    have both :
        TouchesOnly
          (fun led =>
            led = powerLed ∨
              PolicyLed (diskLayoutSlotCount productName) led)
          controller
          ((start script controller accepted productName bpf :
            App Credit).run script earlier).controller :=
      (powered.mono fun _ => Or.inl).trans
        (touches.mono fun _ => Or.inr)
    apply both.spares
    rintro (isPower | isPolicy)
    · exact bayLed_ne_powerLed index isPower
    · exact bayLed_not_policyLed missing isPolicy

/-- Every LED is dark. -/
def darkPanel : LedController :=
  .initial fun _ => ⟨statusOff, 0, ⟨0, 0, 0⟩, 0, 0⟩

/-- A deletion that succeeds does not fail for want of the key. -/
theorem success_ne_enoent : (none : Option Errno) ≠ some .enoent := by
  intro fails
  cases fails

/-- A start with a disk in the first bay. -/
def quietStartUp : StartUp where
  discovery :=
    .ok fun index => if index.val = 0 then some 8388608 else none
  bpfStart := none
  maps :=
    { first := fun _ => 0
      updateFails := fun _ => none
      deleteFails := fun _ => none
      stores := fun _ => []
      deleteFails_ne := fun _ => success_ne_enoent }
  fuel := 9

/-- Events for a bay that exists, for one that does not, and a signal. -/
def strayPolls : List Poll :=
  [.returned
      { signal := none
        networkTimer := none
        diskTimer := none
        uevent := none
        bpf :=
          some
            ([(some ⟨1, 0, 0, 8388608, eventDisk, 2⟩, none, none),
                (some ⟨2, 0, 0, 8388608, eventDisk, 9⟩, none, none),
                (some ⟨3, 10, 0, 1, eventNetwork, 0⟩, none, none)],
              none, none)
        broken := false },
    .returned
      { signal := some (.ok true)
        networkTimer := none
        diskTimer := none
        uevent := none
        bpf := none
        broken := false }]

/-- Ownership in a chassis with two bays. -/
theorem ledOwnership_of_strayPolls :
    ∃ accepted : ConfigData.defaults.Accepted,
      LedOwnership (fun _ _ _ => .accepted) darkPanel
        ConfigData.defaults (diskLayoutSlotCount (ascii "DXP2800"))
        (start (fun _ _ _ => .accepted) darkPanel accepted
          (ascii "DXP2800") (.started fun _ => ∅) : App ℚ)
        (mainActions ConfigData.defaults quietStartUp strayPolls) :=
  have accepted : ConfigData.defaults.Accepted :=
    accepted_of_parsed
      (show configParseOptions (fun _ => .error .enoent) [] =
        .parsed ConfigData.defaults from rfl)
  ⟨accepted,
    ledOwnership_of_run _ _ accepted (ascii "DXP2800") _ quietStartUp
      strayPolls⟩

end Ownership

end App

end UgreenLeds
