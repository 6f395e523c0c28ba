import UgreenLeds.DiskLedPanel
import UgreenLeds.NetworkLedPanel
import UgreenLeds.Ownership

/-!
# What the front panel shows from call to call

Every call that `main` and its event loop make keeps up what the reliable LEDs
show.  The calls of one policy do so for their own LEDs, and they leave the LEDs
of the other policy as they are.
-/

namespace UgreenLeds

open LedController (TouchesOnly)

/-- What `power_led_apply` makes the power LED show. -/
def powerPicture (data : ConfigData) : Picture
  | .color =>
      some data.powerColor
  | .brightness =>
      some data.powerBrightness.toUInt8
  | .display =>
      some
        (match data.powerMode with
        | .on =>
            .on
        | .blink =>
            .blink data.powerOnMs.toNat
              (data.powerOnMs.toNat + data.powerOffMs.toNat)
        | .breath =>
            .breath data.powerOnMs.toNat
              (data.powerOnMs.toNat + data.powerOffMs.toNat))

/-- The requests to the power LED are accepted. -/
theorem powerRequests_fit
    {data : ConfigData}
    (accepted : data.Accepted) :
    ∀ request ∈ powerRequests data, request.Fits := by
  have executable := accepted.executable
  have cycle := accepted.inRange.powerCycle
  have fits :
      data.powerOnMs.toUInt16.toNat + data.powerOffMs.toUInt16.toNat <
        65536 := by
    rw [executable.powerOn, executable.powerOff]
    omega
  intro request member
  simp only [powerRequests, List.mem_cons, List.not_mem_nil, or_false]
    at member
  rcases member with rfl | rfl | rfl
  · trivial
  · trivial
  · cases data.powerMode with
    | on =>
        trivial
    | blink | breath =>
        exact fits

/-- The requests of `power_led_apply` paint its picture. -/
theorem paintAll_powerRequests
    {data : ConfigData}
    (accepted : data.Accepted)
    (picture : Picture) :
    LedController.paintAll picture (powerRequests data) =
      powerPicture data := by
  have executable := accepted.executable
  have cycle := accepted.inRange.powerCycle
  have summed :
      (data.powerOnMs.toUInt16 + data.powerOffMs.toUInt16).toNat =
        data.powerOnMs.toNat + data.powerOffMs.toNat := by
    rw [UInt16.toNat_add, executable.powerOn, executable.powerOff]
    omega
  have lit := executable.powerOn
  funext register
  cases mode : data.powerMode <;> cases register <;>
    simp [LedController.paintAll, powerRequests, powerPicture, mode,
      LedController.Request.paint, LedController.Request.command,
      Command.register, Command.value, summed, lit, Function.update]

/-- A reliable power LED shows its picture once it has been programmed. -/
theorem applyPower_displays
    {script : Script}
    (controller : LedController)
    {data : ConfigData}
    (accepted : data.Accepted)
    (enabled : data.powerEnabled = true)
    (reliable : Reliable (script powerLed))
    (coherent : (controller.slice powerLed).Coherent) :
    ((App.applyPower script controller data).2.slice powerLed).Displays
      (powerPicture data) := by
  obtain ⟨after, sent, shown⟩ :=
    LedController.setAll_displays ledIndex?_ledPower reliable
      coherent.displays (powerRequests_fit accepted)
  rw [paintAll_powerRequests accepted] at shown
  simp only [App.applyPower, enabled, if_true, powerLedApply_eq, sent]
  exact shown

namespace DiskLeds

/-- What is shown on the bays depends on nothing else in the controller. -/
theorem Displayed.frame
    {script : Script}
    {disks : DiskLeds}
    {before after : LedController}
    (displayed :
      ({ disks with controller := before } : DiskLeds).Displayed script)
    (kept :
      ∀ index,
        after.slice (bayLed index) = before.slice (bayLed index)) :
    ({ disks with controller := after } : DiskLeds).Displayed script := by
  intro index counted reliable
  have shown := displayed index counted reliable
  simp only [bay, kept index] at shown ⊢
  exact shown

end DiskLeds

namespace NetworkLed

/-- What is shown on the network LED depends on nothing else there. -/
theorem Displayed.frame
    {Credit : Type}
    [NatCast Credit] [Add Credit] [Sub Credit] [Div Credit]
    [LE Credit] [DecidableLE Credit]
    {script : Script}
    {network : NetworkLed Credit}
    {before after : LedController}
    (displayed :
      ({ network with controller := before } :
        NetworkLed Credit).Displayed script)
    (kept : after.slice networkLed = before.slice networkLed) :
    ({ network with controller := after } :
      NetworkLed Credit).Displayed script := by
  refine ⟨displayed.replayed, ?_, ?_⟩
  · intro reliable dark
    have shown := displayed.dark reliable dark
    simp only [led, kept] at shown ⊢
    exact shown
  · intro reliable lit
    have shown := displayed.lit reliable lit
    simp only [led, kept] at shown ⊢
    exact shown

end NetworkLed

namespace AppAction

/-- The call is `disk_leds_init`. -/
def isDisksInit : AppAction → Bool
  | .disksInit _ =>
      true
  | _ =>
      false

/-- The call is `network_led_init`. -/
def isNetworkInit : AppAction → Bool
  | .networkInit =>
      true
  | _ =>
      false

end AppAction

namespace App

section Shown

variable
  {Credit : Type}
  [NatCast Credit] [Add Credit] [Sub Credit] [Div Credit]
  [LE Credit] [DecidableLE Credit]

/-- The reliable LEDs show what the policies take them to show. -/
structure Shown
    (script : Script)
    (config : Config)
    (app : App Credit) : Prop where
  configured : app.config = config
  /-- An LED without its policy is at least coherent. -/
  unclaimed :
    app.network = none →
    Reliable (script networkLed) →
    (app.controller.slice networkLed).Coherent
  network :
    ∀ network, app.network = some network →
      ({ network with controller := app.controller } :
        NetworkLed Credit).Displayed script
  disks :
    ∀ disks, app.disks = some disks →
      ({ disks with controller := app.controller } :
        DiskLeds).Displayed script
  networkConfig :
    ∀ network, app.network = some network →
      network.config = config
  disksConfig :
    ∀ disks, app.disks = some disks →
      disks.config = config

variable
  {script : Script}
  {config : Config}
  {app after : App Credit}

/-- How the daemon goes on has no part in what is shown. -/
theorem Shown.settle
    (shown : app.Shown script config)
    (status : Status) :
    (app.settle status).Shown script config := by
  cases status with
  | ok done =>
      exact shown
  | error error =>
      exact
        ⟨shown.configured, shown.unclaimed, shown.network, shown.disks,
          shown.networkConfig, shown.disksConfig⟩

/-- The bays keep showing their slots while other LEDs are touched. -/
theorem Shown.disks_frame
    {Own : LedIndex → Prop}
    (shown : app.Shown script config)
    {controller : LedController}
    (touches : TouchesOnly Own app.controller controller)
    (others : ∀ index, ¬ Own (bayLed index)) :
    ∀ disks, app.disks = some disks →
      ({ disks with controller } : DiskLeds).Displayed script :=
  fun disks initialized =>
    (shown.disks disks initialized).frame fun index =>
      touches.kept (bayLed index) (others index)

/-- No bay has the network LED. -/
theorem bayLed_ne_networkLed (index : DiskIndex) :
    bayLed index ≠ networkLed := by
  intro same
  have numbers := congrArg Fin.val same
  simp only [bayLed, networkLed] at numbers
  omega

/-- The network LED is no bay of the chassis. -/
theorem networkLed_not_countedBay (slotCount : Nat) :
    ¬ CountedBay slotCount networkLed := by
  rintro ⟨index, -, isBay⟩
  exact bayLed_ne_networkLed index isBay.symm

/-- A callback of the network policy that keeps up its LED does so here. -/
theorem Shown.onNetwork
    (shown : app.Shown script config)
    {callback : NetworkLed Credit → Status × NetworkLed Credit}
    (touches :
      ∀ network,
        TouchesOnly (· = networkLed) network.controller
          (callback network).2.controller)
    (displays :
      ∀ network, network.Displayed script →
        (callback network).2.Displayed script)
    (sameConfig :
      ∀ network, (callback network).2.config = network.config) :
    (app.onNetwork callback).Shown script config := by
  simp only [App.onNetwork]
  split
  · exact shown
  · rename_i network initialized
    apply Shown.settle
    refine
      { configured := shown.configured
        unclaimed := ?_
        network := ?_
        disks :=
          shown.disks_frame
            (touches { network with controller := app.controller })
            bayLed_ne_networkLed
        networkConfig := ?_
        disksConfig := shown.disksConfig }
    · intro missing
      cases missing
    · intro other isAfter
      cases isAfter
      exact displays _ (shown.network network initialized)
    · intro other isAfter
      cases isAfter
      exact
        (sameConfig _).trans (shown.networkConfig network initialized)

/-- What the bays' calls touch leaves the network LED as it is. -/
theorem Shown.network_frame
    {slotCount : Nat}
    (shown : app.Shown script config)
    {controller : LedController}
    (touches :
      TouchesOnly (CountedBay slotCount) app.controller controller) :
    (app.network = none →
      Reliable (script networkLed) →
      (controller.slice networkLed).Coherent) ∧
    ∀ network, app.network = some network →
      ({ network with controller } :
        NetworkLed Credit).Displayed script := by
  have kept :
      controller.slice networkLed = app.controller.slice networkLed :=
    touches.kept networkLed (networkLed_not_countedBay slotCount)
  refine ⟨?_, ?_⟩
  · intro missing reliable
    rw [kept]
    exact shown.unclaimed missing reliable
  · intro network initialized
    exact (shown.network network initialized).frame kept

/-- A call that only the bays see keeps up the panel if they do. -/
theorem Shown.of_disks
    {slotCount : Nat}
    (shown : app.Shown script config)
    (sameNetwork : after.network = app.network)
    (sameConfig : after.config = app.config)
    (touches :
      TouchesOnly (CountedBay slotCount) app.controller
        after.controller)
    (displays :
      ∀ disks, after.disks = some disks →
        ({ disks with controller := after.controller } :
          DiskLeds).Displayed script)
    (disksConfig :
      ∀ disks, after.disks = some disks → disks.config = config) :
    after.Shown script config := by
  obtain ⟨unclaimed, network⟩ := shown.network_frame touches
  refine
    { configured := sameConfig.trans shown.configured
      unclaimed := ?_
      network := ?_
      disks := displays
      networkConfig := ?_
      disksConfig }
  · rw [sameNetwork]
    exact unclaimed
  · rw [sameNetwork]
    exact network
  · rw [sameNetwork]
    exact shown.networkConfig

/-- A callback of the disk policy that keeps up the bays does so here. -/
theorem Shown.onDisks
    {slotCount : Nat}
    (shown : app.Shown script config)
    (inChassis : app.InChassis slotCount)
    {callback : DiskLeds → Status × DiskLeds}
    (stays :
      ∀ disks, disks.WellFormed →
        DiskLeds.StaysInChassis disks (callback disks).2)
    (displays :
      ∀ disks, disks.WellFormed → disks.Displayed script →
        (callback disks).2.Displayed script)
    (sameConfig :
      ∀ disks, (callback disks).2.config = disks.config) :
    (app.onDisks callback).Shown script config := by
  have keeps := onDisks_keeps inChassis stays
  simp only [App.onDisks] at keeps ⊢
  split at keeps
  · exact shown
  · rename_i disks initialized
    obtain ⟨wellFormed, -⟩ := inChassis.table disks initialized
    have formed :
        ({ disks with controller := app.controller } :
          DiskLeds).WellFormed :=
      ⟨wellFormed.identified, wellFormed.occupied⟩
    apply Shown.settle
    have touches :
        TouchesOnly (CountedBay slotCount) app.controller
          (callback
            { disks with controller := app.controller }).2.controller :=
      by
        have settled := keeps.touches
        generalize callback { disks with controller := app.controller } =
          result at settled ⊢
        rcases result with ⟨error | done, next⟩ <;> exact settled
    refine shown.of_disks rfl rfl touches ?_ ?_
    · intro other isAfter
      cases isAfter
      exact displays _ formed (shown.disks disks initialized)
    · intro other isAfter
      cases isAfter
      exact (sameConfig _).trans (shown.disksConfig disks initialized)

/-- `disk_leds_init` shows every bay, unless `main` gives up. -/
theorem Shown.disksInit
    {slotCount : Nat}
    (shown : app.Shown script config)
    (inChassis : app.InChassis slotCount)
    (fresh : app.disks = none)
    (discovery : Except Errno Discovery) :
    (app.disksInit script discovery).Shown script config := by
  have touches := (disksInit_keeps script inChassis discovery).touches
  have displays :=
    DiskLeds.init_displayed script app.controller app.config
      app.productName discovery
  have sameConfig :
      (DiskLeds.init script app.controller app.config app.productName
        discovery).2.config = app.config :=
    DiskLeds.rescan_config script _ discovery
  simp only [App.disksInit] at touches ⊢
  generalize
    DiskLeds.init script app.controller app.config app.productName
      discovery = result at touches displays sameConfig ⊢
  rcases result with ⟨error | done, disks⟩
  · apply Shown.settle
    refine shown.of_disks rfl rfl touches ?_ shown.disksConfig
    intro other isOld
    rw [fresh] at isOld
    cases isOld
  · refine shown.of_disks rfl rfl touches ?_ ?_
    · intro other isAfter
      cases isAfter
      exact displays rfl
    · intro other isAfter
      cases isAfter
      exact sameConfig.trans shown.configured

/-- `disk_leds_handle_uevent` keeps up the bays. -/
theorem Shown.uevent
    {slotCount : Nat}
    (shown : app.Shown script config)
    (inChassis : app.InChassis slotCount)
    (uevents : DiskLeds.Uevents) :
    (app.uevent script uevents).Shown script config := by
  have keeps := uevent_keeps script inChassis uevents
  simp only [App.uevent] at keeps ⊢
  split at keeps
  · exact shown
  · rename_i disks initialized
    have displayed := shown.disks disks initialized
    have displays :=
      DiskLeds.Displayed.handleUevent script displayed app.bpf uevents
    have sameConfig :=
      DiskLeds.handleUevent_config script
        { disks with controller := app.controller } app.bpf uevents
    generalize
      DiskLeds.handleUevent script
        { disks with controller := app.controller } app.bpf uevents =
          result at keeps displays sameConfig ⊢
    rcases result with ⟨status, next, bpf⟩
    have follows :
        TouchesOnly (CountedBay slotCount) app.controller
          next.controller →
        ({ app with
            disks := some next
            controller := next.controller
            bpf } : App Credit).Shown script config := by
      intro touches
      refine shown.of_disks rfl rfl touches ?_ ?_
      · intro other isAfter
        cases isAfter
        exact displays
      · intro other isAfter
        cases isAfter
        exact sameConfig.trans (shown.disksConfig disks initialized)
    cases status with
    | none =>
        have after := follows keeps.touches
        exact
          ⟨after.configured, after.unclaimed, after.network,
            after.disks, after.networkConfig, after.disksConfig⟩
    | some status =>
        apply Shown.settle
        refine follows ?_
        have touches := keeps.touches
        cases status <;> exact touches

/-- `network_led_init` leaves the network LED dark. -/
theorem Shown.networkInit
    {slotCount : Nat}
    (shown : app.Shown script config)
    (inChassis : app.InChassis slotCount)
    (fresh : app.network = none) :
    (app.networkInit script).Shown script config := by
  have touches := (networkInit_keeps script inChassis).touches
  have displays :
      (NetworkLed.init script app.controller app.config :
        Status × NetworkLed Credit).2.Displayed script :=
    NetworkLed.init_displayed app.controller app.config
      (shown.unclaimed fresh)
  have sameConfig :
      (NetworkLed.init script app.controller app.config :
        Status × NetworkLed Credit).2.config = app.config := by
    simp only [NetworkLed.init]
    split <;> rfl
  simp only [App.networkInit] at touches ⊢
  generalize
    (NetworkLed.init script app.controller app.config :
      Status × NetworkLed Credit) = result
        at touches displays sameConfig ⊢
  rcases result with ⟨error | done, network⟩
  · apply Shown.settle
    refine
      { configured := shown.configured
        unclaimed := ?_
        network := ?_
        disks := shown.disks_frame touches bayLed_ne_networkLed
        networkConfig := ?_
        disksConfig := shown.disksConfig }
    · intro _ reliable
      exact (displays.displays reliable).coherent
    · intro other isOld
      rw [fresh] at isOld
      cases isOld
    · intro other isOld
      rw [fresh] at isOld
      cases isOld
  · refine
      { configured := shown.configured
        unclaimed := ?_
        network := ?_
        disks := shown.disks_frame touches bayLed_ne_networkLed
        networkConfig := ?_
        disksConfig := shown.disksConfig }
    · intro missing
      cases missing
    · intro other isAfter
      cases isAfter
      exact displays
    · intro other isAfter
      cases isAfter
      exact sameConfig.trans shown.configured

/-- `handle_bpf_event` keeps up what is shown. -/
theorem Shown.bpfEvent
    {slotCount : Nat}
    (shown : app.Shown script config)
    (inChassis : app.InChassis slotCount)
    (event : Option LedEvent)
    (clock : Option MonotonicTime)
    (settime : Option Errno) :
    (app.bpfEvent script event clock settime).Shown script config := by
  cases event with
  | none =>
      exact shown
  | some event =>
      simp only [App.bpfEvent]
      split
      · exact
          shown.onNetwork
            (fun network => Footprint.Touches.refl network.controller)
            (fun network displayed => displayed.addSample _ _)
            (fun network => rfl)
      · split
        · exact
            shown.onDisks inChassis
              (fun disks wellFormed =>
                DiskLeds.handleActivity_stays script wellFormed
                  event.ledId clock settime)
              (fun disks _ displayed =>
                displayed.handleActivity event.ledId clock settime)
              (fun disks =>
                DiskLeds.handleActivity_config script disks event.ledId
                  clock settime)
        · exact shown

/-- Synchronizing the maps touches no LED. -/
theorem Shown.syncBpf
    (shown : app.Shown script config)
    (maps : MapScript)
    (fuel : Nat) :
    (app.syncBpf maps fuel).Shown script config := by
  simp only [App.syncBpf]
  split
  · exact shown
  · split
    · exact
        ⟨shown.configured, shown.unclaimed, shown.network, shown.disks,
          shown.networkConfig, shown.disksConfig⟩
    · apply Shown.settle
      exact
        ⟨shown.configured, shown.unclaimed, shown.network, shown.disks,
          shown.networkConfig, shown.disksConfig⟩

variable
  {slotCount : Nat}

/-- Every call keeps up the panel, if a policy is not set up twice. -/
theorem Shown.handle
    (shown : app.Shown script config)
    (inChassis : app.InChassis slotCount)
    (action : AppAction)
    (freshDisks : action.isDisksInit = true → app.disks = none)
    (freshNetwork : action.isNetworkInit = true → app.network = none) :
    (app.handle script action).Shown script config := by
  cases action with
  | disksInit discovery =>
      exact shown.disksInit inChassis (freshDisks rfl) discovery
  | networkInit =>
      exact shown.networkInit inChassis (freshNetwork rfl)
  | bpfStart failure =>
      cases failure with
      | none =>
          exact shown
      | some error =>
          exact shown.settle (.error error)
  | syncBpf maps fuel =>
      exact shown.syncBpf maps fuel
  | signal result =>
      match result with
      | .error error =>
          exact shown.settle (.error error)
      | .ok true =>
          exact
            ⟨shown.configured, shown.unclaimed, shown.network,
              shown.disks, shown.networkConfig, shown.disksConfig⟩
      | .ok false =>
          exact shown
  | networkTimer read settime =>
      exact
        shown.onNetwork
          (fun network =>
            NetworkLed.handleTimer_touches script network read settime)
          (fun network displayed => displayed.handleTimer read settime)
          (fun network =>
            NetworkLed.handleTimer_config script network read settime)
  | diskTimer clock read settime =>
      exact
        shown.onDisks inChassis
          (fun disks wellFormed =>
            DiskLeds.handleTimer_stays script wellFormed clock read
              settime)
          (fun disks wellFormed displayed =>
            DiskLeds.Displayed.handleTimer script displayed wellFormed
              clock read settime)
          (fun disks =>
            DiskLeds.handleTimer_config script disks clock read settime)
  | uevent uevents =>
      exact shown.uevent inChassis uevents
  | bpfEvent event clock settime =>
      exact shown.bpfEvent inChassis event clock settime
  | consumed failure =>
      cases failure with
      | none =>
          exact shown
      | some error =>
          exact shown.settle (.error error)
  | render settime =>
      exact
        shown.onNetwork
          (fun network =>
            NetworkLed.render_touches script network settime)
          (fun network displayed => displayed.render settime)
          (fun network =>
            NetworkLed.render_config script network settime)
  | fail error =>
      exact shown.settle (.error error)

end Shown

end App

end UgreenLeds
