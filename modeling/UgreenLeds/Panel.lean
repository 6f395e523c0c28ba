import UgreenLeds.PanelCalls

/-!
# What the whole front panel shows

The panel is seen through the policies: each of the daemon's records says what its
LEDs show.  In every run of the daemon the MCU shows exactly this on each LED
whose own commands go through, however many of them are elided or retried and
whatever fails elsewhere, and `main` leaves such an LED at rest.
-/

namespace UgreenLeds

namespace App

section Once

variable
  {Credit : Type}
  (app : App Credit)

/-- A callback of a policy that is not set up does nothing. -/
theorem onDisks_disks
    (fresh : app.disks = none)
    (callback : DiskLeds → Status × DiskLeds) :
    (app.onDisks callback).disks = none := by
  simp [onDisks, fresh]

/-- A callback of the network policy does not set up the disk policy. -/
theorem onNetwork_disks
    (callback : NetworkLed Credit → Status × NetworkLed Credit) :
    (app.onNetwork callback).disks = app.disks := by
  simp only [onNetwork]
  split
  · rfl
  · generalize callback _ = result
    rcases result with ⟨error | done, network⟩ <;> rfl

/-- The same holds of the network policy. -/
theorem onNetwork_network
    (fresh : app.network = none)
    (callback : NetworkLed Credit → Status × NetworkLed Credit) :
    (app.onNetwork callback).network = none := by
  simp [onNetwork, fresh]

/-- A callback of the disk policy does not set up the network policy. -/
theorem onDisks_network
    (callback : DiskLeds → Status × DiskLeds) :
    (app.onDisks callback).network = app.network := by
  simp only [onDisks]
  split
  · rfl
  · generalize callback _ = result
    rcases result with ⟨error | done, disks⟩ <;> rfl

variable
  [NatCast Credit] [Add Credit] [Sub Credit] [Div Credit]
  [LE Credit] [DecidableLE Credit]
  (script : Script)

/-- Only `disk_leds_init` sets up the disk policy. -/
theorem call_disks
    {action : AppAction}
    (other : action.isDisksInit = false)
    (fresh : app.disks = none) :
    (app.call script action).disks = none := by
  simp only [call]
  split
  · cases action with
    | disksInit discovery =>
        cases other
    | networkInit =>
        simp only [handle, networkInit]
        split <;> exact fresh
    | bpfStart failure | consumed failure =>
        cases failure <;> exact fresh
    | syncBpf maps fuel =>
        simp [handle, syncBpf, fresh]
    | signal result =>
        rcases result with error | _ | _ <;> exact fresh
    | networkTimer read settime | render settime =>
        exact (onNetwork_disks app _).trans fresh
    | diskTimer clock read settime =>
        exact onDisks_disks app fresh _
    | uevent uevents =>
        simp [handle, uevent, fresh]
    | bpfEvent event clock settime =>
        cases event with
        | none =>
            exact fresh
        | some event =>
            simp only [handle, bpfEvent]
            split
            · exact (onNetwork_disks app _).trans fresh
            · split
              · exact onDisks_disks app fresh _
              · exact fresh
    | fail error =>
        exact fresh
  · exact fresh

/-- Only `network_led_init` sets up the network policy. -/
theorem call_network
    {action : AppAction}
    (other : action.isNetworkInit = false)
    (fresh : app.network = none) :
    (app.call script action).network = none := by
  simp only [call]
  split
  · cases action with
    | networkInit =>
        cases other
    | disksInit discovery =>
        simp only [handle, disksInit]
        split <;> exact fresh
    | bpfStart failure | consumed failure =>
        cases failure <;> exact fresh
    | syncBpf maps fuel =>
        simp only [handle, syncBpf]
        split
        · exact fresh
        · split
          · exact fresh
          · rename_i status bpf _
            cases status <;> exact fresh
    | signal result =>
        rcases result with error | _ | _ <;> exact fresh
    | networkTimer read settime | render settime =>
        exact onNetwork_network app fresh _
    | diskTimer clock read settime =>
        exact (onDisks_network app _).trans fresh
    | uevent uevents =>
        simp only [handle, uevent]
        split
        · exact fresh
        · generalize DiskLeds.handleUevent script _ _ _ = result
          rcases result with ⟨_ | error | done, disks, bpf⟩ <;>
            exact fresh
    | bpfEvent event clock settime =>
        cases event with
        | none =>
            exact fresh
        | some event =>
            simp only [handle, bpfEvent]
            split
            · exact onNetwork_network app fresh _
            · split
              · exact (onDisks_network app _).trans fresh
              · exact fresh
    | fail error =>
        exact fresh
  · exact fresh

/-- Without `disk_leds_init` there is no disk policy. -/
theorem run_disks
    {actions : List AppAction}
    (without : actions.countP AppAction.isDisksInit = 0)
    (fresh : app.disks = none) :
    (app.run script actions).disks = none := by
  induction actions generalizing app with
  | nil =>
      exact fresh
  | cons action rest inductionHypothesis =>
      rw [List.countP_eq_zero] at without
      refine inductionHypothesis _ ?_ (call_disks app script ?_ fresh)
      · rw [List.countP_eq_zero]
        exact fun other member =>
          without other (List.mem_cons_of_mem action member)
      · simpa using without action List.mem_cons_self

/-- Without `network_led_init` there is no network policy. -/
theorem run_network
    {actions : List AppAction}
    (without : actions.countP AppAction.isNetworkInit = 0)
    (fresh : app.network = none) :
    (app.run script actions).network = none := by
  induction actions generalizing app with
  | nil =>
      exact fresh
  | cons action rest inductionHypothesis =>
      rw [List.countP_eq_zero] at without
      refine inductionHypothesis _ ?_ (call_network app script ?_ fresh)
      · rw [List.countP_eq_zero]
        exact fun other member =>
          without other (List.mem_cons_of_mem action member)
      · simpa using without action List.mem_cons_self

/-- `main` sets up each policy at most once. -/
structure SetsUpOnce (actions : List AppAction) : Prop where
  disks : actions.countP AppAction.isDisksInit ≤ 1
  network : actions.countP AppAction.isNetworkInit ≤ 1

/-- The calls of a pass through the loop set up no policy. -/
theorem pollActions_setUpNothing
    (poll : Poll)
    {action : AppAction}
    (member : action ∈ poll.actions) :
    action.isDisksInit = false ∧ action.isNetworkInit = false := by
  cases poll with
  | interrupted =>
      cases member
  | failed error =>
      rw [List.mem_singleton.mp member]
      exact ⟨rfl, rfl⟩
  | returned events =>
      simp only [Poll.actions, Ready.actions, List.mem_append] at member
      rcases member with ((((signal | timer) | timer) | uevent) | bpf) |
        broken
      · obtain ⟨result, -, rfl⟩ :=
          Option.map_eq_some_iff.mp (Option.mem_toList.mp signal)
        exact ⟨rfl, rfl⟩
      · obtain ⟨result, -, rfl⟩ :=
          Option.map_eq_some_iff.mp (Option.mem_toList.mp timer)
        exact ⟨rfl, rfl⟩
      · obtain ⟨result, -, rfl⟩ :=
          Option.map_eq_some_iff.mp (Option.mem_toList.mp timer)
        exact ⟨rfl, rfl⟩
      · obtain ⟨result, -, rfl⟩ :=
          Option.map_eq_some_iff.mp (Option.mem_toList.mp uevent)
        exact ⟨rfl, rfl⟩
      · split at bpf
        · cases bpf
        · rename_i records consumed settime _
          simp only [List.mem_append, List.mem_map, List.mem_cons,
            List.not_mem_nil, or_false] at bpf
          rcases bpf with ⟨record, -, rfl⟩ | rfl | rfl <;>
            exact ⟨rfl, rfl⟩
      · split at broken
        · rw [List.mem_singleton.mp broken]
          exact ⟨rfl, rfl⟩
        · cases broken

/-- So do all passes. -/
theorem polls_setUpNothing
    (polls : List Poll)
    {action : AppAction}
    (member : action ∈ polls.flatMap Poll.actions) :
    action.isDisksInit = false ∧ action.isNetworkInit = false := by
  obtain ⟨poll, -, inPoll⟩ := List.mem_flatMap.mp member
  exact pollActions_setUpNothing poll inPoll

/-- The calls of `main` set up each policy at most once. -/
theorem mainActions_setUpOnce
    (data : ConfigData)
    (startUp : StartUp)
    (polls : List Poll) :
    SetsUpOnce (mainActions data startUp polls) := by
  have noDisks :
      (polls.flatMap Poll.actions).countP AppAction.isDisksInit = 0 :=
    List.countP_eq_zero.mpr fun action member => by
      simp [(polls_setUpNothing polls member).1]
  have noNetwork :
      (polls.flatMap Poll.actions).countP AppAction.isNetworkInit = 0 :=
    List.countP_eq_zero.mpr fun action member => by
      simp [(polls_setUpNothing polls member).2]
  refine ⟨?_, ?_⟩
  · rw [mainActions, List.countP_append, noDisks]
    simp only [StartUp.actions]
    split <;> split <;> split <;>
      simp [List.countP_cons, AppAction.isDisksInit]
  · rw [mainActions, List.countP_append, noNetwork]
    simp only [StartUp.actions]
    split <;> split <;> split <;>
      simp [List.countP_cons, AppAction.isNetworkInit]

/-- A part of a run sets up each policy at most once. -/
theorem SetsUpOnce.of_append
    {earlier later : List AppAction}
    (once : SetsUpOnce (earlier ++ later)) :
    SetsUpOnce earlier := by
  obtain ⟨disks, network⟩ := once
  rw [List.countP_append] at disks network
  exact ⟨by omega, by omega⟩

/-- A run that sets up each policy at most once keeps up the panel. -/
theorem Shown.run
    {slotCount : Nat}
    {script : Script}
    {config : Config}
    {app : App Credit}
    (shown : app.Shown script config)
    (inChassis : app.InChassis slotCount)
    (freshDisks : app.disks = none)
    (freshNetwork : app.network = none)
    {actions : List AppAction}
    (once : SetsUpOnce actions) :
    (app.run script actions).Shown script config := by
  induction actions using List.reverseRecOn with
  | nil =>
      exact shown
  | append_singleton earlier action inductionHypothesis =>
      have before := inductionHypothesis once.of_append
      obtain ⟨disks, network⟩ := once
      simp only [List.countP_append, List.countP_singleton]
        at disks network
      rw [run_concat]
      simp only [call]
      split
      · refine before.handle (run_keeps script inChassis earlier).inChassis
          action ?_ ?_
        · intro isInit
          rw [if_pos isInit] at disks
          exact run_disks app script (by omega) freshDisks
        · intro isInit
          rw [if_pos isInit] at network
          exact run_network app script (by omega) freshNetwork
      · exact before

end Once

section Panel

/-- What the LEDs of the front panel show. -/
structure Panel where
  power : Picture
  network : Picture
  bay : DiskIndex → Picture

/-- The MCU shows a panel on every LED whose commands go through. -/
structure Panel.ShownBy
    (panel : Panel)
    (script : Script)
    (mcu : LedIndex → McuLed) : Prop where
  power :
    Reliable (script powerLed) →
    ShadowedRegister.Holds (mcu powerLed).registers panel.power
  network :
    Reliable (script networkLed) →
    ShadowedRegister.Holds (mcu networkLed).registers panel.network
  bay :
    ∀ index, Reliable (script (bayLed index)) →
      ShadowedRegister.Holds (mcu (bayLed index)).registers
        (panel.bay index)

/-- A picture that says nothing. -/
def unpainted : Picture :=
  fun _ => none

variable
  {Credit : Type}
  [NatCast Credit] [Add Credit] [Sub Credit] [Div Credit]
  [LE Credit] [DecidableLE Credit]

/-- The panel as the configuration and the policies' records describe it. -/
def panel
    (data : ConfigData)
    (config : Config)
    (app : App Credit) : Panel where
  power :=
    if data.powerEnabled then powerPicture data else unpainted
  network :=
    match app.network with
    | none =>
        unpainted
    | some network =>
        NetworkLed.picture { network with config }
  bay := fun index =>
    match app.disks with
    | none =>
        unpainted
    | some disks =>
        if index.val < disks.slotCount then
          DiskLeds.bayPicture config index (disks.slots index)
        else
          unpainted

/-- The panel that `main` leaves behind. -/
def restPanel
    (data : ConfigData)
    (config : Config)
    (app : App Credit) : Panel where
  power :=
    if data.powerEnabled then powerPicture data else unpainted
  network :=
    match app.network with
    | none =>
        unpainted
    | some _ =>
        NetworkLed.darkPicture config
  bay := fun index =>
    match app.disks with
    | none =>
        unpainted
    | some disks =>
        if index.val < disks.slotCount then
          DiskLeds.bayPicture config index
            { disks.slots index with active := false }
        else
          unpainted

variable
  {script : Script}
  {config : Config}
  {app : App Credit}
  {slotCount : Nat}

/-- The LEDs of the policies show their part of the panel. -/
theorem Shown.policies
    (shown : app.Shown script config)
    (data : ConfigData) :
    (Reliable (script networkLed) →
      ShadowedRegister.Holds
        (app.controller.bus.mcu networkLed).registers
        (app.panel data config).network) ∧
    ∀ index, Reliable (script (bayLed index)) →
      ShadowedRegister.Holds
        (app.controller.bus.mcu (bayLed index)).registers
        ((app.panel data config).bay index) := by
  refine ⟨?_, ?_⟩
  · intro reliable
    simp only [panel]
    split
    · exact ShadowedRegister.holds_none _
    · rename_i network initialized
      have displays :=
        (shown.network network initialized).displays reliable
      have sameConfig := shown.networkConfig network initialized
      subst sameConfig
      exact displays.holds
  · intro index reliable
    simp only [panel]
    split
    · exact ShadowedRegister.holds_none _
    · rename_i disks initialized
      split
      · rename_i counted
        have displays :=
          shown.disks disks initialized index counted reliable
        have sameConfig := shown.disksConfig disks initialized
        subst sameConfig
        exact displays.holds
      · exact ShadowedRegister.holds_none _

/-- What is left of a panel once `main` has cleaned up. -/
theorem Shown.cleanup
    (shown : app.Shown script config)
    (inChassis : app.InChassis slotCount)
    (data : ConfigData) :
    (Reliable (script networkLed) →
      ShadowedRegister.Holds
        ((app.cleanup script).controller.bus.mcu networkLed).registers
        (app.restPanel data config).network) ∧
    ∀ index, Reliable (script (bayLed index)) →
      ShadowedRegister.Holds
        ((app.cleanup script).controller.bus.mcu
          (bayLed index)).registers
        ((app.restPanel data config).bay index) := by
  have dark : Keeps slotCount (· = networkLed) app
      (app.onNetwork fun network =>
        (.ok (), network.cleanup script)) :=
    onNetwork_keeps inChassis fun network =>
      NetworkLed.cleanup_touches script network
  have idle : Keeps slotCount (CountedBay slotCount) _
      (app.cleanup script) :=
    onDisks_keeps dark.inChassis fun disks wellFormed =>
      DiskLeds.cleanup_stays script wellFormed
  refine ⟨?_, ?_⟩
  · intro reliable
    have kept :
        (app.cleanup script).controller.slice networkLed = _ :=
      idle.touches.kept networkLed (networkLed_not_countedBay slotCount)
    have device := congrArg LedController.Slice.device kept
    simp only [LedController.slice] at device
    rw [device]
    simp only [restPanel]
    split
    · exact ShadowedRegister.holds_none _
    · rename_i network initialized
      have displays :=
        (shown.network network initialized).cleanup reliable
      have sameConfig := shown.networkConfig network initialized
      subst sameConfig
      simp only [App.onNetwork, initialized]
      exact displays.holds
  · intro index reliable
    simp only [restPanel]
    split
    · exact ShadowedRegister.holds_none _
    · rename_i disks initialized
      split
      · rename_i counted
        obtain ⟨wellFormed, -⟩ := inChassis.table disks initialized
        have displayed :=
          shown.disks_frame dark.touches bayLed_ne_networkLed disks
            initialized
        have displays :=
          DiskLeds.Displayed.cleanup script displayed
            ⟨wellFormed.identified, wellFormed.occupied⟩ counted
            reliable
        have sameConfig := shown.disksConfig disks initialized
        subst sameConfig
        have sameDisks :
            (app.onNetwork fun network =>
              (.ok (), network.cleanup script)).disks = some disks :=
          (onNetwork_disks app _).trans initialized
        simp only [App.cleanup, App.onDisks, sameDisks]
        exact displays.holds
      · exact ShadowedRegister.holds_none _

/-- The daemon starts with coherent LEDs and without policies. -/
theorem start_shown
    (script : Script)
    (mcu : LedIndex → McuLed)
    {data : ConfigData}
    (accepted : data.Accepted)
    (productName : List UInt8)
    (bpf : BpfRuntime) :
    (start script (.initial mcu) accepted productName bpf :
      App Credit).Shown script (data.toConfig accepted) := by
  have coherent :
      ((applyPower script (.initial mcu) data).2.slice
        networkLed).Coherent := by
    have kept :
        (applyPower script (.initial mcu) data).2.slice networkLed =
          (LedController.initial mcu).slice networkLed :=
      (applyPower_touches script (.initial mcu) data).kept networkLed
        (by simp [networkLed, powerLed])
    rw [kept]
    exact LedController.Slice.coherent_of_zero rfl
  simp only [start]
  apply Shown.settle
  exact
    { configured := rfl
      unclaimed := fun _ _ => coherent
      network := fun _ initialized => by cases initialized
      disks := fun _ initialized => by cases initialized
      networkConfig := fun _ initialized => by cases initialized
      disksConfig := fun _ initialized => by cases initialized }

omit
  [NatCast Credit] [Add Credit] [Sub Credit] [Div Credit]
  [LE Credit] [DecidableLE Credit] in
/-- The daemon starts without policies. -/
theorem start_fresh
    (script : Script)
    (controller : LedController)
    {data : ConfigData}
    (accepted : data.Accepted)
    (productName : List UInt8)
    (bpf : BpfRuntime) :
    (start script controller accepted productName bpf :
        App Credit).disks = none ∧
      (start script controller accepted productName bpf :
        App Credit).network = none := by
  simp only [start]
  cases (applyPower script controller data).1 <;> exact ⟨rfl, rfl⟩

/-- The policies are in order, and the reliable LEDs show the panel. -/
structure Lit
    (script : Script)
    (data : ConfigData)
    (config : Config)
    (slotCount : Nat)
    (app : App Credit) : Prop where
  inChassis : app.InChassis slotCount
  shown : app.Shown script config
  power :
    data.powerEnabled = true →
    Reliable (script powerLed) →
    (app.controller.slice powerLed).Displays (powerPicture data)

section Lit

variable {data : ConfigData}

/-- What leaves the power LED alone keeps it as it is. -/
theorem Lit.power_of_kept
    (lit : app.Lit script data config slotCount)
    {controller : LedController}
    (kept : controller.slice powerLed = app.controller.slice powerLed) :
    data.powerEnabled = true →
    Reliable (script powerLed) →
    (controller.slice powerLed).Displays (powerPicture data) := by
  rw [kept]
  exact lit.power

/-- How the daemon goes on does not matter to its LEDs. -/
theorem Lit.settle
    (lit : app.Lit script data config slotCount)
    (status : Status) :
    (app.settle status).Lit script data config slotCount := by
  cases status with
  | ok done =>
      exact lit
  | error error =>
      exact
        ⟨⟨lit.inChassis.chassis, lit.inChassis.table⟩,
          lit.shown.settle (.error error), lit.power⟩

/-- A call keeps up the panel if it does not set up a policy again. -/
theorem Lit.call
    (lit : app.Lit script data config slotCount)
    (action : AppAction)
    (freshDisks : action.isDisksInit = true → app.disks = none)
    (freshNetwork : action.isNetworkInit = true → app.network = none) :
    (app.call script action).Lit script data config slotCount := by
  have keeps := call_keeps script lit.inChassis action
  refine ⟨keeps.inChassis, ?_, ?_⟩
  · simp only [App.call]
    split
    · exact
        lit.shown.handle lit.inChassis action freshDisks freshNetwork
    · exact lit.shown
  · exact
      lit.power_of_kept
        (keeps.touches.kept powerLed fun owns =>
          powerLed_not_policyLed slotCount owns.policyLed)

/-- So does a run. -/
theorem Lit.run
    (lit : app.Lit script data config slotCount)
    (freshDisks : app.disks = none)
    (freshNetwork : app.network = none)
    {actions : List AppAction}
    (once : SetsUpOnce actions) :
    (app.run script actions).Lit script data config slotCount := by
  have keeps := run_keeps script lit.inChassis actions
  exact
    ⟨keeps.inChassis,
      lit.shown.run lit.inChassis freshDisks freshNetwork once,
      lit.power_of_kept
        (keeps.touches.kept powerLed (powerLed_not_policyLed _))⟩

/-- What the power LED of a panel shows. -/
theorem Lit.holds_power
    (lit : app.Lit script data config slotCount)
    {after : LedController}
    (kept : after.slice powerLed = app.controller.slice powerLed)
    (reliable : Reliable (script powerLed)) :
    ShadowedRegister.Holds (after.bus.mcu powerLed).registers
      (if data.powerEnabled then powerPicture data else unpainted) := by
  split
  · rename_i enabled
    exact (lit.power_of_kept kept enabled reliable).holds
  · exact ShadowedRegister.holds_none _

/-- The reliable LEDs show the panel. -/
theorem Lit.panel
    (lit : app.Lit script data config slotCount) :
    (app.panel data config).ShownBy script
      app.controller.bus.mcu := by
  obtain ⟨network, bays⟩ := lit.shown.policies data
  exact ⟨lit.holds_power rfl, network, bays⟩

/-- They show the panel at rest once `main` has cleaned up. -/
theorem Lit.rest
    (lit : app.Lit script data config slotCount) :
    (app.restPanel data config).ShownBy script
      (app.cleanup script).controller.bus.mcu := by
  obtain ⟨network, bays⟩ := lit.shown.cleanup lit.inChassis data
  have kept :=
    (cleanup_keeps script lit.inChassis).touches.kept powerLed
      (powerLed_not_policyLed _)
  exact ⟨lit.holds_power kept, network, bays⟩

end Lit

/-- The daemon starts with its power LED lit. -/
theorem start_lit
    (script : Script)
    (mcu : LedIndex → McuLed)
    {data : ConfigData}
    (accepted : data.Accepted)
    (productName : List UInt8)
    (bpf : BpfRuntime) :
    (start script (.initial mcu) accepted productName bpf :
      App Credit).Lit script data (data.toConfig accepted)
        (diskLayoutSlotCount productName) where
  inChassis :=
    start_inChassis script (.initial mcu) accepted productName bpf
  shown := start_shown script mcu accepted productName bpf
  power := by
    rw [start_controller]
    exact fun enabled reliable =>
      applyPower_displays _ accepted enabled reliable
        (LedController.Slice.coherent_of_zero rfl)

/--
After any part of any run of the daemon, from whatever the LEDs showed before,
each LED whose own commands go through shows what the configuration and the
policies' records say, and so it does once `main` has cleaned up: the power LED as
before, the network LED dark, and the bays idle.
-/
theorem panel_of_run
    (script : Script)
    (mcu : LedIndex → McuLed)
    {data : ConfigData}
    (accepted : data.Accepted)
    (productName : List UInt8)
    (bpf : BpfRuntime)
    (startUp : StartUp)
    (polls : List Poll)
    {earlier later : List AppAction}
    (part : mainActions data startUp polls = earlier ++ later) :
    let app : App Credit :=
      (start script (.initial mcu) accepted productName bpf).run script
        earlier
    (app.panel data (data.toConfig accepted)).ShownBy script
        app.controller.bus.mcu ∧
      (app.restPanel data (data.toConfig accepted)).ShownBy script
        (app.cleanup script).controller.bus.mcu := by
  intro app
  have once := mainActions_setUpOnce data startUp polls
  rw [part] at once
  have fresh :
      (start script (.initial mcu) accepted productName bpf :
          App Credit).disks = none ∧
        (start script (.initial mcu) accepted productName bpf :
          App Credit).network = none :=
    start_fresh script (.initial mcu) accepted productName bpf
  have started :
      (start script (.initial mcu) accepted productName bpf :
        App Credit).Lit script data (data.toConfig accepted)
          (diskLayoutSlotCount productName) :=
    start_lit script mcu accepted productName bpf
  have lit := started.run fresh.1 fresh.2 once.of_append
  exact ⟨lit.panel, lit.rest⟩

/-- The defaults are accepted. -/
theorem defaults_accepted : ConfigData.defaults.Accepted where
  inRange := ConfigData.defaults_inRange
  diskPulse_lt := by decide
  enabled := Or.inl rfl

/-- When each command is lost twice first, all LEDs are reliable. -/
theorem retriedScript_reliable (led : LedIndex) :
    Reliable (LedController.retriedScript led) where
  sleeps := LedController.retriedScript_sleeps led
  through := LedController.retriedScript_goesThrough led

/-- The panel at the end of a run in which each command is lost twice first. -/
theorem panel_of_strayPolls :
    (∀ led, Reliable (LedController.retriedScript led)) ∧
    ∃ accepted : ConfigData.defaults.Accepted,
      let config := ConfigData.defaults.toConfig accepted
      let app : App ℚ :=
        (start LedController.retriedScript
          (.initial fun _ => ⟨statusBreath, 9, ⟨1, 2, 3⟩, 400, 100⟩)
          accepted (ascii "DXP2800") (.started fun _ => ∅)).run
            LedController.retriedScript
            (mainActions ConfigData.defaults quietStartUp strayPolls)
      (app.panel ConfigData.defaults config).ShownBy
          LedController.retriedScript app.controller.bus.mcu ∧
        (app.restPanel ConfigData.defaults config).ShownBy
          LedController.retriedScript
          (app.cleanup LedController.retriedScript).controller.bus.mcu :=
  have accepted : ConfigData.defaults.Accepted :=
    accepted_of_parsed
      (show configParseOptions (fun _ => .error .enoent) [] =
        .parsed ConfigData.defaults from rfl)
  ⟨retriedScript_reliable, accepted,
    panel_of_run LedController.retriedScript _ accepted
      (ascii "DXP2800") _ quietStartUp strayPolls
      (List.append_nil _).symm⟩

end Panel

end App

end UgreenLeds
