import UgreenLeds.HotplugRuns
import UgreenLeds.Panel
import UgreenLeds.Unrest

/-!
# The daemon comes to rest

Without traffic, activity and relevant events, each expiry of a timer brings the
daemon closer to rest, and nothing else that it does leads it away.  So the timers
expire a bounded number of times; when none of them is armed any more, every LED
whose commands go through shows what it shows at rest.
-/

namespace UgreenLeds

namespace AppAction

/-- Nothing has happened that the policies react to. -/
def Silent : AppAction → Prop
  | .networkTimer read _ | .diskTimer _ read _ =>
      read.isSome
  | .uevent uevents =>
      (AppAction.uevent uevents).keepsDisks = true
  | .bpfEvent event _ _ =>
      ∀ received, event = some received →
        received.kind ≠ eventNetwork ∧ received.kind ≠ eventDisk
  | .disksInit _ | .networkInit | .syncBpf _ _ =>
      False
  | _ =>
      True

/-- Arming the timer for a blinking bay works. -/
def Arms : AppAction → Prop
  | .bpfEvent _ _ settime =>
      settime = none
  | _ =>
      True

end AppAction

namespace App

section Unrest

variable
  {Credit : Type}
  {app : App Credit}

/-- How far the daemon is from rest. -/
def unrest (app : App Credit) : Nat :=
  match app.progress with
  | .running =>
      app.network.elim 0 NetworkLed.unrest +
        app.disks.elim 0 DiskLeds.unrest
  | _ =>
      0

/-- The timer whose callback this is has expired. -/
def due (app : App Credit) : AppAction → Bool
  | .networkTimer none _ =>
      app.isRunning && app.network.any fun network =>
        network.timer.isSome
  | .diskTimer (some time) none _ =>
      app.isRunning && app.disks.any fun disks =>
        disks.timer.any fun value => value.toNs ≤ time.ns.toNat
  | _ =>
      false

/-- No timer is armed. -/
def asleep (app : App Credit) : Bool :=
  (app.network.all fun network => network.timer.isNone) &&
    app.disks.all fun disks => disks.timer.isNone

/-- A daemon that is running has the unrest of its policies. -/
theorem unrest_of_running (running : app.progress = .running) :
    app.unrest =
      app.network.elim 0 NetworkLed.unrest +
        app.disks.elim 0 DiskLeds.unrest := by
  simp only [unrest, running]

/-- A daemon that ends is at rest. -/
@[simp] theorem unrest_settle_error (error : Errno) :
    (app.settle (.error error)).unrest = 0 :=
  rfl

/-- The pulse, the bays and two timers keep the daemon from rest. -/
theorem unrest_le (app : App Credit) : app.unrest ≤ 13 := by
  simp only [unrest]
  split
  · have network : app.network.elim 0 NetworkLed.unrest ≤ 4 := by
      cases app.network with
      | none =>
          exact Nat.zero_le 4
      | some network =>
          exact network.unrest_le
    have disks : app.disks.elim 0 DiskLeds.unrest ≤ 9 := by
      cases app.disks with
      | none =>
          exact Nat.zero_le 9
      | some disks =>
          exact disks.unrest_le
    omega
  · exact Nat.zero_le 13

/-- A callback of the network policy raises no unrest if it does not itself. -/
theorem unrest_onNetwork_le
    {callback : NetworkLed Credit → Status × NetworkLed Credit}
    (steady :
      ∀ network : NetworkLed Credit,
        (callback network).1 = .ok () →
        (callback network).2.unrest ≤ network.unrest) :
    (app.onNetwork callback).unrest ≤ app.unrest := by
  simp only [onNetwork]
  split
  · exact Nat.le_refl _
  · rename_i network initialized
    have lower :=
      steady { network with controller := app.controller }
    generalize
      callback { network with controller := app.controller } = result
      at lower ⊢
    rcases result with ⟨error | done, after⟩
    · exact Nat.zero_le _
    · have below : after.unrest ≤ network.unrest := lower rfl
      simp only [settle, unrest, initialized]
      split
      · exact Nat.add_le_add_right below _
      · exact Nat.le_refl _

/-- It lowers the unrest of a running daemon if it does so itself. -/
theorem unrest_onNetwork_lt
    (running : app.progress = .running)
    {network : NetworkLed Credit}
    (initialized : app.network = some network)
    {callback : NetworkLed Credit → Status × NetworkLed Credit}
    (restless : 0 < network.unrest)
    (drops :
      (callback { network with controller := app.controller }).1 =
        .ok () →
      (callback { network with controller := app.controller }).2.unrest <
        network.unrest) :
    (app.onNetwork callback).unrest < app.unrest := by
  rw [unrest_of_running running, initialized]
  simp only [onNetwork, initialized]
  generalize
    callback { network with controller := app.controller } = result
    at drops ⊢
  rcases result with ⟨error | done, after⟩
  · simp only [unrest_settle_error, Option.elim_some]
    omega
  · have below : after.unrest < network.unrest := drops rfl
    simp only [settle, unrest, running, Option.elim_some]
    omega

/-- A callback of the disk policy raises no unrest if it does not itself. -/
theorem unrest_onDisks_le
    {callback : DiskLeds → Status × DiskLeds}
    (steady :
      ∀ disks : DiskLeds,
        (callback disks).1 = .ok () →
        (callback disks).2.unrest ≤ disks.unrest) :
    (app.onDisks callback).unrest ≤ app.unrest := by
  simp only [onDisks]
  split
  · exact Nat.le_refl _
  · rename_i disks initialized
    have lower := steady { disks with controller := app.controller }
    generalize
      callback { disks with controller := app.controller } = result
      at lower ⊢
    rcases result with ⟨error | done, after⟩
    · exact Nat.zero_le _
    · have below : after.unrest ≤ disks.unrest := lower rfl
      simp only [settle, unrest, initialized]
      split
      · exact Nat.add_le_add_left below _
      · exact Nat.le_refl _

/-- It lowers the unrest of a running daemon if it does so itself. -/
theorem unrest_onDisks_lt
    (running : app.progress = .running)
    {disks : DiskLeds}
    (initialized : app.disks = some disks)
    {callback : DiskLeds → Status × DiskLeds}
    (restless : 0 < disks.unrest)
    (drops :
      (callback { disks with controller := app.controller }).1 =
        .ok () →
      (callback { disks with controller := app.controller }).2.unrest <
        disks.unrest) :
    (app.onDisks callback).unrest < app.unrest := by
  rw [unrest_of_running running, initialized]
  simp only [onDisks, initialized]
  generalize
    callback { disks with controller := app.controller } = result
    at drops ⊢
  rcases result with ⟨error | done, after⟩
  · simp only [unrest_settle_error, Option.elim_some]
    omega
  · have below : after.unrest < disks.unrest := drops rfl
    simp only [settle, unrest, running, Option.elim_some]
    omega

end Unrest

section Calls

variable
  {Credit : Type}
  [NatCast Credit] [Add Credit] [Sub Credit] [Div Credit]
  [LE Credit] [DecidableLE Credit]
  (script : Script)
  {app : App Credit}
  {action : AppAction}

/-- Nothing that happens silently raises the unrest. -/
theorem unrest_call_le (silent : action.Silent) :
    (app.call script action).unrest ≤ app.unrest := by
  simp only [call]
  split
  · cases action with
    | disksInit discovery | networkInit | syncBpf maps fuel =>
        cases silent
    | bpfStart failure | consumed failure =>
        cases failure with
        | none =>
            exact Nat.le_refl _
        | some error =>
            exact Nat.zero_le _
    | signal result =>
        rcases result with error | (_ | _)
        · exact Nat.zero_le _
        · exact Nat.le_refl _
        · exact Nat.zero_le _
    | networkTimer read settime =>
        exact
          unrest_onNetwork_le fun network =>
            NetworkLed.unrest_handleTimer_le script
    | render settime =>
        exact
          unrest_onNetwork_le fun network =>
            NetworkLed.unrest_render_le script
    | diskTimer clock read settime =>
        exact
          unrest_onDisks_le fun disks =>
            DiskLeds.unrest_handleTimer_le script
    | uevent uevents =>
        obtain ⟨status, same⟩ :=
          uevent_of_irrelevant script app silent
        simp only [handle, same]
        exact unrest_onDisks_le fun disks _ => Nat.le_refl _
    | bpfEvent event clock settime =>
        cases event with
        | none =>
            exact Nat.le_refl _
        | some event =>
            obtain ⟨notNetwork, notDisk⟩ := silent event rfl
            simp only [handle, bpfEvent, if_neg notNetwork,
              if_neg notDisk]
            exact Nat.le_refl _
    | fail error =>
        exact Nat.zero_le _
  · exact Nat.le_refl _

/-- The expiry of a timer lowers the unrest. -/
theorem unrest_call_lt (due : app.due action = true) :
    (app.call script action).unrest < app.unrest := by
  match action with
  | .networkTimer none settime =>
      simp only [App.due, Bool.and_eq_true, isRunning_eq_true,
        Option.any_eq_true] at due
      obtain ⟨running, network, initialized, armed⟩ := due
      rw [call_of_running script running, handle]
      exact
        unrest_onNetwork_lt running initialized
          (NetworkLed.unrest_pos armed)
          (NetworkLed.unrest_handleTimer_lt script armed)
  | .diskTimer (some time) none settime =>
      simp only [App.due, Bool.and_eq_true, isRunning_eq_true,
        Option.any_eq_true, decide_eq_true_eq] at due
      obtain ⟨running, disks, initialized, value, armed, passed⟩ := due
      rw [call_of_running script running, handle]
      exact
        unrest_onDisks_lt running initialized
          (DiskLeds.unrest_pos armed)
          (DiskLeds.unrest_handleTimer_lt script armed passed)

/-- The unrest of the daemon ranks its runs without events. -/
theorem unrest_ranks :
    Countdown.Ranks (call script)
      (fun (_ : App Credit) action => action.Silent)
      (fun app action => app.due action = true) (fun _ => True)
      unrest where
  keeps := fun _ _ _ _ => trivial
  steady := fun _ _ _ => unrest_call_le script
  drops := fun _ _ _ => unrest_call_lt script

/-- The timers are armed for the light and for the bays that blink. -/
structure Watched (app : App Credit) : Prop where
  network :
    ∀ network, app.network = some network →
      network.ledOn = true → network.timer.isSome
  disks : ∀ disks, app.disks = some disks → disks.Timely

omit
  [NatCast Credit] [Add Credit] [Sub Credit] [Div Credit]
  [LE Credit] [DecidableLE Credit] in
/-- A network callback that keeps the light timed does so in the daemon. -/
theorem Watched.onNetwork
    (watched : app.Watched)
    {callback : NetworkLed Credit → Status × NetworkLed Credit}
    (keeps :
      ∀ network : NetworkLed Credit,
        (network.ledOn = true → network.timer.isSome) →
        (callback network).1 = .ok () →
        (callback network).2.ledOn = true →
        (callback network).2.timer.isSome)
    (running : (app.onNetwork callback).progress = .running) :
    (app.onNetwork callback).Watched := by
  simp only [App.onNetwork] at running ⊢
  split
  · exact watched
  · rename_i network initialized
    have kept :=
      keeps { network with controller := app.controller }
        (watched.network network initialized)
    simp only [initialized] at running
    generalize
      callback { network with controller := app.controller } = result
      at kept running ⊢
    rcases result with ⟨error | done, after⟩
    · cases running
    · refine ⟨?_, watched.disks⟩
      intro other isAfter
      cases isAfter
      exact kept rfl

omit
  [NatCast Credit] [Add Credit] [Sub Credit] [Div Credit]
  [LE Credit] [DecidableLE Credit] in
/-- A disk callback that keeps the bays in time does so in the daemon. -/
theorem Watched.onDisks
    (watched : app.Watched)
    {callback : DiskLeds → Status × DiskLeds}
    (keeps :
      ∀ disks : DiskLeds, disks.Timely →
        (callback disks).1 = .ok () →
        (callback disks).2.Timely)
    (running : (app.onDisks callback).progress = .running) :
    (app.onDisks callback).Watched := by
  simp only [App.onDisks] at running ⊢
  split
  · exact watched
  · rename_i disks initialized
    have kept :=
      keeps { disks with controller := app.controller }
        ((watched.disks disks initialized).frame app.controller)
    simp only [initialized] at running
    generalize
      callback { disks with controller := app.controller } = result
      at kept running ⊢
    rcases result with ⟨error | done, after⟩
    · cases running
    · refine ⟨watched.network, ?_⟩
      intro other isAfter
      cases isAfter
      exact kept rfl

/-- A daemon that goes on has its timers armed. -/
theorem Watched.handle
    (watched : app.Watched)
    (arms : action.Arms)
    (running : (app.handle script action).progress = .running) :
    (app.handle script action).Watched := by
  cases action with
  | disksInit discovery =>
      have tracked :=
        DiskLeds.init_tracked script app.controller app.config
          app.productName discovery
      simp only [App.handle, App.disksInit] at running ⊢
      generalize
        DiskLeds.init script app.controller app.config app.productName
          discovery = result at tracked running ⊢
      rcases result with ⟨error | done, disks⟩
      · cases running
      · refine ⟨watched.network, ?_⟩
        intro other isAfter
        cases isAfter
        exact ⟨_, tracked⟩
  | networkInit =>
      obtain ⟨controller, dark⟩ :=
        (NetworkLed.init_eq script app.controller app.config :
          ∃ after,
            (NetworkLed.init script app.controller app.config :
              Status × NetworkLed Credit).2 = .zeroed after app.config)
      simp only [App.handle, App.networkInit] at running ⊢
      generalize
        (NetworkLed.init script app.controller app.config :
          Status × NetworkLed Credit) = result at dark running ⊢
      rcases result with ⟨error | done, network⟩
      · cases running
      · refine ⟨?_, watched.disks⟩
        intro other isAfter
        cases isAfter
        simp only at dark
        rw [dark]
        intro lit
        cases lit
  | bpfStart failure | consumed failure =>
      cases failure with
      | none =>
          exact watched
      | some error =>
          cases running
  | syncBpf maps fuel =>
      simp only [App.handle, App.syncBpf] at running ⊢
      split
      · exact watched
      · rename_i disks initialized
        simp only [initialized] at running
        generalize disks.syncBpf maps fuel app.bpf = result
          at running ⊢
        rcases result with _ | ⟨error | done, bpf⟩
        · cases running
        · cases running
        · exact ⟨watched.network, watched.disks⟩
  | signal result =>
      rcases result with error | (_ | _)
      · cases running
      · exact watched
      · cases running
  | networkTimer read settime =>
      exact
        watched.onNetwork
          (fun network _ =>
            NetworkLed.timed_of_handleTimer script)
          running
  | render settime =>
      exact
        watched.onNetwork
          (fun network timed =>
            NetworkLed.timed_of_render script timed)
          running
  | diskTimer clock read settime =>
      exact
        watched.onDisks
          (fun disks timely => timely.timer script)
          running
  | uevent uevents =>
      simp only [App.handle, App.uevent] at running ⊢
      split
      · exact watched
      · rename_i disks initialized
        have timely :=
          ((watched.disks disks initialized).frame
            app.controller).uevent script app.bpf uevents
        simp only [initialized] at running
        generalize
          DiskLeds.handleUevent script
            { disks with controller := app.controller } app.bpf
            uevents = result at timely running ⊢
        rcases result with ⟨_ | (error | done), after, bpf⟩
        · cases running
        · cases running
        · refine ⟨watched.network, ?_⟩
          intro other isAfter
          cases isAfter
          exact timely
  | bpfEvent event clock settime =>
      cases arms
      cases event with
      | none =>
          exact watched
      | some event =>
          simp only [App.handle, App.bpfEvent] at running ⊢
          split
          · rename_i isNetwork
            rw [if_pos isNetwork] at running
            exact watched.onNetwork (fun _ timed _ => timed) running
          · rename_i notNetwork
            rw [if_neg notNetwork] at running
            split
            · rename_i isDisk
              rw [if_pos isDisk] at running
              exact
                watched.onDisks
                  (fun disks timely _ =>
                    timely.activity script event.ledId clock)
                  running
            · exact watched
  | fail error =>
      cases running

/-- So does a daemon that is running after a run. -/
theorem Watched.run
    (watched : app.Watched)
    {actions : List AppAction}
    (arms : ∀ action ∈ actions, action.Arms)
    (running : (App.run script app actions).progress = .running) :
    (App.run script app actions).Watched := by
  induction actions generalizing app with
  | nil =>
      exact watched
  | cons action rest inductionHypothesis =>
      have later :
          (App.run script (app.call script action) rest).progress =
            .running :=
        running
      have called :=
        call_of_running script (running_of_run script running) action
      have still := running_of_run script later
      refine inductionHypothesis ?_ ?_ running
      · rw [called] at still ⊢
        exact
          watched.handle script (arms action (List.mem_cons_self ..))
            still
      · intro other member
        exact arms other (List.mem_cons_of_mem action member)

/-- The panel of a daemon that is asleep is that of a daemon at rest. -/
theorem Watched.panel_eq
    (watched : app.Watched)
    (asleep : app.asleep = true)
    (data : ConfigData)
    (config : Config) :
    app.panel data config = app.restPanel data config := by
  simp only [App.asleep, Bool.and_eq_true, Option.all_eq_true,
    Option.isNone_iff_eq_none] at asleep
  simp only [panel, restPanel, Panel.mk.injEq, true_and]
  constructor
  · cases initialized : app.network with
    | none =>
        rfl
    | some network =>
        have dark : network.ledOn = false := by
          by_contra isLit
          have armed :=
            watched.network network initialized (by simpa using isLit)
          rw [asleep.1 network initialized] at armed
          cases armed
        simp only [NetworkLed.picture, dark]
  · funext index
    cases initialized : app.disks with
    | none =>
        rfl
    | some disks =>
        have idle :=
          (watched.disks disks initialized).idle
            (asleep.2 disks initialized) index
        simp only
        split
        · exact DiskLeds.bayPicture_congr config index rfl idle
        · rfl

omit
  [NatCast Credit] [Add Credit] [Sub Credit] [Div Credit]
  [LE Credit] [DecidableLE Credit] in
/-- The daemon starts without timers. -/
theorem start_watched
    (controller : LedController)
    {data : ConfigData}
    (accepted : data.Accepted)
    (productName : List UInt8)
    (bpf : BpfRuntime) :
    (start script controller accepted productName bpf :
      App Credit).Watched := by
  have fresh :
      (start script controller accepted productName bpf :
          App Credit).disks = none ∧
        (start script controller accepted productName bpf :
          App Credit).network = none :=
    start_fresh script controller accepted productName bpf
  constructor
  · intro network initialized
    rw [fresh.2] at initialized
    cases initialized
  · intro disks initialized
    rw [fresh.1] at initialized
    cases initialized

/--
In every run of the daemon in which the timer can be armed for each activity, a
stretch without traffic, activity and relevant events has at most thirteen timer
expiries, however many other calls it has; and once no timer is armed any more,
each LED whose own commands go through shows what it shows at rest.
-/
theorem comesToRest_of_run
    (mcu : LedIndex → McuLed)
    {data : ConfigData}
    (accepted : data.Accepted)
    (productName : List UInt8)
    (bpf : BpfRuntime)
    (startUp : StartUp)
    (polls : List Poll)
    {earlier quiet later : List AppAction}
    (parts :
      mainActions data startUp polls = earlier ++ quiet ++ later)
    (arms : ∀ action ∈ earlier ++ quiet, action.Arms)
    {expiries : Nat}
    (counted :
      Countdown.Counted (call script)
        (fun (_ : App Credit) action => action.Silent)
        (fun app action => app.due action = true)
        ((start script (.initial mcu) accepted productName
          bpf).run script earlier)
        quiet expiries) :
    let app : App Credit :=
      (start script (.initial mcu) accepted productName bpf).run script
        (earlier ++ quiet)
    expiries ≤ 13 ∧
      (app.isRunning = true →
        app.asleep = true →
        (app.restPanel data (data.toConfig accepted)).ShownBy script
          app.controller.bus.mcu) := by
  intro app
  refine ⟨?_, ?_⟩
  · have ranked :=
      counted.add_rank_le (unrest_ranks script) trivial
    have bounded :=
      unrest_le
        ((start script (.initial mcu) accepted productName bpf :
          App Credit).run script earlier)
    omega
  · intro running asleep
    have begun :
        (start script (.initial mcu) accepted productName bpf :
          App Credit).Watched :=
      start_watched script (.initial mcu) accepted productName bpf
    have watched : app.Watched :=
      begun.run script arms (isRunning_eq_true.mp running)
    have shown :
        (app.panel data (data.toConfig accepted)).ShownBy script
          app.controller.bus.mcu :=
      (panel_of_run script mcu accepted productName bpf startUp polls
        parts).1
    rw [watched.panel_eq asleep] at shown
    exact shown

end Calls

section Example

/-- An activity of the disk in the first bay. -/
def briefActivity : Poll :=
  .returned
    { signal := none
      networkTimer := none
      diskTimer := none
      uevent := none
      bpf :=
        some
          ([(some ⟨0, 0, 0, 8388608, eventDisk, 2⟩,
              some ⟨0, by decide⟩, none)], none, none)
      broken := false }

/-- The disk policy's timer expires after the hold time. -/
def holdExpires : Poll :=
  .returned
    { signal := none
      networkTimer := none
      diskTimer := some (some ⟨200000000, by decide⟩, none, none)
      uevent := none
      bpf := none
      broken := false }

/-- One expiry after an activity, the daemon is at rest. -/
theorem comesToRest_of_briefActivity :
      let script : Script := fun _ _ _ => .accepted
      let app : App ℚ :=
        (start script (.initial fun _ => ⟨0, 0, ⟨0, 0, 0⟩, 0, 0⟩)
          defaults_accepted (ascii "DXP2800") (.started fun _ => ∅)).run
            script
            (mainActions ConfigData.defaults quietStartUp
                [briefActivity] ++
              holdExpires.actions)
      (app.restPanel ConfigData.defaults
        (ConfigData.defaults.toConfig defaults_accepted)).ShownBy script
          app.controller.bus.mcu :=
  have arms :
      ∀ action ∈
        mainActions ConfigData.defaults quietStartUp [briefActivity] ++
          holdExpires.actions,
        action.Arms := by
    simp [mainActions, StartUp.actions, Poll.actions, Ready.actions,
      briefActivity, holdExpires, ConfigData.defaults, AppAction.Arms]
  have parts :
      mainActions ConfigData.defaults quietStartUp
          [briefActivity, holdExpires] =
        mainActions ConfigData.defaults quietStartUp [briefActivity] ++
          holdExpires.actions ++ [] := by
    rfl
  (comesToRest_of_run (fun _ _ _ => .accepted)
    (fun _ => ⟨0, 0, ⟨0, 0, 0⟩, 0, 0⟩) defaults_accepted
    (ascii "DXP2800") (.started fun _ => ∅) quietStartUp
    [briefActivity, holdExpires] parts arms
    (.due (by decide +kernel) .done)).2
      (by decide +kernel) (by decide +kernel)

end Example

end App

end UgreenLeds
