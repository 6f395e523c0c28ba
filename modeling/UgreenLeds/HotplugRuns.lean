import UgreenLeds.DiskHotplug
import UgreenLeds.Ownership
import UgreenLeds.UeventDrain

/-!
# Hot-plugging in a run of the daemon

In any order of the daemon's calls, the slot table and the maps of the tracepoint
program follow the disks of the system.  Only the scan at the start and the
relevant events change what is known of the disks, and a daemon that goes on after
one of them has synchronised its maps.
-/

namespace UgreenLeds

namespace AppAction

/-- The call does not change which disks are known. -/
def keepsDisks : AppAction → Bool
  | .disksInit _ | .syncBpf _ _ =>
      false
  | .uevent uevents =>
      uevents.recvError ≠ .eagain ||
        !uevents.messages.any DiskLeds.isBlockUevent
  | _ =>
      true

end AppAction

namespace DiskLeds

variable
  (script : Script)
  {disks after : DiskLeds}

/-- The same bays hold the same devices. -/
structure SameDisks (disks after : DiskLeds) : Prop where
  slotCount : after.slotCount = disks.slotCount
  present :
    ∀ index, (after.slots index).present = (disks.slots index).present
  dev : ∀ index, (after.slots index).dev = (disks.slots index).dev

theorem SameDisks.refl (disks : DiskLeds) : SameDisks disks disks :=
  ⟨rfl, fun _ => rfl, fun _ => rfl⟩

/-- Moving a bay's deadline keeps the disks. -/
theorem extend_sameDisks
    (index : DiskIndex)
    (clock : Option MonotonicTime) :
    SameDisks disks (disks.extend index clock) := by
  refine ⟨rfl, ?_, ?_⟩ <;>
    · intro other
      by_cases same : other = index
      · subst same
        simp [extend]
      · simp [extend, same]

/-- An activity event keeps the disks. -/
theorem handleActivity_sameDisks
    (ledId : UInt8)
    (clock : Option MonotonicTime)
    (settime : Option Errno) :
    SameDisks disks
      (handleActivity script disks ledId clock settime).2 := by
  rcases handleActivity_cases script disks ledId clock settime with
      ⟨unchanged, -⟩ | ⟨index, -, -, -, handled⟩
  · rw [unchanged]
    exact .refl disks
  · have extended : SameDisks disks (disks.extend index clock) :=
      extend_sameDisks index clock
    rcases handled with
        ⟨-, next⟩ | ⟨-, error, controller, -, next⟩ |
          ⟨-, controller, -, next⟩
    · rw [next]
      exact ⟨extended.slotCount, extended.present, extended.dev⟩
    · rw [next]
      exact ⟨extended.slotCount, extended.present, extended.dev⟩
    · rw [next]
      refine ⟨extended.slotCount, ?_, ?_⟩
      · intro other
        rw [← extended.present other]
        by_cases same : other = index
        · subst same
          simp
        · simp [same]
      · intro other
        rw [← extended.dev other]
        by_cases same : other = index
        · subst same
          simp
        · simp [same]

/-- The timer's callback keeps the disks. -/
theorem handleTimer_sameDisks
    (clock : Option MonotonicTime)
    (read settime : Option Errno) :
    SameDisks disks
      (handleTimer script disks clock read settime).2 := by
  by_cases regular : ∀ error, read = some error → error = .eagain
  · have expires :
        ∀ slot : DiskSlot,
          (expired (monotonicNs clock) slot).present = slot.present ∧
            (expired (monotonicNs clock) slot).dev = slot.dev := by
      intro slot
      unfold expired
      split <;> exact ⟨rfl, rfl⟩
    have slots :
        ∀ index,
          (handleTimer script disks clock read settime).2.slots index = _ :=
      handleTimer_slots script disks clock regular
    refine ⟨?_, ?_, ?_⟩
    · obtain ⟨timer, same⟩ :=
        handleTimer_eq script disks clock regular settime
      rw [same]
      exact expireAll_slotCount script { disks with timer } _
    · intro index
      rw [slots]
      split
      · exact (expires _).1
      · rfl
    · intro index
      rw [slots]
      split
      · exact (expires _).2
      · rfl
  · cases read with
    | none =>
        simp at regular
    | some error =>
        have fatal : error ≠ .eagain := by simpa using regular
        simp only [handleTimer, Timerfd.read, if_pos fatal]
        exact .refl disks

end DiskLeds

/-- The disks of a system, and what udev has recorded about them. -/
structure BlockSystem where
  sysfs : Sysfs
  udevRecord : UInt32 → UInt32 → Except Errno FileContents

namespace BlockSystem

/-- What `discover` reads in a system. -/
def settings
    (data : ConfigData)
    (productName : List UInt8)
    (system : BlockSystem) : DiscoverySettings where
  mapping := data.diskMapping
  diskSerials := data.diskSerials
  productName
  udevRecord := system.udevRecord

/-- What `discover` returns in a system. -/
def scan
    (data : ConfigData)
    (productName : List UInt8)
    (system : BlockSystem) : Except Errno Discovery :=
  discover (system.settings data productName) (.ok system.sysfs.entries)

end BlockSystem

/-- What the rescan for an event finds, after an earlier system. -/
inductive Found
    (data : ConfigData)
    (productName : List UInt8)
    (uevents : DiskLeds.Uevents) :
    (before after : BlockSystem) → Prop where
  | scanned
      {before system : BlockSystem}
      (scan : uevents.discovery = system.scan data productName) :
      Found data productName uevents before system
  /-- The directory cannot be opened. -/
  | unreadable
      {before : BlockSystem}
      {error : Errno}
      (scan : uevents.discovery = .error error) :
      Found data productName uevents before before

/-- A rescan for an event leaves a table of what the event has found. -/
theorem Found.rescan_reflects
    {data : ConfigData}
    {productName : List UInt8}
    {uevents : DiskLeds.Uevents}
    {before system : BlockSystem}
    (found : Found data productName uevents before system)
    (script : Script)
    {disks : DiskLeds}
    (reflects :
      disks.Reflects (before.settings data productName) before.sysfs) :
    (DiskLeds.rescan script disks uevents.discovery).2.Reflects
      (system.settings data productName) system.sysfs := by
  cases found with
  | scanned scan =>
      rw [scan]
      exact DiskLeds.rescan_reflects script reflects.slotCount
  | unreadable scan =>
      rw [scan]
      exact reflects

/-- The system that some calls have found last. -/
inductive Observed
    (data : ConfigData)
    (productName : List UInt8) :
    (before : BlockSystem) → List AppAction →
      (after : BlockSystem) → Prop where
  | done
      {system : BlockSystem} :
      Observed data productName system [] system
  | kept
      {before after : BlockSystem}
      {action : AppAction}
      {rest : List AppAction}
      (keeps : action.keepsDisks = true)
      (observed : Observed data productName before rest after) :
      Observed data productName before (action :: rest) after
  | event
      {before middle after : BlockSystem}
      {uevents : DiskLeds.Uevents}
      {rest : List AppAction}
      (relevant : (AppAction.uevent uevents).keepsDisks = false)
      (found : Found data productName uevents before middle)
      (observed : Observed data productName middle rest after) :
      Observed data productName before (.uevent uevents :: rest) after

namespace App

section Calls

variable
  {Credit : Type}
  {app : App Credit}

/-- What a call does to the disks and the maps when it keeps the disks. -/
structure KeepsDisks (app after : App Credit) : Prop where
  disks :
    ∀ disks, app.disks = some disks →
      ∃ next, after.disks = some next ∧ DiskLeds.SameDisks disks next
  bpf : after.bpf = app.bpf

theorem KeepsDisks.refl (app : App Credit) : KeepsDisks app app :=
  ⟨fun disks initialized => ⟨disks, initialized, .refl disks⟩, rfl⟩

/-- How the daemon goes on does not matter. -/
theorem KeepsDisks.settle
    {after : App Credit}
    (keeps : KeepsDisks app after)
    (status : Status) :
    KeepsDisks app (after.settle status) := by
  cases status with
  | ok done =>
      exact keeps
  | error error =>
      exact ⟨keeps.disks, keeps.bpf⟩

/-- A callback of the network policy keeps the disks. -/
theorem onNetwork_keepsDisks
    (app : App Credit)
    (callback : NetworkLed Credit → Status × NetworkLed Credit) :
    KeepsDisks app (app.onNetwork callback) := by
  simp only [onNetwork]
  split
  · exact .refl app
  · apply KeepsDisks.settle
    exact
      ⟨fun disks initialized => ⟨disks, initialized, .refl disks⟩, rfl⟩

/-- So does a callback of the disk policy that keeps them by itself. -/
theorem onDisks_keepsDisks
    {callback : DiskLeds → Status × DiskLeds}
    (same :
      ∀ disks, DiskLeds.SameDisks disks (callback disks).2) :
    KeepsDisks app (app.onDisks callback) := by
  simp only [onDisks]
  split
  · exact .refl app
  · rename_i disks initialized
    apply KeepsDisks.settle
    refine ⟨?_, rfl⟩
    intro other isOther
    rw [initialized] at isOther
    cases isOther
    have kept := same { disks with controller := app.controller }
    exact ⟨_, rfl, kept.slotCount, kept.present, kept.dev⟩

variable (script : Script)

/-- An event without a relevant message only returns a status. -/
theorem uevent_of_irrelevant
    (app : App Credit)
    {uevents : DiskLeds.Uevents}
    (keeps : (AppAction.uevent uevents).keepsDisks = true) :
    ∃ status,
      app.uevent script uevents =
        app.onDisks fun disks => (status, disks) := by
  simp only [AppAction.keepsDisks, Bool.or_eq_true, decide_eq_true_eq,
    Bool.not_eq_true'] at keeps
  have handled :
      ∃ status, ∀ disks runtime,
        DiskLeds.handleUevent script disks runtime uevents =
          (some status, disks, runtime) := by
    unfold DiskLeds.handleUevent
    by_cases failed : uevents.recvError ≠ .eagain
    · exact ⟨_, fun _ _ => if_pos failed⟩
    · refine ⟨.ok (), fun _ _ => ?_⟩
      rw [if_neg failed, if_pos (keeps.resolve_left failed)]
  obtain ⟨status, handled⟩ := handled
  refine ⟨status, ?_⟩
  simp only [uevent, onDisks, handled]

/-- Such an event keeps the disks. -/
theorem uevent_keepsDisks
    {uevents : DiskLeds.Uevents}
    (keeps : (AppAction.uevent uevents).keepsDisks = true) :
    KeepsDisks app (app.uevent script uevents) := by
  obtain ⟨status, same⟩ := uevent_of_irrelevant script app keeps
  rw [same]
  exact onDisks_keepsDisks fun disks => DiskLeds.SameDisks.refl disks

variable
  [NatCast Credit] [Add Credit] [Sub Credit] [Div Credit]
  [LE Credit] [DecidableLE Credit]

/-- Every call but a scan and a sync keeps the disks and the maps. -/
theorem call_keepsDisks
    {action : AppAction}
    (keeps : action.keepsDisks = true) :
    KeepsDisks app (app.call script action) := by
  simp only [call]
  split
  · have unchanged := KeepsDisks.refl app
    cases action with
    | disksInit discovery | syncBpf maps fuel =>
        cases keeps
    | networkInit =>
        simp only [handle, networkInit]
        split
        · apply KeepsDisks.settle
          exact ⟨unchanged.disks, rfl⟩
        · exact ⟨unchanged.disks, rfl⟩
    | bpfStart failure | consumed failure =>
        cases failure with
        | none =>
            exact unchanged
        | some error =>
            exact unchanged.settle (.error error)
    | signal result =>
        rcases result with error | (_ | _)
        · exact unchanged.settle (.error error)
        · exact unchanged
        · exact ⟨unchanged.disks, rfl⟩
    | networkTimer read settime =>
        exact
          onNetwork_keepsDisks app fun network =>
            network.handleTimer script read settime
    | render settime =>
        exact
          onNetwork_keepsDisks app fun network =>
            network.render script settime
    | diskTimer clock read settime =>
        exact
          onDisks_keepsDisks fun disks =>
            DiskLeds.handleTimer_sameDisks script clock read settime
    | uevent uevents =>
        exact uevent_keepsDisks script keeps
    | bpfEvent event clock settime =>
        cases event with
        | none =>
            exact unchanged
        | some event =>
            simp only [handle, bpfEvent]
            split
            · exact onNetwork_keepsDisks app _
            · split
              · exact
                  onDisks_keepsDisks fun disks =>
                    DiskLeds.handleActivity_sameDisks script event.ledId
                      clock settime
              · exact unchanged
    | fail error =>
        exact unchanged.settle (.error error)
  · exact .refl app

end Calls

section Follows

variable
  {Credit : Type}
  {script : Script}
  {app : App Credit}
  {data : ConfigData}
  {productName : List UInt8}
  {system : BlockSystem}

/-- The daemon knows the disks of a system. -/
structure Knows
    (data : ConfigData)
    (productName : List UInt8)
    (system : BlockSystem)
    (app : App Credit) : Prop where
  inChassis : app.InChassis (diskLayoutSlotCount productName)
  sound : app.bpf.Sound
  reflects :
    ∃ disks, app.disks = some disks ∧
      disks.Reflects (system.settings data productName) system.sysfs

/-- The daemon knows the disks of a system, and its maps serve them. -/
structure Follows
    (data : ConfigData)
    (productName : List UInt8)
    (system : BlockSystem)
    (app : App Credit) : Prop
    extends Knows data productName system app where
  serves :
    app.bpf.Serves (system.settings data productName) system.sysfs

/-- A call that keeps the disks keeps what is known of them. -/
theorem Knows.of_keepsDisks
    (knows : app.Knows data productName system)
    {after : App Credit}
    (inChassis : after.InChassis (diskLayoutSlotCount productName))
    (keeps : KeepsDisks app after) :
    after.Knows data productName system where
  inChassis := inChassis
  sound := by
    rw [keeps.bpf]
    exact knows.sound
  reflects := by
    obtain ⟨disks, initialized, reflects⟩ := knows.reflects
    obtain ⟨next, isAfter, same⟩ := keeps.disks disks initialized
    exact
      ⟨next, isAfter,
        reflects.of_same same.slotCount same.present same.dev⟩

/-- Neither does it change what the maps serve. -/
theorem Follows.of_keepsDisks
    (follows : app.Follows data productName system)
    {after : App Credit}
    (inChassis : after.InChassis (diskLayoutSlotCount productName))
    (keeps : KeepsDisks app after) :
    after.Follows data productName system where
  toKnows := follows.toKnows.of_keepsDisks inChassis keeps
  serves := by
    rw [keeps.bpf]
    exact follows.serves

/-- `disk_leds_init` learns what its scan finds, if the daemon goes on. -/
theorem disksInit_knows
    (inChassis : app.InChassis (diskLayoutSlotCount productName))
    (named : app.productName = productName)
    (sound : app.bpf.Sound)
    (running :
      (app.disksInit script (system.scan data productName)).progress =
        .running) :
    (app.disksInit script (system.scan data productName)).Knows data
      productName system := by
  have after :=
    (disksInit_keeps script inChassis
      (system.scan data productName)).inChassis
  have reflects :
      (DiskLeds.init script app.controller app.config app.productName
        (system.scan data productName)).2.Reflects
          (system.settings data productName) system.sysfs :=
    DiskLeds.rescan_reflects script
      (congrArg diskLayoutSlotCount named)
  simp only [App.disksInit] at after running ⊢
  generalize
    DiskLeds.init script app.controller app.config app.productName
      (system.scan data productName) = result
      at after running reflects ⊢
  rcases result with ⟨error | done, disks⟩
  · cases running
  · exact ⟨after, sound, disks, rfl, reflects⟩

/-- `disk_leds_sync_bpf` makes the maps serve what is known. -/
theorem Knows.syncBpf
    (knows : app.Knows data productName system)
    {maps : MapScript}
    {fuel : Nat}
    (running : (app.syncBpf maps fuel).progress = .running) :
    (app.syncBpf maps fuel).Follows data productName system := by
  obtain ⟨disks, initialized, reflects⟩ := knows.reflects
  have table := knows.inChassis.table
  have wellFormed := (table disks initialized).1
  rw [initialized] at table
  simp only [App.syncBpf, initialized] at running ⊢
  cases ends : disks.syncBpf maps fuel app.bpf with
  | none =>
      rw [ends] at running
      cases running
  | some result =>
      rw [ends] at running
      obtain ⟨sound, mirrors⟩ :=
        DiskLeds.mirrors_of_syncBpf reflects.distinctDevs knows.sound
          ends
      rcases result with ⟨error | done, bpf⟩
      · cases running
      · exact
          { inChassis := ⟨knows.inChassis.chassis, table⟩
            sound
            reflects := ⟨disks, rfl, reflects⟩
            serves :=
              (mirrors rfl).serves reflects wellFormed.identified }

/-- The state between the rescan and the sync of an event. -/
def rescanned
    (script : Script)
    (app : App Credit)
    (disks : DiskLeds)
    (discovery : Except Errno Discovery) : App Credit :=
  let (_, disks) :=
    DiskLeds.rescan script { disks with controller := app.controller }
      discovery
  { app with
    disks := some disks
    controller := disks.controller }

/-- A relevant event rescans, and then synchronises the maps. -/
theorem uevent_of_relevant
    (script : Script)
    {disks : DiskLeds}
    (initialized : app.disks = some disks)
    {uevents : DiskLeds.Uevents}
    (relevant : (AppAction.uevent uevents).keepsDisks = false) :
    app.uevent script uevents =
      (app.rescanned script disks uevents.discovery).syncBpf
        uevents.maps uevents.fuel := by
  simp only [AppAction.keepsDisks, Bool.or_eq_false_iff,
    decide_eq_false_iff_not, ne_eq, not_not, Bool.not_eq_false']
    at relevant
  obtain ⟨drained, relevant⟩ := relevant
  have handled :
      DiskLeds.handleUevent script
          { disks with controller := app.controller } app.bpf uevents =
        DiskLeds.rescanAndSync script
          { disks with controller := app.controller } app.bpf uevents := by
    rw [DiskLeds.handleUevent_eq_drain, DiskLeds.drain_eq, if_pos drained,
      Bool.false_or, relevant]
  simp only [App.uevent, initialized, handled, DiskLeds.rescanAndSync,
    App.rescanned, App.syncBpf]
  generalize
    (DiskLeds.rescan script { disks with controller := app.controller }
      uevents.discovery).2 = rescanned
  cases rescanned.syncBpf uevents.maps uevents.fuel app.bpf <;> rfl

/-- Between the rescan and the sync, the daemon knows what was found. -/
theorem Knows.rescanned
    {before : BlockSystem}
    (knows : app.Knows data productName before)
    {disks : DiskLeds}
    (initialized : app.disks = some disks)
    {uevents : DiskLeds.Uevents}
    (found : Found data productName uevents before system) :
    (app.rescanned script disks uevents.discovery).Knows data productName
      system := by
  obtain ⟨wellFormed, sameCount⟩ :=
    knows.inChassis.table disks initialized
  obtain ⟨stillFormed, stillCounted, -⟩ :=
    DiskLeds.rescan_stays script
      (show ({ disks with controller := app.controller } :
        DiskLeds).WellFormed from
          ⟨wellFormed.identified, wellFormed.occupied⟩)
      uevents.discovery
  obtain ⟨same, isSame, known⟩ := knows.reflects
  rw [initialized] at isSame
  cases isSame
  refine ⟨⟨knows.inChassis.chassis, ?_⟩, knows.sound, _, rfl, ?_⟩
  · intro after isAfter
    cases isAfter
    exact ⟨stillFormed, stillCounted.trans sameCount⟩
  · exact
      found.rescan_reflects script
        (known.of_same rfl (fun _ => rfl) fun _ => rfl)

/-- A relevant event makes table and maps follow what it has found. -/
theorem Knows.uevent
    {before : BlockSystem}
    (knows : app.Knows data productName before)
    {uevents : DiskLeds.Uevents}
    (relevant : (AppAction.uevent uevents).keepsDisks = false)
    (found : Found data productName uevents before system)
    (running : (app.uevent script uevents).progress = .running) :
    (app.uevent script uevents).Follows data productName system := by
  obtain ⟨disks, initialized, -⟩ := knows.reflects
  rw [uevent_of_relevant script initialized relevant] at running ⊢
  exact (knows.rescanned initialized found).syncBpf running

end Follows

section Running

variable
  {Credit : Type}
  {app : App Credit}

/-- The daemon goes on. -/
def isRunning (app : App Credit) : Bool :=
  match app.progress with
  | .running =>
      true
  | _ =>
      false

/-- A daemon is running if its progress says so. -/
theorem isRunning_eq_true :
    app.isRunning = true ↔ app.progress = .running := by
  unfold isRunning
  cases app.progress <;> simp

end Running

section Run

variable
  {Credit : Type}
  [NatCast Credit] [Add Credit] [Sub Credit] [Div Credit]
  [LE Credit] [DecidableLE Credit]
  (script : Script)
  {app : App Credit}
  {data : ConfigData}
  {productName : List UInt8}

/-- A daemon that is still running has been running all the time. -/
theorem running_of_run
    {actions : List AppAction}
    (running : (run script app actions).progress = .running) :
    app.progress = .running := by
  induction actions generalizing app with
  | nil =>
      exact running
  | cons action rest inductionHypothesis =>
      have next : (app.call script action).progress = .running :=
        inductionHypothesis running
      simp only [call] at next
      split at next
      · assumption
      · exact next

/-- While the daemon runs, a call is made. -/
theorem call_of_running
    (running : app.progress = .running)
    (action : AppAction) :
    app.call script action = app.handle script action := by
  simp only [call, running]

/-- From a system that it follows, the daemon follows what the events find. -/
theorem Follows.run
    {before system : BlockSystem}
    (follows : app.Follows data productName before)
    {actions : List AppAction}
    (observed : Observed data productName before actions system)
    (running : (run script app actions).progress = .running) :
    (App.run script app actions).Follows data productName system := by
  induction observed generalizing app with
  | done =>
      exact follows
  | kept keeps observed inductionHypothesis =>
      refine inductionHypothesis ?_ running
      exact
        follows.of_keepsDisks
          (call_keeps script follows.inChassis _).inChassis
          (call_keepsDisks script keeps)
  | event relevant found observed inductionHypothesis =>
      rename_i uevents rest
      have called :=
        call_of_running script (running_of_run script running)
          (.uevent uevents)
      have later :
          (App.run script (app.call script (.uevent uevents))
            rest).progress = .running :=
        running
      have ran := running_of_run script later
      refine inductionHypothesis ?_ running
      rw [called] at ran ⊢
      exact follows.toKnows.uevent relevant found ran

omit
  [NatCast Credit] [Add Credit] [Sub Credit] [Div Credit]
  [LE Credit] [DecidableLE Credit] in
/-- What the daemon starts with. -/
theorem start_firmware
    (controller : LedController)
    (accepted : data.Accepted)
    (productName : List UInt8)
    (bpf : BpfRuntime) :
    (start script controller accepted productName bpf :
        App Credit).productName = productName ∧
      (start script controller accepted productName bpf :
        App Credit).bpf = bpf := by
  simp only [start]
  cases (applyPower script controller data).1 <;> exact ⟨rfl, rfl⟩

/-- Calls that keep the disks do so one after the other. -/
theorem Knows.run
    {system : BlockSystem}
    (knows : app.Knows data productName system)
    {actions : List AppAction}
    (keeps : ∀ action ∈ actions, action.keepsDisks = true) :
    (App.run script app actions).Knows data productName system := by
  induction actions generalizing app with
  | nil =>
      exact knows
  | cons action rest inductionHypothesis =>
      have kept := keeps action (List.mem_cons_self ..)
      refine inductionHypothesis ?_ fun later member =>
        keeps later (List.mem_cons_of_mem _ member)
      exact
        knows.of_keepsDisks
          (call_keeps script knows.inChassis action).inChassis
          (call_keepsDisks script kept)

/-- Starting up makes the daemon follow the system it has booted in. -/
theorem startUp_follows
    {system : BlockSystem}
    {startUp : StartUp}
    (enabled : data.disksEnabled = true)
    (scan : startUp.discovery = system.scan data productName)
    (inChassis : app.InChassis (diskLayoutSlotCount productName))
    (named : app.productName = productName)
    (sound : app.bpf.Sound)
    (running :
      (App.run script app (startUp.actions data)).progress =
        .running) :
    (App.run script app (startUp.actions data)).Follows data productName
      system := by
  let middle : List AppAction :=
    (if data.networkEnabled then [.networkInit] else []) ++
      [.bpfStart startUp.bpfStart]
  have actions :
      startUp.actions data =
        .disksInit startUp.discovery ::
          (middle ++ [.syncBpf startUp.maps startUp.fuel]) := by
    simp [StartUp.actions, enabled, middle]
  have keeps : ∀ action ∈ middle, action.keepsDisks = true := by
    intro action member
    simp only [middle, List.mem_append, List.mem_ite_nil_right,
      List.mem_singleton] at member
    rcases member with ⟨-, rfl⟩ | rfl <;> rfl
  have steps :
      App.run script app (startUp.actions data) =
        App.call script
          (App.run script
            (app.call script (.disksInit startUp.discovery)) middle)
          (.syncBpf startUp.maps startUp.fuel) := by
    rw [actions, ← run_concat]
    rfl
  have first := call_of_running script (running_of_run script running)
    (.disksInit startUp.discovery)
  rw [steps] at running ⊢
  have filled :=
    @running_of_run Credit _ _ _ _ _ _ script _
      [.syncBpf startUp.maps startUp.fuel] running
  have scanned := running_of_run script filled
  rw [first, handle, scan] at scanned
  have knows :=
    Knows.run script
      (disksInit_knows inChassis named sound scanned) keeps
  rw [first, handle, scan] at running filled ⊢
  rw [call_of_running script filled, handle] at running ⊢
  exact knows.syncBpf running

/-- No map has an entry yet. -/
theorem started_sound :
    (BpfRuntime.started fun _ => ∅).Sound where
  tracked := by
    intro dev targeted
    exact absurd targeted (AList.notMem_empty dev)
  history := by
    intro maps member
    cases member
  attempts := by
    intro size member
    cases member

/--
In every run of the daemon that is still going on, the slot table and the maps of
the tracepoint program follow the disks of the system: those that were there at
the start, and after each relevant event those that its scan has found.
-/
theorem follows_of_run
    (controller : LedController)
    (accepted : data.Accepted)
    (enabled : data.disksEnabled = true)
    {booted system : BlockSystem}
    {startUp : StartUp}
    (scan : startUp.discovery = booted.scan data productName)
    {actions : List AppAction}
    (observed : Observed data productName booted actions system)
    (running :
      (App.run script
        (start script controller accepted productName
          (.started fun _ => ∅) : App Credit)
        (startUp.actions data ++ actions)).progress = .running) :
    (App.run script
      (start script controller accepted productName
        (.started fun _ => ∅) : App Credit)
      (startUp.actions data ++ actions)).Follows data productName
        system := by
  obtain ⟨named, bpf⟩ :=
    @start_firmware Credit script data controller accepted productName
      (.started fun _ => ∅)
  have sound :
      (start script controller accepted productName
        (.started fun _ => ∅) : App Credit).bpf.Sound := by
    rw [bpf]
    exact started_sound
  have parts :
      ∀ app : App Credit,
        App.run script app (startUp.actions data ++ actions) =
          App.run script (App.run script app (startUp.actions data))
            actions :=
    fun _ => List.foldl_append
  rw [parts] at running ⊢
  have follows :=
    startUp_follows script enabled scan
      (start_inChassis script controller accepted productName _) named
      sound (running_of_run script running)
  exact follows.run script observed running

/-- Disks are found by their SCSI address. -/
def hctlData : ConfigData :=
  { ConfigData.defaults with diskMapping := .hctl }

/-- The disk `sda` behind the first SCSI host. -/
def firstDisk : BlockDevice where
  name := ascii "sda"
  visible := by decide
  major := 8
  minor := 0
  deviceLink := some (ascii "/sys/devices/ata1/host0/0:0:0:0")
  blockLink := none

/-- A system without disks. -/
def diskless : BlockSystem where
  sysfs := ⟨[], List.nodup_nil⟩
  udevRecord := fun _ _ => .error .enoent

/-- A system with one disk and one partition. -/
def plugged : BlockSystem where
  sysfs :=
    ⟨[.disk firstDisk,
        .other
          { firstDisk.entry with
            name := ascii "sda1"
            isPartition := true }
          (Or.inr rfl)],
      List.nodup_singleton _⟩
  udevRecord := fun _ _ => .error .enoent

/-- The event that reports the disk. -/
def plugging : DiskLeds.Uevents where
  messages :=
    [ascii "add@/block/sda" ++ [0] ++ ascii "ACTION=add" ++ [0] ++
      ascii "SUBSYSTEM=block" ++ [0]]
  recvError := .eagain
  discovery := plugged.scan hctlData (ascii "DXP2800")
  maps := DiskLeds.quietMaps
  fuel := 9

/-- These settings are accepted. -/
theorem hctlData_accepted : hctlData.Accepted where
  inRange := { ConfigData.defaults_inRange with }
  diskPulse_lt := by decide
  enabled := Or.inl rfl

/-- A daemon that starts without disks follows the first that is plugged in. -/
theorem follows_of_plugging :
    (App.run (fun _ _ _ => .accepted)
      (start (fun _ _ _ => .accepted)
        (.initial fun _ => ⟨0, 0, ⟨0, 0, 0⟩, 0, 0⟩) hctlData_accepted
        (ascii "DXP2800") (.started fun _ => ∅) : App ℚ)
      (StartUp.actions
          ⟨diskless.scan hctlData (ascii "DXP2800"), none,
            DiskLeds.quietMaps, 9⟩ hctlData ++
        [.uevent plugging])).Follows hctlData (ascii "DXP2800")
          plugged :=
  follows_of_run _ _ hctlData_accepted rfl rfl
    (.event (by decide) (.scanned rfl) .done)
    (isRunning_eq_true.mp (by decide +kernel))

end Run

end App

end UgreenLeds
