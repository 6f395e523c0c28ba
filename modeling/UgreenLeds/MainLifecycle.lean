import UgreenLeds.MainAccounts

/-!
# What main leaves behind

However `main` ends, it gives back each file descriptor it has opened once, and
the BPF programs with it; only the descriptors of a failed disk scan stay open.
The LEDs are left at rest if the power LED could be programmed.
-/

namespace UgreenLeds

open Holdings (Handles Leads)

/-- A start either leaves nothing behind or holds what it has acquired. -/
theorem bpfRuntimeStart_outcome
    (script : BpfScript)
    (config : ConfigData)
    (world : BpfWorld) :
    (∃ error after,
      bpfRuntimeStart script config world = (.error error, after) ∧
        NothingLeft script config world.kernel after) ∨
    ∃ started,
      bpfRuntimeStart script config world = (.ok (), started) ∧
        Acquired world.kernel
          (script.nameToIndex (CString.content config.interface))
          started := by
  have leads := @startObject_leads world.kernel script config
  unfold bpfRuntimeStart
  cases script.openFails with
  | some errno =>
      exact
        Or.inl ⟨_, _, rfl, nothingLeft_unopened script config world.kernel⟩
  | none =>
      generalize result :
        Holdings.cleaningUp (bpfRuntimeStop script.detachFails)
          (startObject script config) (openObject config world.kernel) =
          started
      rcases started with ⟨error | ⟨⟩, after⟩
      · obtain ⟨middle, held, rfl⟩ :=
          leads.cleaned (openObject_acquired config world.kernel)
            (openObject_prepared config world.kernel) result
        exact Or.inl ⟨error, _, rfl, held.nothingLeft⟩
      · have completed :=
          leads.completed (openObject_acquired config world.kernel)
            (openObject_prepared config world.kernel) result
        exact Or.inr ⟨after, rfl, completed.1⟩

section Serve

variable
  {Credit : Type}
  [NatCast Credit] [Add Credit] [Sub Credit] [Div Credit]
  [LE Credit] [DecidableLE Credit]
  {script : MainScript}
  {leds : Script}
  {data : ConfigData}
  {slotCount : Nat}
  {escape : Prop}
  {before process : Process Credit}

/-- A failure changes nothing but how the daemon goes on. -/
theorem Served.settle
    (served : Served script leds data slotCount escape before process)
    (status : Status) :
    Served script leds data slotCount escape before
      { process with app := process.app.settle status } :=
  ⟨served.accounted.settle status, served.lit.settle status⟩

/-- A call keeps what is held if it does not set up a policy again. -/
theorem Served.call
    (served : Served script leds data slotCount escape before process)
    (action : AppAction)
    (freshDisks :
      action.isDisksInit = true → process.app.disks = none)
    (freshNetwork :
      action.isNetworkInit = true → process.app.network = none) :
    Served script leds data slotCount escape before
      { process with app := process.app.call leds action } :=
  ⟨served.accounted.withApp (App.call_grows process.app leds action),
    served.lit.call action freshDisks freshNetwork⟩

/-- Calls on policies that are set up keep what is held. -/
theorem Served.run
    (served : Served script leds data slotCount escape before process)
    (actions : List AppAction)
    (setUpNothing :
      ∀ action ∈ actions,
        action.isDisksInit = false ∧ action.isNetworkInit = false) :
    Served script leds data slotCount escape before
      { process with app := process.app.run leds actions } := by
  induction actions generalizing process with
  | nil =>
      exact served
  | cons action rest inductionHypothesis =>
      obtain ⟨noDisks, noNetwork⟩ :=
        setUpNothing action List.mem_cons_self
      have called :=
        served.call action (by simp [noDisks]) (by simp [noNetwork])
      exact
        inductionHypothesis called fun other member =>
          setUpNothing other (List.mem_cons_of_mem action member)

variable (script leds)

/-- The timer and the socket of `disk_leds_init` can be opened. -/
def MainScript.OpensDisks (script : MainScript) : Prop :=
  script.diskTimerFails = none ∧ script.socketFails = none ∧
    script.bindFails = none

/-- `disk_leds_init` opens its descriptors, and then its scan fails. -/
def ScanEscapes
    (data : ConfigData)
    (before : Process Credit) : Prop :=
  data.disksEnabled = true ∧ script.OpensDisks ∧
    (DiskLeds.init leds
      (App.applyPower leds before.app.controller data).2
      before.app.config before.app.productName
      script.discovery).1 ≠ .ok ()

/--
Before `disk_leds_init` scans, it gives back what it has opened if it fails, and
else both its descriptors are open.
-/
theorem initDisks_outcome
    (noTimer : process.files.number .diskTimer = none)
    (noSocket : process.files.number .uevent = none) :
    (∃ error files,
      ¬ script.OpensDisks ∧
        initDisks script leds process =
          (.error (.failed error),
            { process with
              files
              app := process.app.settle (.error error) }) ∧
        files.number = process.files.number ∧
        ∀ before, Handles.Ledger before process.files →
          Handles.Ledger before files) ∨
    script.OpensDisks ∧
      initDisks script leds process =
        policyCall leds (.disksInit script.discovery)
          { process with
            files :=
              (process.files.acquire .diskTimer).acquire .uevent } := by
  have noSocketStill :
      (process.files.acquire .diskTimer).number .uevent = none :=
    (Handles.acquire_number_of_ne _ (by decide)).trans noSocket
  simp only [initDisks, openUeventSocket, Holdings.sequence, systemCall,
    openFile, Holdings.cleaningUp, closeFile]
  cases timer : script.diskTimerFails with
  | some error =>
      refine Or.inl ⟨error, process.files, ?_, rfl, rfl, ?_⟩
      · simp [MainScript.OpensDisks, timer]
      · exact fun _ ledger => ledger
  | none =>
      cases socket : script.socketFails with
      | some error =>
          refine Or.inl ⟨error, _, ?_, rfl, ?_, ?_⟩
          · simp [MainScript.OpensDisks, socket]
          · exact Handles.giveBack_acquire_number _ noTimer
          · exact fun _ ledger => (ledger.acquire noTimer).giveBack _
      | none =>
          cases bind : script.bindFails with
          | some error =>
              refine Or.inl ⟨error, _, ?_, rfl, ?_, ?_⟩
              · simp [MainScript.OpensDisks, bind]
              · rw [Handles.giveBack_number,
                  Handles.giveBack_acquire_number _ noSocketStill,
                  ← Handles.giveBack_number,
                  Handles.giveBack_acquire_number _ noTimer]
              · exact fun _ ledger =>
                  (((ledger.acquire noTimer).acquire
                    noSocketStill).giveBack .uevent).giveBack .diskTimer
          | none =>
              exact
                Or.inr
                  ⟨⟨timer, socket, bind⟩,
                    congrFun (Holdings.sequence_singleton _) _⟩

/-- A scan that does not fail sets up the disk policy. -/
theorem disksInit_succeeds
    {app : App Credit}
    (running : app.progress = .running)
    {discovery : Except Errno Discovery}
    (init :
      (DiskLeds.init leds app.controller app.config app.productName
        discovery).1 = .ok ()) :
    let after := app.call leds (.disksInit discovery)
    after.disks.isSome ∧ after.progress = .running ∧
      after.network = app.network := by
  intro after
  revert after
  simp only [App.call, running, App.handle, App.disksInit]
  generalize DiskLeds.init leds _ _ _ _ = result at init ⊢
  rcases result with ⟨error | ⟨⟩, disks⟩
  · cases init
  · exact ⟨rfl, rfl, rfl⟩

/-- A scan that fails ends the daemon. -/
theorem disksInit_fails
    {app : App Credit}
    (running : app.progress = .running)
    {discovery : Except Errno Discovery}
    (init :
      (DiskLeds.init leds app.controller app.config app.productName
        discovery).1 ≠ .ok ()) :
    let after := app.call leds (.disksInit discovery)
    (∃ error, after.progress = .ending (.error error)) ∧
      after.disks = app.disks := by
  intro after
  revert after
  simp only [App.call, running, App.handle, App.disksInit]
  generalize DiskLeds.init leds _ _ _ _ = result at init ⊢
  rcases result with ⟨error | ⟨⟩, disks⟩
  · exact ⟨⟨error, rfl⟩, rfl⟩
  · exact absurd rfl init

variable {script leds}

/-- With both its descriptors open, `disk_leds_init` scans the bays. -/
theorem Served.scan
    (served :
      Served script leds data slotCount
        (ScanEscapes script leds data before) before process)
    (waiting :
      Waiting leds data before
        [.networkTimer, .diskTimer, .uevent] process)
    (enabled : data.disksEnabled = true)
    (opens : script.OpensDisks) :
    let app := process.app.call leds (.disksInit script.discovery)
    let after : Process Credit :=
      { process with
        files := (process.files.acquire .diskTimer).acquire .uevent
        app }
    Served script leds data slotCount
        (ScanEscapes script leds data before) before after ∧
      (outcome app.progress = .ok () →
        Waiting leds data before [.networkTimer] after) := by
  intro app after
  have noTimer := waiting.number .diskTimer (by simp)
  have noSocket :
      (process.files.acquire .diskTimer).number .uevent = none :=
    (Handles.acquire_number_of_ne _ (by decide)).trans
      (waiting.number .uevent (by simp))
  have called :=
    served.call (.disksInit script.discovery)
      (fun _ => waiting.disks (by simp))
      (fun other => by cases other)
  have networkNumber :
      after.files.number .networkTimer =
        process.files.number .networkTimer :=
    (Handles.acquire_number_of_ne _ (by decide)).trans
      (Handles.acquire_number_of_ne _ (by decide))
  have sameConfig := served.accounted.config
  have sameName := served.accounted.productName
  have sameController := waiting.controller (by simp)
  refine ⟨⟨?_, called.lit⟩, ?_⟩
  · exact
      { called.accounted with
        files :=
          (served.accounted.files.acquire noTimer).acquire noSocket
        network := fun isHeld =>
          called.accounted.network (networkNumber ▸ isHeld)
        disks := by
          intro descriptor _ _
          by_cases init :
              (DiskLeds.init leds process.app.controller
                process.app.config process.app.productName
                script.discovery).1 = .ok ()
          · exact
              Or.inl (disksInit_succeeds leds waiting.running init).1
          · rw [sameConfig, sameName, sameController] at init
            exact Or.inr ⟨enabled, opens, init⟩ }
  · intro succeeded
    by_cases init :
        (DiskLeds.init leds process.app.controller
          process.app.config process.app.productName
          script.discovery).1 = .ok ()
    · obtain ⟨-, running, network⟩ :=
        disksInit_succeeds leds waiting.running init
      exact
        { running
          network := fun _ => network.trans (waiting.network (by simp))
          disks := fun member => by simp at member
          controller := fun member => by simp at member
          bpf := waiting.bpf
          bpfStarted := waiting.bpfStarted
          number := by
            intro descriptor member
            rw [List.mem_singleton.mp member, networkNumber]
            exact waiting.number .networkTimer (by simp) }
    · obtain ⟨⟨error, failed⟩, -⟩ :=
        disksInit_fails leds waiting.running init
      rw [show app.progress = .ending (.error error) from failed]
        at succeeded
      cases succeeded

variable (script leds slotCount before)

/-- `disk_leds_init` keeps what is held. -/
theorem initDisks_leads (enabled : data.disksEnabled = true) :
    Leads (Served script leds data slotCount
        (ScanEscapes script leds data before) before)
      (Waiting leds data before [.networkTimer, .diskTimer, .uevent])
      (Waiting leds data before [.networkTimer])
      (initDisks script leds) := by
  constructor
  · intro process served waiting
    rcases
      initDisks_outcome script leds
        (waiting.number .diskTimer (by simp))
        (waiting.number .uevent (by simp)) with
      ⟨error, files, -, failed, sameNumber, ledger⟩ | ⟨opens, opened⟩
    · rw [failed]
      have settled := served.settle (.error error)
      exact
        ⟨settled.accounted.withFiles (ledger _ served.accounted.files)
            fun descriptor isHeld => sameNumber ▸ isHeld,
          settled.lit⟩
    · rw [opened]
      exact (served.scan waiting enabled opens).1
  · intro process served waiting succeeded
    rcases
      initDisks_outcome script leds
        (waiting.number .diskTimer (by simp))
        (waiting.number .uevent (by simp)) with
      ⟨error, files, -, failed, -, -⟩ | ⟨opens, opened⟩
    · rw [failed] at succeeded
      cases succeeded
    · rw [opened] at succeeded ⊢
      exact (served.scan waiting enabled opens).2 succeeded

/-- The network policy is set up, or the daemon ends. -/
theorem networkInit_outcome
    {app : App Credit}
    (running : app.progress = .running) :
    let after := app.call leds .networkInit
    (after.network.isSome ∧ after.progress = .running) ∨
      ∃ error, after.progress = .ending (.error error) := by
  intro after
  revert after
  simp only [App.call, running, App.handle, App.networkInit]
  generalize
    (NetworkLed.init leds app.controller app.config :
      Status × NetworkLed Credit) = result
  rcases result with ⟨error | ⟨⟩, network⟩
  · exact Or.inr ⟨error, rfl⟩
  · exact Or.inl ⟨rfl, rfl⟩

variable {script leds slotCount before}

/-- A network policy that is set up has its timer. -/
theorem Served.openNetworkTimer
    (served : Served script leds data slotCount escape before process)
    (empty : process.files.number .networkTimer = none)
    (setUp : process.app.network.isSome) :
    Served script leds data slotCount escape before
      { process with files := process.files.acquire .networkTimer } where
  accounted :=
    { served.accounted with
      files := served.accounted.files.acquire empty
      network := fun _ => setUp
      disks := by
        intro descriptor isDisk isHeld
        have different : descriptor ≠ .networkTimer := by
          rcases isDisk with rfl | rfl <;> decide
        rw [Handles.acquire_number_of_ne _ different] at isHeld
        exact served.accounted.disks descriptor isDisk isHeld }
  lit := served.lit

variable (script leds data slotCount escape before)

/-- `network_led_init` keeps what is held. -/
theorem initNetwork_leads :
    Leads (Served script leds data slotCount escape before)
      (Waiting leds data before [.networkTimer]) (Waiting leds data before [])
      (initNetwork script leds) := by
  have called :
      ∀ process,
        Served script leds data slotCount escape before process →
        Waiting leds data before [.networkTimer] process →
        Served script leds data slotCount escape before
          { process with app := process.app.call leds .networkInit } :=
    fun process served waiting =>
      served.call .networkInit (fun other => by cases other)
        fun _ => waiting.network (by simp)
  have opens :
      ∀ process : Process Credit,
        script.networkTimerFails = none →
        initNetwork script leds process =
          Holdings.cleaningUp (closeFile .networkTimer)
            (policyCall leds .networkInit)
            { process with
              files := process.files.acquire .networkTimer } := by
    intro process timerOpens
    simp only [initNetwork, timerOpens]
    exact congrFun (Holdings.sequence_singleton _) _
  constructor
  · intro process served waiting
    cases timerFails : script.networkTimerFails with
    | some error =>
        simp only [initNetwork, timerFails]
        exact served.settle (.error error)
    | none =>
        rw [opens process timerFails]
        have empty := waiting.number .networkTimer (by simp)
        have networkUp := called process served waiting
        simp only [Holdings.cleaningUp, policyCall]
        rcases networkInit_outcome leds waiting.running with
          ⟨setUp, running⟩ | ⟨error, failed⟩
        · rw [running]
          exact networkUp.openNetworkTimer empty setUp
        · rw [failed]
          refine ⟨networkUp.accounted.withFiles ?_ ?_, networkUp.lit⟩
          · exact
              (served.accounted.files.acquire empty).giveBack
                .networkTimer
          · intro descriptor isHeld
            rwa [Handles.giveBack_acquire_number _ empty] at isHeld
  · intro process served waiting succeeded
    cases timerFails : script.networkTimerFails with
    | some error =>
        simp only [initNetwork, timerFails] at succeeded
        cases succeeded
    | none =>
        rw [opens process timerFails] at succeeded ⊢
        simp only [Holdings.cleaningUp, policyCall] at succeeded ⊢
        rcases networkInit_outcome leds waiting.running with
          ⟨setUp, running⟩ | ⟨error, failed⟩
        · rw [running]
          exact
            { running
              network := fun member => by cases member
              disks := fun member => by cases member
              controller := fun member => by cases member
              bpf := waiting.bpf
              bpfStarted := waiting.bpfStarted
              number := fun _ member => by cases member }
        · rw [failed] at succeeded
          cases succeeded

/-- `bpf_runtime_start` leaves nothing behind if it fails. -/
theorem startBpf_leads :
    Leads (Served script leds data slotCount escape before)
      (Waiting leds data before [])
      (fun process => process.app.Unsignalled)
      (startBpf script data) := by
  constructor
  · intro process served waiting
    have notStarted := waiting.bpfStarted
    simp only [startBpf]
    rcases bpfRuntimeStart_outcome script.bpf data process.bpf with
      ⟨error, after, failed, nothingLeft⟩ |
        ⟨started, succeeded, acquired⟩
    · rw [waiting.bpf] at nothingLeft
      rw [failed]
      have settled := served.settle (.error error)
      refine ⟨{ settled.accounted with bpf := ?_ }, settled.lit⟩
      simpa [systemCall, notStarted] using nothingLeft
    · rw [waiting.bpf] at acquired
      rw [succeeded]
      refine ⟨{ served.accounted with bpf := ?_ }, served.lit⟩
      simpa using acquired
  · intro process _ waiting succeeded
    simp only [startBpf] at succeeded ⊢
    generalize bpfRuntimeStart script.bpf data process.bpf = result
      at succeeded ⊢
    rcases result with ⟨error | ⟨⟩, bpf⟩
    · cases succeeded
    · exact waiting.unsignalled

/-- `disk_leds_sync_bpf` sets up no policy, and consumes no signal. -/
theorem syncBpf_leads :
    Leads (Served script leds data slotCount escape before)
      (fun process => process.app.Unsignalled)
      (fun process => process.app.Unsignalled)
      (policyCall leds (.syncBpf script.maps script.fuel)) where
  keeps := fun _ served _ =>
    served.call (.syncBpf script.maps script.fuel)
      (fun other => by cases other) (fun other => by cases other)
  reaches := fun _ _ unsignalled _ =>
    unsignalled.call leds fun other => by cases other

/-- A signal that `poll` has reported has ended the event loop. -/
def MainScript.Signalled
    (script : MainScript)
    (app : App Credit) : Prop :=
  app.progress = .ending (.ok ()) ∧
    ∃ ready,
      .returned ready ∈ script.polls ∧ ready.signal = some (.ok true)

/-- The event loop ends without an error when a signal has come. -/
theorem runEventLoop_leads :
    Leads (Served script leds data slotCount escape before)
      (fun process => process.app.Unsignalled)
      (fun process => script.Signalled process.app)
      (runEventLoop script leds) := by
  constructor
  · intro process served _
    exact
      served.run _ fun action member =>
        App.polls_setUpNothing script.polls member
  · intro process _ unsignalled succeeded
    have ended :
        (process.app.run leds
            (script.polls.flatMap App.Poll.actions)).progress =
          .ending (.ok ()) := by
      simp only [runEventLoop] at succeeded
      split at succeeded
      · assumption
      · cases succeeded
      · cases succeeded
    exact ⟨ended, App.polls_signal (unsignalled.run leds ended)⟩

/-- The steps with the policies keep what is held. -/
theorem serve_leads :
    Leads
      (Served script leds data slotCount
        (ScanEscapes script leds data before) before)
      (Waiting leds data before [.networkTimer, .diskTimer, .uevent])
      (fun process => script.Signalled process.app)
      (serve script leds data) := by
  have disks :
      Leads
        (Served script leds data slotCount
          (ScanEscapes script leds data before) before)
        (Waiting leds data before [.networkTimer, .diskTimer, .uevent])
        (Waiting leds data before [.networkTimer])
        (Holdings.whenever data.disksEnabled
          (initDisks script leds)) := by
    by_cases enabled : data.disksEnabled = true
    · exact
        (initDisks_leads script leds slotCount before enabled).whenever
          fun _ waiting => waiting.mono (by simp)
    · refine Leads.congr
        (.nil fun _ waiting => waiting.mono (by simp)) fun process => ?_
      exact if_neg enabled
  have programs :
      Leads
        (Served script leds data slotCount
          (ScanEscapes script leds data before) before)
        (Waiting leds data before [])
        (fun process => process.app.Unsignalled)
        (Holdings.sequence
          [startBpf script data,
            policyCall leds (.syncBpf script.maps script.fuel)]) :=
    .cons (startBpf_leads script leds data slotCount _ before)
      (.cons (syncBpf_leads script leds data slotCount _ before)
        (.nil fun _ called => called))
  refine .cons disks ?_
  refine .cons
    ((initNetwork_leads script leds data slotCount _ before).whenever
      fun _ waiting => waiting.mono (by simp)) ?_
  exact
    .cons (programs.whenever fun _ waiting => waiting.unsignalled)
      (.cons (runEventLoop_leads script leds data slotCount _ before)
        (.nil fun _ ended => ended))

/-- A scan that escapes ends `main` with the descriptors in their variables. -/
theorem serve_of_scanEscapes
    (served : Served script leds data slotCount escape before process)
    (waiting :
      Waiting leds data before
        [.networkTimer, .diskTimer, .uevent] process)
    (escapes : ScanEscapes script leds data before) :
    let after := (serve script leds data process).2
    after.app.disks = none ∧
      (∃ timer, after.files.number .diskTimer = some timer) ∧
      ∃ socket, after.files.number .uevent = some socket := by
  obtain ⟨enabled, opens, fails⟩ := escapes
  rw [← served.accounted.config, ← served.accounted.productName,
    ← waiting.controller (by simp)] at fails
  obtain ⟨⟨error, failed⟩, sameDisks⟩ :=
    disksInit_fails leds waiting.running fails
  have noDisks := sameDisks.trans (waiting.disks (by simp))
  have stops :
      initDisks script leds process =
        (.error (.failed error),
          { process with
            files :=
              (process.files.acquire .diskTimer).acquire .uevent
            app :=
              process.app.call leds (.disksInit script.discovery) }) := by
    rcases
      initDisks_outcome script leds
        (waiting.number .diskTimer (by simp))
        (waiting.number .uevent (by simp)) with
      ⟨_, _, closed, -⟩ | ⟨-, opened⟩
    · exact absurd opens closed
    · rw [opened]
      simp only [policyCall, failed, outcome]
  intro after
  have served :
      after = _ :=
    congrArg Prod.snd
      (show serve script leds data process = _ by
        simp only [serve, Holdings.sequence, Holdings.whenever, enabled,
          if_true, stops]
        rfl)
  rw [served]
  refine
    ⟨noDisks, ⟨process.files.arena.next, ?_⟩,
      ⟨_, Handles.acquire_number_self _⟩⟩
  exact
    (Handles.acquire_number_of_ne _ (by decide)).trans
      (Handles.acquire_number_self _)

end Serve

section Cleanup

variable
  {Credit : Type}
  {script : MainScript}
  {leds : Script}
  {data : ConfigData}

/-- Whether the policies are set up, and how the daemon goes on, stays. -/
theorem App.cleanup_setUp (app : App Credit) :
    (app.cleanup leds).network.isSome = app.network.isSome ∧
      (app.cleanup leds).disks.isSome = app.disks.isSome ∧
      (app.cleanup leds).progress = app.progress := by
  rcases app with
    ⟨config, productName, controller, _ | network, _ | disks, bpf,
      progress⟩ <;>
    exact ⟨rfl, rfl, rfl⟩

variable
  {files : Holdings.Arena Descriptor}
  {process : Process Credit}

/-- Closing a policy's descriptor keeps the ledger in order. -/
theorem closeIf_ledger
    (ledger : Handles.Ledger files process.files)
    (initialized : Bool)
    (descriptor : Descriptor) :
    Handles.Ledger files
      (closeIf initialized descriptor process).files := by
  cases initialized with
  | false =>
      exact ledger
  | true =>
      exact ledger.giveBack descriptor

/-- A variable that was empty stays empty. -/
theorem closeIf_number
    (initialized : Bool)
    (closed descriptor : Descriptor) :
    (closeIf initialized closed process).files.number descriptor =
      if initialized = true ∧ descriptor = closed then
        none
      else
        process.files.number descriptor := by
  cases initialized with
  | false =>
      simp [closeIf]
  | true =>
      simp [closeIf, closeFile, Handles.giveBack_number,
        Function.update_apply]

/-- Stopping the BPF programs changes nothing else. -/
theorem stopBpf_rest :
    (stopBpf script process).files = process.files ∧
      (stopBpf script process).app = process.app := by
  unfold stopBpf
  split <;> exact ⟨rfl, rfl⟩

/-- Closing a descriptor changes nothing else. -/
theorem closeIf_rest
    (initialized : Bool)
    (descriptor : Descriptor) :
    (closeIf initialized descriptor process).bpf = process.bpf ∧
      (closeIf initialized descriptor process).app = process.app := by
  cases initialized <;> exact ⟨rfl, rfl⟩

/-- The BPF programs and the policies when `main` has cleaned up. -/
theorem mainCleanup_rest :
    (mainCleanup script leds process).bpf =
        (stopBpf script process).bpf ∧
      (mainCleanup script leds process).app =
        process.app.cleanup leds := by
  simp [mainCleanup, closeFile, closeIf_rest, stopBpf_rest]

/-- The ledger is in order when `main` has cleaned up. -/
theorem mainCleanup_ledger
    (ledger : Handles.Ledger files process.files) :
    Handles.Ledger files
      (mainCleanup script leds process).files := by
  refine Handles.Ledger.giveBack (.giveBack ?_ Descriptor.signal) _
  refine closeIf_ledger (closeIf_ledger (closeIf_ledger ?_ _ _) _ _) _ _
  rw [stopBpf_rest.1]
  exact ledger

/-- What is still in a variable when `main` has cleaned up. -/
theorem mainCleanup_number_eq_some
    {descriptor : Descriptor}
    {number : Nat} :
    (mainCleanup script leds process).files.number descriptor =
        some number ↔
      process.files.number descriptor = some number ∧
        (descriptor = .networkTimer ∧ process.app.network = none ∨
          (descriptor = .diskTimer ∨ descriptor = .uevent) ∧
            process.app.disks = none) := by
  obtain ⟨sameFiles, sameApp⟩ :
      (stopBpf script process).files = process.files ∧
        (stopBpf script process).app = process.app :=
    stopBpf_rest
  obtain ⟨network, disks, -⟩ :
      (process.app.cleanup leds).network.isSome =
          process.app.network.isSome ∧
        (process.app.cleanup leds).disks.isSome =
          process.app.disks.isSome ∧ _ :=
    App.cleanup_setUp process.app
  simp only [mainCleanup, closeFile, Handles.giveBack_number,
    Function.update_apply, closeIf_number, sameFiles, sameApp, network,
    disks]
  cases descriptor <;> cases process.app.network <;>
    cases process.app.disks <;> simp

end Cleanup

section Returns

variable {Credit : Type}

/--
What `main` leaves behind: what was there is there still, each descriptor it has
closed was its own and is closed once, and what it has left open are descriptors
of the disk policy, under a condition.
-/
structure LeavesBehind
    (script : MainScript)
    (data : ConfigData)
    (escape : Prop)
    (before after : Process Credit) : Prop where
  kept :
    ∀ number, before.files.arena.cells number ≠ none →
      after.files.arena.cells number = before.files.arena.cells number
  closedOnce : after.files.returned.Nodup
  closedOwn :
    ∀ number ∈ after.files.returned,
      before.files.arena.cells number = none
  leftOpen :
    ∀ number ∈
        Holdings.created before.files.arena.cells
          after.files.arena.cells,
      escape ∧
        (after.files.arena.cells number = some .diskTimer ∨
          after.files.arena.cells number = some .uevent)
  bpf : NothingLeft script.bpf data before.bpf.kernel after.bpf

variable
  {script : MainScript}
  {leds : Script}
  {data : ConfigData}
  {escape : Prop}
  {before process : Process Credit}

/-- Whoever holds what the accounts say leaves behind no more than they allow. -/
theorem Accounted.leavesBehind
    (accounted : Accounted script data escape before process) :
    LeavesBehind script data escape before
      (mainCleanup script leds process) := by
  have ledger :
      Handles.Ledger before.files.arena
        (mainCleanup script leds process).files :=
    mainCleanup_ledger accounted.files
  refine ⟨fun _ => ledger.keeps, ledger.once, ?_, ?_, ?_⟩
  · exact fun number member =>
      before.files.arena.fresh number (ledger.returned number member).1
  · intro number member
    obtain ⟨descriptor, isHeld⟩ := ledger.mem_created.mp member
    have present := (ledger.held descriptor number isHeld).2
    obtain ⟨wasHeld, ⟨rfl, unset⟩ | ⟨isDisk, unset⟩⟩ :=
      mainCleanup_number_eq_some.mp isHeld
    · have setUp := accounted.network (by rw [wasHeld]; simp)
      rw [unset] at setUp
      cases setUp
    · rcases accounted.disks descriptor isDisk
          (by rw [wasHeld]; simp) with setUp | escapes
      · rw [unset] at setUp
        cases setUp
      · refine ⟨escapes, ?_⟩
        rw [present]
        exact isDisk.imp (congrArg some) (congrArg some)
  · have acquired := accounted.bpf
    rw [mainCleanup_rest.1]
    unfold stopBpf
    split at acquired <;> rename_i started <;> simp only [started]
    · exact acquired.nothingLeft
    · exact acquired

/-- The timer and the socket of the disk policy are open, and were not before. -/
def Process.LeaksDisks
    (process : Process Credit)
    (files : Holdings.Arena Descriptor) : Prop :=
  ∀ descriptor, descriptor = .diskTimer ∨ descriptor = .uevent →
    ∃ number ∈ Holdings.created files.cells process.files.arena.cells,
      process.files.arena.cells number = some descriptor

/-- The cleanup closes nothing of a disk policy that is not set up. -/
theorem mainCleanup_leaks
    {files : Holdings.Arena Descriptor}
    (ledger : Handles.Ledger files process.files)
    (noDisks : process.app.disks = none)
    (held :
      ∀ descriptor, descriptor = .diskTimer ∨ descriptor = .uevent →
        ∃ number, process.files.number descriptor = some number) :
    (mainCleanup script leds process).LeaksDisks files := by
  intro descriptor isDisk
  obtain ⟨number, isHeld⟩ := held descriptor isDisk
  have cleaned :
      Handles.Ledger files (mainCleanup script leds process).files :=
    mainCleanup_ledger ledger
  have stillHeld :
      (mainCleanup script leds process).files.number descriptor =
        some number :=
    mainCleanup_number_eq_some.mpr
      ⟨isHeld, Or.inr ⟨isDisk, noDisks⟩⟩
  exact
    ⟨number, cleaned.mem_created.mpr ⟨descriptor, stillHeld⟩,
      (cleaned.held descriptor number stillHeld).2⟩

variable
  [NatCast Credit] [Add Credit] [Sub Credit] [Div Credit]
  [LE Credit] [DecidableLE Credit]

/-- When `main` returns, it has cleaned up after its steps. -/
theorem main_eq_some
    {exit : ExitStatus}
    {after : Process Credit}
    (returned : main script leds data before = some (exit, after)) :
    let stopped :=
      Holdings.sequence
        [prepare script leds data, serve script leds data] before
    after = mainCleanup script leds stopped.2 ∧
      (exit = .success → stopped.1 = .ok ()) := by
  intro stopped
  have ended :
      Holdings.sequence
        [prepare script leds data, serve script leds data] before =
          stopped := rfl
  clear_value stopped
  unfold main at returned
  rw [ended] at returned
  rcases stopped with ⟨(error | unfinished) | ⟨⟩, process⟩
  · cases returned
    exact ⟨rfl, fun other => by cases other⟩
  · cases returned
  · cases returned
    exact ⟨rfl, fun _ => rfl⟩

variable
  (script leds)
  (mcu : LedIndex → McuLed)
  (accepted : data.Accepted)
  (productName : List UInt8)
  (files : Holdings.Arena Descriptor)
  (kernel : BpfKernel)

/--
However `main` returns, from whatever the LEDs showed before: it has closed only
what it has opened, and each descriptor once; it has left descriptors open exactly
if the scan of `disk_leds_init` failed, namely both of the disk policy; of its BPF
programs only filters whose own detachment fails remain; it succeeds only if a
signal that `poll` has reported ended it; and if it got past the power LED, each
LED whose own commands go through is at rest.  What the scans of directories open
and close again themselves is not counted.
-/
theorem main_returns
    {exit : ExitStatus}
    {after : Process Credit}
    (returned :
      main script leds data
          (.begin files kernel mcu accepted productName) =
        some (exit, after)) :
    let before : Process Credit :=
      .begin files kernel mcu accepted productName
    let escape :=
      (prepare script leds data before).1 = .ok () ∧
        ScanEscapes script leds data before
    let stopped :=
      Holdings.sequence
        [prepare script leds data, serve script leds data] before
    LeavesBehind script data escape before after ∧
      (escape → after.LeaksDisks files) ∧
      (exit = .success → script.Signalled after.app) ∧
      ((prepare script leds data before).1 = .ok () →
        (stopped.2.app.restPanel data
          (data.toConfig accepted)).ShownBy leds
            after.app.controller.bus.mcu) := by
  intro before escape stopped
  obtain ⟨left, succeeded⟩ :
      after = mainCleanup script leds stopped.2 ∧
        (exit = .success → stopped.1 = .ok ()) :=
    main_eq_some returned
  have start : Accounted script data False before before :=
    .start rfl (.start files) rfl rfl
  have fresh :
      Fresh before
        [.signal, .controller, .networkTimer, .diskTimer, .uevent]
        before :=
    ⟨rfl, rfl, rfl, fun _ _ => rfl⟩
  have leads :
      Leads (Accounted script data False before)
        (Fresh before
          [.signal, .controller, .networkTimer, .diskTimer, .uevent]) _
        (prepare script leds data) :=
    prepare_leads script leds mcu accepted productName files kernel False
  have kept := leads.keeps before start fresh
  have reached := leads.reaches before start fresh
  cases prepared : (prepare script leds data before).1 with
  | error stop =>
      have stops : stopped = (.error stop, _) :=
        Holdings.sequence_of_error prepared
      rw [stops] at left succeeded
      subst left
      refine ⟨(kept.mono False.elim).leavesBehind, ?_, ?_, ?_⟩
      · exact fun escapes => absurd (prepared.symm.trans escapes.1) (by simp)
      · exact fun success => by cases succeeded success
      · exact fun other => by cases other
  | ok done =>
      obtain ⟨waiting, lit⟩ := reached prepared
      have continues :
          stopped =
            serve script leds data
              (prepare script leds data before).2 :=
        (Holdings.sequence_of_ok prepared).trans
          (congrFun (Holdings.sequence_singleton _) _)
      have held :
          Served script leds data (diskLayoutSlotCount productName)
            (ScanEscapes script leds data before) before
            (prepare script leds data before).2 :=
        ⟨kept.mono False.elim, lit⟩
      have serves :=
        serve_leads script leds data
          (diskLayoutSlotCount productName) before
      have served := serves.keeps _ held waiting
      have ends := serves.reaches _ held waiting
      rw [← continues] at served ends
      subst left
      refine ⟨?_, ?_, ?_, ?_⟩
      · exact
          (served.accounted.mono fun escapes =>
            ⟨prepared, escapes⟩).leavesBehind
      · rintro ⟨-, escapes⟩
        have leaves :=
          serve_of_scanEscapes script leds data _ _ before held waiting
            escapes
        rw [← continues] at leaves
        obtain ⟨noDisks, timer, socket⟩ := leaves
        refine mainCleanup_leaks served.accounted.files noDisks ?_
        rintro descriptor (rfl | rfl)
        · exact timer
        · exact socket
      · intro success
        obtain ⟨ending, reported⟩ := ends (succeeded success)
        rw [mainCleanup_rest.2]
        exact ⟨(App.cleanup_setUp _).2.2.trans ending, reported⟩
      · intro _
        rw [mainCleanup_rest.2]
        exact served.lit.rest

/-- Everything goes well until `/sys/block` cannot be read. -/
def unreadableDisks : MainScript where
  setrlimit := none
  sigprocmask := none
  signalfdFails := false
  i2cDirectory :=
    .ok
      [⟨ascii "i2c-1", .ok ⟨ascii "SMBus I801 adapter at efa0", none⟩⟩]
  openFails := fun _ => none
  slaveFails := none
  diskTimerFails := none
  socketFails := none
  bindFails := none
  discovery := .error .eio
  networkTimerFails := none
  bpf := ringAndDetachFail
  maps := App.quietStartUp.maps
  fuel := 9
  polls := []

/-- The timer and the socket of the disk policy are left open. -/
theorem main_returns_of_unreadableDisks :
    let script : Script := fun _ _ _ => .accepted
    let before : Process ℚ :=
      .begin .empty quietKernel (fun _ => ⟨0, 0, ⟨0, 0, 0⟩, 0, 0⟩)
        App.defaults_accepted (ascii "DXP2800")
    ∃ after,
      main unreadableDisks script .defaults before =
          some (.failure, after) ∧
        LeavesBehind unreadableDisks .defaults
          ((prepare unreadableDisks script .defaults before).1 =
              .ok () ∧
            ScanEscapes unreadableDisks script .defaults before)
          before after ∧
        after.LeaksDisks before.files.arena := by
  intro script before
  have exits :
      (main unreadableDisks script .defaults before).map Prod.fst =
        some .failure := by
    decide +kernel
  obtain ⟨⟨exit, after⟩, returned, rfl⟩ :=
    Option.map_eq_some_iff.mp exits
  obtain ⟨left, leaks, -⟩ :=
    main_returns unreadableDisks script _ App.defaults_accepted
      (ascii "DXP2800") .empty quietKernel returned
  refine ⟨after, returned, left, leaks ⟨?_, ?_⟩⟩
  · rfl
  · exact ⟨rfl, ⟨rfl, rfl, rfl⟩, by rintro ⟨⟩⟩

end Returns

end UgreenLeds
