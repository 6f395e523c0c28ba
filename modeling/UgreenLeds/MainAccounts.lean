import UgreenLeds.BpfAllOrNothing
import UgreenLeds.MainProgram
import UgreenLeds.Panel

/-!
# What main holds

The accounts of `main`: its variables hold what it has opened, and what its
policies have been given belongs to a policy that is set up.  Two descriptors
escape: when the scan of `disk_leds_init` fails, its timer and its socket are
open, and nobody knows of them.  The steps up to the power LED keep the accounts
in order.  Of all calls, only `consume_signal` ends the daemon without an error.
-/

namespace UgreenLeds

open Holdings (Handles Leads)
open App (Lit)

namespace App

section Grows

variable
  {Credit : Type}
  {app after : App Credit}

/--
What has been set up stays set up, and what is configured stays so; and only a signal
ends the daemon without an error.
-/
structure Grows
    (signalled : Prop)
    (app after : App Credit) : Prop where
  config : after.config = app.config
  productName : after.productName = app.productName
  network : app.network.isSome → after.network.isSome
  disks : app.disks.isSome → after.disks.isSome
  ends :
    after.progress = .ending (.ok ()) →
    app.progress = .ending (.ok ()) ∨ signalled

variable {signalled : Prop}

theorem Grows.refl (app : App Credit) : Grows signalled app app :=
  ⟨rfl, rfl, id, id, Or.inl⟩

theorem Grows.settle
    (grows : Grows signalled app after)
    (status : Status) : Grows signalled app (after.settle status) := by
  cases status with
  | ok done =>
      exact grows
  | error error =>
      exact
        ⟨grows.config, grows.productName, grows.network, grows.disks,
          fun ended => by cases ended⟩

variable (app)

theorem onNetwork_grows
    (callback : NetworkLed Credit → Status × NetworkLed Credit) :
    Grows signalled app (app.onNetwork callback) := by
  simp only [onNetwork]
  split
  · exact .refl app
  · generalize callback _ = result
    rcases result with ⟨status, network⟩
    apply Grows.settle
    exact ⟨rfl, rfl, fun _ => rfl, id, Or.inl⟩

theorem onDisks_grows
    (callback : DiskLeds → Status × DiskLeds) :
    Grows signalled app (app.onDisks callback) := by
  simp only [onDisks]
  split
  · exact .refl app
  · generalize callback _ = result
    rcases result with ⟨status, disks⟩
    apply Grows.settle
    exact ⟨rfl, rfl, id, fun _ => rfl, Or.inl⟩

variable
  [NatCast Credit] [Add Credit] [Sub Credit] [Div Credit]
  [LE Credit] [DecidableLE Credit]
  (script : Script)

/-- No call takes back what has been set up. -/
theorem call_grows (action : AppAction) :
    Grows (action = .signal (.ok true)) app
      (app.call script action) := by
  simp only [call]
  split
  · cases action with
    | disksInit discovery =>
        simp only [handle, disksInit]
        split
        · apply Grows.settle
          exact ⟨rfl, rfl, id, id, Or.inl⟩
        · exact ⟨rfl, rfl, id, fun _ => rfl, Or.inl⟩
    | networkInit =>
        simp only [handle, networkInit]
        split
        · apply Grows.settle
          exact ⟨rfl, rfl, id, id, Or.inl⟩
        · exact ⟨rfl, rfl, fun _ => rfl, id, Or.inl⟩
    | bpfStart failure | consumed failure =>
        cases failure with
        | none =>
            exact .refl app
        | some error =>
            exact (Grows.refl app).settle (.error error)
    | syncBpf maps fuel =>
        simp only [handle, syncBpf]
        split
        · exact .refl app
        · split
          · exact ⟨rfl, rfl, id, id, fun ended => by cases ended⟩
          · apply Grows.settle
            exact ⟨rfl, rfl, id, id, Or.inl⟩
    | signal result =>
        rcases result with error | _ | _
        · exact (Grows.refl app).settle (.error error)
        · exact .refl app
        · exact ⟨rfl, rfl, id, id, fun _ => Or.inr rfl⟩
    | networkTimer read settime | render settime =>
        simp only [handle]
        exact onNetwork_grows app _
    | diskTimer clock read settime =>
        simp only [handle]
        exact onDisks_grows app _
    | uevent uevents =>
        simp only [handle, uevent]
        split
        · exact .refl app
        · generalize DiskLeds.handleUevent script _ _ _ = result
          rcases result with ⟨_ | status, disks, bpf⟩
          · exact
              ⟨rfl, rfl, id, fun _ => rfl, fun ended => by cases ended⟩
          · apply Grows.settle
            exact ⟨rfl, rfl, id, fun _ => rfl, Or.inl⟩
    | bpfEvent event clock settime =>
        cases event with
        | none =>
            exact .refl app
        | some event =>
            simp only [handle, bpfEvent]
            split
            · exact onNetwork_grows app _
            · split
              · exact onDisks_grows app _
              · exact .refl app
    | fail error =>
        exact (Grows.refl app).settle (.error error)
  · exact .refl app

end Grows

section Signal

variable
  {Credit : Type}
  {app : App Credit}

/-- No signal has ended the daemon yet. -/
def Unsignalled (app : App Credit) : Prop :=
  app.progress ≠ .ending (.ok ())

variable
  [NatCast Credit] [Add Credit] [Sub Credit] [Div Credit]
  [LE Credit] [DecidableLE Credit]
  (script : Script)

/-- The only call that ends the daemon without an error consumes its signal. -/
theorem Unsignalled.call
    (unsignalled : app.Unsignalled)
    {action : AppAction}
    (other : action ≠ .signal (.ok true)) :
    (app.call script action).Unsignalled := by
  intro ended
  rcases (call_grows app script action).ends ended with
    already | isSignal
  · exact unsignalled already
  · exact other isSignal

/-- A run that a signal has ended has consumed it. -/
theorem Unsignalled.run
    (unsignalled : app.Unsignalled)
    {actions : List AppAction}
    (ended : (app.run script actions).progress = .ending (.ok ())) :
    AppAction.signal (.ok true) ∈ actions := by
  induction actions generalizing app with
  | nil =>
      exact absurd ended unsignalled
  | cons action rest inductionHypothesis =>
      by_cases other : action = .signal (.ok true)
      · exact other ▸ List.mem_cons_self
      · exact
          List.mem_cons_of_mem action
            (inductionHypothesis (unsignalled.call script other) ended)

/-- A signal that the loop consumes is one that `poll` has reported. -/
theorem polls_signal
    {polls : List Poll}
    (member :
      AppAction.signal (.ok true) ∈ polls.flatMap Poll.actions) :
    ∃ ready,
      .returned ready ∈ polls ∧ ready.signal = some (.ok true) := by
  obtain ⟨poll, isPoll, member⟩ := List.mem_flatMap.mp member
  cases poll with
  | interrupted =>
      cases member
  | failed error =>
      simp [Poll.actions] at member
  | returned ready =>
      refine ⟨ready, isPoll, ?_⟩
      simp only [Poll.actions, Ready.actions, List.mem_append,
        Option.mem_toList] at member
      rcases member with
        ((((signal | network) | disk) | uevent) | bpf) | broken
      · simpa using signal
      · simp at network
      · simp at disk
      · simp at uevent
      · split at bpf <;> simp at bpf
      · split at broken <;> simp at broken

end Signal

end App

section Accounts

variable
  {Credit : Type}
  (script : MainScript)
  (data : ConfigData)

/--
What `main` holds, wherever it stops; the descriptors of the disk policy may be
held without the policy under the condition that is given.
-/
structure Accounted
    (escape : Prop)
    (before process : Process Credit) : Prop where
  files : Handles.Ledger before.files.arena process.files
  config : process.app.config = before.app.config
  productName : process.app.productName = before.app.productName
  network :
    process.files.number .networkTimer ≠ none →
    process.app.network.isSome
  disks :
    ∀ descriptor, descriptor = .diskTimer ∨ descriptor = .uevent →
      process.files.number descriptor ≠ none →
      process.app.disks.isSome ∨ escape
  bpf :
    if process.bpfStarted then
      Acquired before.bpf.kernel
        (script.bpf.nameToIndex (CString.content data.interface))
        process.bpf
    else
      NothingLeft script.bpf data before.bpf.kernel process.bpf

variable
  {script data}
  {escape : Prop}
  {before process : Process Credit}

/-- At the start `main` holds nothing. -/
theorem Accounted.start
    (nothing : process.files.number = fun _ => none)
    (ledger : Handles.Ledger process.files.arena process.files)
    (zeroed : process.bpf.runtime = .zeroed)
    (unstarted : process.bpfStarted = false) :
    Accounted script data escape process process where
  files := ledger
  config := rfl
  productName := rfl
  network := fun isHeld => by simp [nothing] at isHeld
  disks := fun _ _ isHeld => by simp [nothing] at isHeld
  bpf := by
    have nothingLeft :=
      nothingLeft_unopened script.bpf data process.bpf.kernel
    rw [← zeroed] at nothingLeft
    simpa [unstarted] using nothingLeft

/-- A wider condition allows more to be held. -/
theorem Accounted.mono
    {wider : Prop}
    (accounted : Accounted script data escape before process)
    (allows : escape → wider) :
    Accounted script data wider before process where
  files := accounted.files
  config := accounted.config
  productName := accounted.productName
  network := accounted.network
  disks := fun descriptor isDisk isHeld =>
    (accounted.disks descriptor isDisk isHeld).imp_right allows
  bpf := accounted.bpf

/-- The accounts are in order as long as nothing that is set up is lost. -/
theorem Accounted.withApp
    (accounted : Accounted script data escape before process)
    {signalled : Prop}
    {app : App Credit}
    (grows : App.Grows signalled process.app app) :
    Accounted script data escape before { process with app } where
  files := accounted.files
  config := grows.config.trans accounted.config
  productName := grows.productName.trans accounted.productName
  network := fun isHeld => grows.network (accounted.network isHeld)
  disks := fun other isDisk isHeld =>
    (accounted.disks other isDisk isHeld).imp_left grows.disks
  bpf := accounted.bpf

/-- What is held does not depend on how the daemon goes on. -/
theorem Accounted.settle
    (accounted : Accounted script data escape before process)
    (status : Status) :
    Accounted script data escape before
      { process with app := process.app.settle status } := by
  have same : App.Grows False process.app process.app := .refl _
  exact accounted.withApp (same.settle status)

/-- The accounts are in order as long as no variable is filled. -/
theorem Accounted.withFiles
    (accounted : Accounted script data escape before process)
    {files : Handles Descriptor}
    (ledger : Handles.Ledger before.files.arena files)
    (remains :
      ∀ descriptor, files.number descriptor ≠ none →
        process.files.number descriptor ≠ none) :
    Accounted script data escape before { process with files } where
  files := ledger
  config := accounted.config
  productName := accounted.productName
  network := fun isHeld => accounted.network (remains _ isHeld)
  disks := fun other isDisk isHeld =>
    accounted.disks other isDisk (remains other isHeld)
  bpf := accounted.bpf

/-- Closing a file descriptor keeps the accounts. -/
theorem Accounted.closeFile
    (accounted : Accounted script data escape before process)
    (descriptor : Descriptor) :
    Accounted script data escape before
      (UgreenLeds.closeFile descriptor process) := by
  refine accounted.withFiles (accounted.files.giveBack descriptor) ?_
  intro other isHeld
  rw [Handles.giveBack_number] at isHeld
  by_cases same : other = descriptor
  · subst same
    rw [Function.update_self] at isHeld
    exact absurd rfl isHeld
  · rwa [Function.update_of_ne same] at isHeld

/-- So does opening one for `main` itself. -/
theorem Accounted.openFile
    (accounted : Accounted script data escape before process)
    {descriptor : Descriptor}
    (own : descriptor = .signal ∨ descriptor = .controller)
    (empty : process.files.number descriptor = none) :
    Accounted script data escape before
      { process with files := process.files.acquire descriptor } := by
  have remains :
      ∀ other, other ≠ descriptor →
        (process.files.acquire descriptor).number other =
          process.files.number other :=
    fun other different => Handles.acquire_number_of_ne _ different
  exact
    { files := accounted.files.acquire empty
      config := accounted.config
      productName := accounted.productName
      network := by
        intro isHeld
        rw [remains _ (by rcases own with rfl | rfl <;> decide)] at isHeld
        exact accounted.network isHeld
      disks := by
        intro other isDisk isHeld
        rw [remains other] at isHeld
        · exact accounted.disks other isDisk isHeld
        · rcases own with rfl | rfl <;>
            rcases isDisk with rfl | rfl <;> decide
      bpf := accounted.bpf }

end Accounts

section Prepare

variable
  {Credit : Type}
  (script : MainScript)
  {Invariant Pre : Process Credit → Prop}

/-- A system call changes nothing but how the daemon goes on. -/
theorem systemCall_leads
    (settles :
      ∀ process error, Invariant process →
        Invariant
          { process with app := process.app.settle (.error error) })
    (failure : Option Errno) :
    Leads Invariant Pre Pre (systemCall failure) := by
  cases failure with
  | none =>
      exact ⟨fun _ holds _ => holds, fun _ _ pre _ => pre⟩
  | some error =>
      refine ⟨fun process holds _ => settles process error holds, ?_⟩
      intro process _ _ succeeded
      cases succeeded

/-- The process before the policies, with some variables still empty. -/
structure Fresh
    (before : Process Credit)
    (empty : List Descriptor)
    (process : Process Credit) : Prop where
  app : process.app = before.app
  bpf : process.bpf = before.bpf
  bpfStarted : process.bpfStarted = false
  number :
    ∀ descriptor ∈ empty, process.files.number descriptor = none

variable
  {script}
  {data : ConfigData}
  {escape : Prop}
  {before : Process Credit}

/-- A descriptor of `main` itself is opened into an empty variable. -/
theorem openFile_leads
    {descriptor : Descriptor}
    {empty : List Descriptor}
    (own : descriptor = .signal ∨ descriptor = .controller)
    (others : descriptor ∉ empty) :
    Leads (Accounted script data escape before)
      (Fresh before (descriptor :: empty)) (Fresh before empty)
      (openFile descriptor) where
  keeps := fun process accounted fresh =>
    accounted.openFile own
      (fresh.number descriptor (List.mem_cons_self ..))
  reaches := by
    intro process _ fresh _
    refine ⟨fresh.app, fresh.bpf, fresh.bpfStarted, ?_⟩
    intro other member
    have different : other ≠ descriptor := by
      rintro rfl
      exact others member
    exact
      (Handles.acquire_number_of_ne _ different).trans
        (fresh.number other (List.mem_cons_of_mem _ member))

variable (script data escape)

/-- `open_signal_fd` fills its variable. -/
theorem openSignalFd_leads :
    Leads (Accounted script data escape before)
      (Fresh before
        [.signal, .controller, .networkTimer, .diskTimer, .uevent])
      (Fresh before [.controller, .networkTimer, .diskTimer, .uevent])
      (openSignalFd script) :=
  .cons (systemCall_leads (fun _ _ held => held.settle _) _)
    (.cons (systemCall_leads (fun _ _ held => held.settle _) _)
      (.cons (openFile_leads (Or.inl rfl) (by decide))
        (.nil fun _ fresh => fresh)))

/-- `led_controller_open` fills its variable. -/
theorem ledControllerOpen_leads :
    Leads (Accounted script data escape before)
      (Fresh before [.controller, .networkTimer, .diskTimer, .uevent])
      (Fresh before [.networkTimer, .diskTimer, .uevent])
      (ledControllerOpen script data) := by
  have opens :
      ∀ path,
        Leads (Accounted script data escape before)
          (Fresh before
            [.controller, .networkTimer, .diskTimer, .uevent])
          (Fresh before [.networkTimer, .diskTimer, .uevent])
          (Holdings.sequence
            [systemCall (script.openFails path),
              openFile .controller,
              Holdings.cleaningUp (closeFile .controller)
                (systemCall script.slaveFails)]) :=
    fun path =>
      .cons (systemCall_leads (fun _ _ held => held.settle _) _)
        (.cons (openFile_leads (Or.inr rfl) (by decide))
          (.cons
            ((systemCall_leads (fun _ _ held => held.settle _)
              _).cleaningUp fun _ held => held.closeFile .controller)
            (.nil fun _ fresh => fresh)))
  have fails :
      ∀ error,
        Leads (Accounted script data escape before)
          (Fresh before
            [.controller, .networkTimer, .diskTimer, .uevent])
          (Fresh before [.networkTimer, .diskTimer, .uevent])
          (systemCall (some error)) := by
    intro error
    refine ⟨fun process held _ => held.settle (.error error), ?_⟩
    intro process _ _ succeeded
    cases succeeded
  cases configured : data.i2cDevice with
  | some path =>
      refine (opens path).congr fun process => ?_
      simp only [ledControllerOpen, configured]
  | none =>
      cases found : findI2cDevice script.i2cDirectory with
      | error error =>
          refine (fails error).congr fun process => ?_
          simp only [ledControllerOpen, configured, found]
      | ok path =>
          refine (opens path).congr fun process => ?_
          simp only [ledControllerOpen, configured, found]

/-- The process once the power LED is programmed, with some variables empty. -/
structure Waiting
    (leds : Script)
    (data : ConfigData)
    (before : Process Credit)
    (empty : List Descriptor)
    (process : Process Credit) : Prop where
  running : process.app.progress = .running
  network : .networkTimer ∈ empty → process.app.network = none
  disks : .diskTimer ∈ empty → process.app.disks = none
  controller :
    .diskTimer ∈ empty →
    process.app.controller =
      (App.applyPower leds before.app.controller data).2
  bpf : process.bpf = before.bpf
  bpfStarted : process.bpfStarted = false
  number :
    ∀ descriptor ∈ empty, process.files.number descriptor = none

/-- A daemon that goes on has consumed no signal. -/
theorem Waiting.unsignalled
    {leds : Script}
    {data : ConfigData}
    {before process : Process Credit}
    {empty : List Descriptor}
    (waiting : Waiting leds data before empty process) :
    process.app.Unsignalled := by
  intro ended
  rw [waiting.running] at ended
  cases ended

/-- Fewer empty variables may be waiting. -/
theorem Waiting.mono
    {leds : Script}
    {data : ConfigData}
    {before process : Process Credit}
    {wide empty : List Descriptor}
    (waiting : Waiting leds data before wide process)
    (fewer : empty ⊆ wide) : Waiting leds data before empty process where
  running := waiting.running
  network := fun member => waiting.network (fewer member)
  disks := fun member => waiting.disks (fewer member)
  controller := fun member => waiting.controller (fewer member)
  bpf := waiting.bpf
  bpfStarted := waiting.bpfStarted
  number := fun descriptor member =>
    waiting.number descriptor (fewer member)

end Prepare

section Power

variable
  {Credit : Type}
  [NatCast Credit] [Add Credit] [Sub Credit] [Div Credit]
  [LE Credit] [DecidableLE Credit]
  (script : MainScript)
  (leds : Script)

/-- What `main` holds and what the LEDs show, once the power LED is programmed. -/
structure Served
    (data : ConfigData)
    (slotCount : Nat)
    (escape : Prop)
    (before process : Process Credit) : Prop where
  accounted : Accounted script data escape before process
  lit : process.app.Lit leds data before.app.config slotCount

variable
  (mcu : LedIndex → McuLed)
  {data : ConfigData}
  (accepted : data.Accepted)
  (productName : List UInt8)
  (files : Holdings.Arena Descriptor)
  (kernel : BpfKernel)
  (escape : Prop)

/-- `power_led_apply` lights the power LED before there are policies. -/
theorem applyPowerLed_leads :
    let before : Process Credit :=
      .begin files kernel mcu accepted productName
    Leads (Accounted script data escape before)
      (Fresh before [.networkTimer, .diskTimer, .uevent])
      (fun process =>
        Waiting leds data before
            [.networkTimer, .diskTimer, .uevent] process ∧
          process.app.Lit leds data before.app.config
            (diskLayoutSlotCount productName))
      (applyPowerLed leds data) := by
  intro before
  constructor
  · intro process accounted fresh
    refine accounted.withApp (show App.Grows False _ _ from ?_)
    apply App.Grows.settle
    exact ⟨rfl, rfl, id, id, Or.inl⟩
  · rintro ⟨opened, app, bpf, bpfStarted⟩ - ⟨rfl, rfl, rfl, number⟩
      succeeded
    have powered :
        (App.applyPower leds (.initial mcu) data).1 = .ok () := by
      change
        (App.applyPower leds (.initial mcu) data).1.mapError
          Stop.failed = .ok () at succeeded
      cases status : (App.applyPower leds (.initial mcu) data).1 with
      | ok done =>
          rfl
      | error error =>
          rw [status] at succeeded
          cases succeeded
    let start : App Credit :=
      .start leds (.initial mcu) accepted productName
        (.started fun _ => ∅)
    obtain ⟨noDisks, noNetwork⟩ :
        start.disks = none ∧ start.network = none :=
      App.start_fresh leds (.initial mcu) accepted productName _
    have running : start.progress = .running := by
      simp only [start, App.start, powered, App.settle]
    have controller :
        start.controller =
          (App.applyPower leds (.initial mcu) data).2 :=
      App.start_controller ..
    have lit :
        start.Lit leds data (data.toConfig accepted)
          (diskLayoutSlotCount productName) :=
      App.start_lit leds mcu accepted productName _
    exact
      ⟨⟨running, fun _ => noNetwork, fun _ => noDisks,
          fun _ => controller, rfl, rfl, number⟩, lit⟩

/-- The steps up to the power LED open what `main` itself needs. -/
theorem prepare_leads :
    let before : Process Credit :=
      .begin files kernel mcu accepted productName
    Leads (Accounted script data escape before)
      (Fresh before
        [.signal, .controller, .networkTimer, .diskTimer, .uevent])
      (fun process =>
        Waiting leds data before
            [.networkTimer, .diskTimer, .uevent] process ∧
          process.app.Lit leds data before.app.config
            (diskLayoutSlotCount productName))
      (prepare script leds data) :=
  .cons (systemCall_leads (fun _ _ held => held.settle _) _)
    (.cons (openSignalFd_leads script data escape)
      (.cons (ledControllerOpen_leads script data escape)
        (.cons
          (applyPowerLed_leads script leds mcu accepted productName
            files kernel escape)
          (.nil fun _ prepared => prepared))))

end Power

end UgreenLeds
