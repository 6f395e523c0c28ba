import UgreenLeds.Collectors
import UgreenLeds.ConfigRanges
import UgreenLeds.DiskUevent
import UgreenLeds.NetworkLed
import UgreenLeds.PowerLed

/-!
# The daemon

The model of `main.c`: what `main` sets up before it enters the event loop, and
what the loop does each time `poll` returns.  One controller is shared by both
policies, so a policy's own copy counts only while one of its callbacks runs.
What the system calls return is part of the actions; the set-up of signals,
limits and the BPF object is left out but for its failure.
-/

namespace UgreenLeds

/-- Whether the daemon goes on. -/
inductive Progress where
  | running
  /-- `main` cleans up and ends. -/
  | ending (status : Status)
  /-- A loop over a BPF map does not end. -/
  | stuck

/-- `struct app`, with the shared controller and the firmware's product name. -/
structure App (Credit : Type) where
  config : Config
  productName : List UInt8
  controller : LedController
  /-- The network policy once it is initialized. -/
  network : Option (NetworkLed Credit)
  /-- The disk policy once it is initialized. -/
  disks : Option DiskLeds
  bpf : BpfRuntime
  progress : Progress

/-- A call that `main` or its event loop makes, with what it meets. -/
inductive AppAction where
  /-- `disk_leds_init`. -/
  | disksInit (discovery : Except Errno Discovery)
  /-- `network_led_init`. -/
  | networkInit
  /-- `bpf_runtime_start`. -/
  | bpfStart (failure : Option Errno)
  /-- `disk_leds_sync_bpf`. -/
  | syncBpf (maps : MapScript) (fuel : Nat)
  /-- `consume_signal`. -/
  | signal (result : Except Errno Bool)
  /-- `network_led_handle_timer`. -/
  | networkTimer (read settime : Option Errno)
  /-- `disk_leds_handle_timer`. -/
  | diskTimer
      (clock : Option MonotonicTime) (read settime : Option Errno)
  /-- `disk_leds_handle_uevent`. -/
  | uevent (uevents : DiskLeds.Uevents)
  /-- `handle_bpf_event`; a record that is too short is no event. -/
  | bpfEvent
      (event : Option LedEvent) (clock : Option MonotonicTime)
      (settime : Option Errno)
  /-- The end of `bpf_runtime_consume`. -/
  | consumed (failure : Option Errno)
  /-- `network_led_render`. -/
  | render (settime : Option Errno)
  /-- `poll` fails, or a file descriptor does. -/
  | fail (error : Errno)

namespace App

section Call

variable
  {Credit : Type}
  [NatCast Credit] [Add Credit] [Sub Credit] [Div Credit]
  [LE Credit] [DecidableLE Credit]

/-- An error ends the daemon. -/
def settle
    (app : App Credit)
    (status : Status) : App Credit :=
  match status with
  | .ok () =>
      app
  | .error error =>
      { app with progress := .ending (.error error) }

/-- Run a callback of the network policy, if it is initialized. -/
def onNetwork
    (app : App Credit)
    (callback : NetworkLed Credit → Status × NetworkLed Credit) :
    App Credit :=
  match app.network with
  | none =>
      app
  | some network =>
      let (status, network) :=
        callback { network with controller := app.controller }
      ({ app with
          network := some network
          controller := network.controller } : App Credit).settle status

/-- Run a callback of the disk policy, if it is initialized. -/
def onDisks
    (app : App Credit)
    (callback : DiskLeds → Status × DiskLeds) :
    App Credit :=
  match app.disks with
  | none =>
      app
  | some disks =>
      let (status, disks) :=
        callback { disks with controller := app.controller }
      ({ app with
          disks := some disks
          controller := disks.controller } : App Credit).settle status

/-- `disk_leds_init` as `main` calls it. -/
def disksInit
    (script : Script)
    (app : App Credit)
    (discovery : Except Errno Discovery) : App Credit :=
  match DiskLeds.init script app.controller app.config app.productName
      discovery with
  | (.error error, disks) =>
      ({ app with controller := disks.controller } : App Credit).settle
        (.error error)
  | (.ok (), disks) =>
      { app with
        disks := some disks
        controller := disks.controller }

/-- `network_led_init` as `main` calls it. -/
def networkInit
    (script : Script)
    (app : App Credit) : App Credit :=
  match NetworkLed.init script app.controller app.config with
  | (.error error, network) =>
      ({ app with controller := network.controller } :
          App Credit).settle (.error error)
  | (.ok (), network) =>
      { app with
        network := some network
        controller := network.controller }

/-- `disk_leds_sync_bpf` as `main` calls it. -/
def syncBpf
    (app : App Credit)
    (maps : MapScript)
    (fuel : Nat) : App Credit :=
  match app.disks with
  | none =>
      app
  | some disks =>
      match disks.syncBpf maps fuel app.bpf with
      | none =>
          { app with progress := .stuck }
      | some (status, bpf) =>
          ({ app with bpf } : App Credit).settle status

/-- `disk_leds_handle_uevent` as the event loop calls it. -/
def uevent
    (script : Script)
    (app : App Credit)
    (uevents : DiskLeds.Uevents) : App Credit :=
  match app.disks with
  | none =>
      app
  | some disks =>
      let (status, disks, bpf) :=
        DiskLeds.handleUevent script
          { disks with controller := app.controller } app.bpf uevents
      let next : App Credit :=
        { app with
          disks := some disks
          controller := disks.controller
          bpf }
      match status with
      | none =>
          { next with progress := .stuck }
      | some status =>
          next.settle status

/-- `handle_bpf_event`, which ignores what the disk policy returns. -/
def bpfEvent
    (script : Script)
    (app : App Credit)
    (event : Option LedEvent)
    (clock : Option MonotonicTime)
    (settime : Option Errno) : App Credit :=
  match event with
  | none =>
      app
  | some event =>
      if event.kind = eventNetwork then
        app.onNetwork fun network =>
          (.ok (),
            network.addSample event.firstBytes event.secondBytes)
      else if event.kind = eventDisk then
        app.onDisks fun disks =>
          (.ok (),
            (disks.handleActivity script event.ledId clock settime).2)
      else
        app

/-- Make a call. -/
def handle
    (script : Script)
    (app : App Credit) : AppAction → App Credit
  | .disksInit discovery =>
      app.disksInit script discovery
  | .networkInit =>
      app.networkInit script
  | .bpfStart none =>
      app
  | .bpfStart (some error) =>
      app.settle (.error error)
  | .syncBpf maps fuel =>
      app.syncBpf maps fuel
  | .signal (.error error) =>
      app.settle (.error error)
  | .signal (.ok true) =>
      { app with progress := .ending (.ok ()) }
  | .signal (.ok false) =>
      app
  | .networkTimer read settime =>
      app.onNetwork fun network =>
        network.handleTimer script read settime
  | .diskTimer clock read settime =>
      app.onDisks fun disks =>
        disks.handleTimer script clock read settime
  | .uevent uevents =>
      app.uevent script uevents
  | .bpfEvent event clock settime =>
      app.bpfEvent script event clock settime
  | .consumed none =>
      app
  | .consumed (some error) =>
      app.settle (.error error)
  | .render settime =>
      app.onNetwork fun network =>
        network.render script settime
  | .fail error =>
      app.settle (.error error)

/-- Make a call if the daemon still goes on. -/
def call
    (script : Script)
    (app : App Credit)
    (action : AppAction) : App Credit :=
  match app.progress with
  | .running =>
      app.handle script action
  | _ =>
      app

end Call

/-- What `main` meets between `power_led_apply` and the event loop. -/
structure StartUp where
  discovery : Except Errno Discovery
  bpfStart : Option Errno
  maps : MapScript
  fuel : Nat

/-- The calls of `main` before the event loop. -/
def StartUp.actions
    (startUp : StartUp)
    (config : ConfigData) : List AppAction :=
  (if config.disksEnabled then
    [.disksInit startUp.discovery]
  else
    []) ++
  (if config.networkEnabled then
    [.networkInit]
  else
    []) ++
  if config.networkEnabled ∨ config.disksEnabled then
    [.bpfStart startUp.bpfStart, .syncBpf startUp.maps startUp.fuel]
  else
    []

/-- What a call of `poll` reports, and what the daemon meets then. -/
structure Ready where
  signal : Option (Except Errno Bool)
  networkTimer : Option (Option Errno × Option Errno)
  diskTimer :
    Option (Option MonotonicTime × Option Errno × Option Errno)
  uevent : Option DiskLeds.Uevents
  /-- The records, how consuming them ends, and the timer of a pulse. -/
  bpf :
    Option
      (List
          (Option LedEvent × Option MonotonicTime × Option Errno) ×
        Option Errno × Option Errno)
  /-- A file descriptor has an error condition. -/
  broken : Bool

/-- The result of `poll`. -/
inductive Poll where
  | interrupted
  | failed (error : Errno)
  | returned (events : Ready)

/-- The calls of one pass through the loop, in its order. -/
def Ready.actions (ready : Ready) : List AppAction :=
  (ready.signal.map AppAction.signal).toList ++
  (ready.networkTimer.map fun (read, settime) =>
    AppAction.networkTimer read settime).toList ++
  (ready.diskTimer.map fun (clock, read, settime) =>
    AppAction.diskTimer clock read settime).toList ++
  (ready.uevent.map AppAction.uevent).toList ++
  (match ready.bpf with
    | none =>
        []
    | some (records, consumed, settime) =>
        (records.map fun (event, clock, settime) =>
          AppAction.bpfEvent event clock settime) ++
          [.consumed consumed, .render settime]) ++
  if ready.broken then
    [.fail .eio]
  else
    []

/-- The calls of one pass through the loop. -/
def Poll.actions : Poll → List AppAction
  | .interrupted =>
      []
  | .failed error =>
      [.fail error]
  | .returned events =>
      events.actions

/-- `main` programs the power LED unless that is disabled. -/
def applyPower
    (script : Script)
    (controller : LedController)
    (data : ConfigData) : Status × LedController :=
  if data.powerEnabled then
    powerLedApply script controller data
  else
    (.ok (), controller)

section Main

variable
  {Credit : Type}
  [NatCast Credit] [Add Credit] [Sub Credit] [Div Credit]
  [LE Credit] [DecidableLE Credit]

/-- The state when `main` has dealt with the power LED. -/
def start
    (script : Script)
    (controller : LedController)
    {data : ConfigData}
    (accepted : data.Accepted)
    (productName : List UInt8)
    (bpf : BpfRuntime) : App Credit :=
  let (status, controller) := applyPower script controller data
  ({ config := data.toConfig accepted
     productName
     controller
     network := none
     disks := none
     bpf
     progress := .running } : App Credit).settle status

/-- Some calls, one after the other. -/
def run
    (script : Script)
    (app : App Credit)
    (actions : List AppAction) : App Credit :=
  actions.foldl (call script) app

/-- What `main` does from the label `cleanup` on. -/
def cleanup
    (script : Script)
    (app : App Credit) : App Credit :=
  (app.onNetwork fun network => (.ok (), network.cleanup script)).onDisks
    fun disks => (.ok (), disks.cleanup script)

end Main

/-- All calls of a run of `main` up to the label `cleanup`. -/
def mainActions
    (data : ConfigData)
    (startUp : StartUp)
    (polls : List Poll) : List AppAction :=
  startUp.actions data ++ polls.flatMap Poll.actions

end App

end UgreenLeds
