import UgreenLeds.BpfLifecycle
import UgreenLeds.DiskDiscovery
import UgreenLeds.EventLoop
import UgreenLeds.Handles

/-!
# The whole of main

The model of `main` with everything it opens: the signal descriptor, the I2C
device, the timers and the uevent socket of the policies, and the BPF programs.
The steps are carried out up to the first that fails, and the cleanup follows in
any case.  The calls on the policies are those of the event loop's model; a system
call that fails ends that model's run as well.  What the system calls return is a
script.
-/

namespace UgreenLeds

open Holdings (Handles)

/-- An entry of `/sys/class/i2c-dev`. -/
structure I2cEntry where
  /-- `d_name`. -/
  name : List UInt8
  /-- The file `device/name`. -/
  adapterFile : Except Errno FileContents

/-- Whether the loop of `find_i2c_device` stops at an entry. -/
def I2cEntry.isAdapter (entry : I2cEntry) : Bool :=
  (ascii "i2c-").isPrefixOf entry.name &&
    match readLine 256 entry.adapterFile with
    | .error _ =>
        false
    | .ok adapterName =>
        (ascii "SMBus I801 adapter").isPrefixOf adapterName

/-- `find_i2c_device`. -/
def findI2cDevice
    (directory : Except Errno (List I2cEntry)) :
    Except Errno (List UInt8) :=
  match directory with
  | .error error =>
      .error error
  | .ok entries =>
      match entries.find? I2cEntry.isAdapter with
      | none =>
          .error .enoent
      | some entry =>
          .ok (ascii "/dev/" ++ entry.name)

/-- The variables in which the daemon keeps file descriptors. -/
inductive Descriptor where
  /-- `signal_fd`. -/
  | signal
  /-- `controller.fd`. -/
  | controller
  /-- `network.timer_fd`. -/
  | networkTimer
  /-- `disks.timer_fd`. -/
  | diskTimer
  /-- `disks.uevent_fd`. -/
  | uevent
  deriving DecidableEq, Repr

/-- What the system calls of `main` return. -/
structure MainScript where
  setrlimit : Option Errno
  sigprocmask : Option Errno
  signalfdFails : Bool
  i2cDirectory : Except Errno (List I2cEntry)
  openFails : List UInt8 → Option Errno
  /-- The `ioctl` that sets the address of the slave. -/
  slaveFails : Option Errno
  diskTimerFails : Option Errno
  socketFails : Option Errno
  bindFails : Option Errno
  discovery : Except Errno Discovery
  networkTimerFails : Option Errno
  bpf : BpfScript
  maps : MapScript
  fuel : Nat
  polls : List App.Poll

/-- The daemon as a process, with the BPF programs it has installed. -/
structure Process (Credit : Type) where
  files : Handles Descriptor
  app : App Credit
  bpf : BpfWorld
  bpfStarted : Bool

/-- Why `main` goes on no further. -/
inductive Stop where
  | failed (error : Errno)
  /-- The event loop still runs, or a loop over a map does not end. -/
  | unfinished

/-- `EXIT_SUCCESS` and `EXIT_FAILURE`. -/
inductive ExitStatus where
  | success
  | failure
  deriving DecidableEq, Repr

/-- A step of `main`. -/
abbrev MainStep (Credit : Type) := Holdings.Step (Process Credit) Stop

section Steps

variable {Credit : Type}

/-- A system call that may fail. -/
def systemCall (failure : Option Errno) : MainStep Credit :=
  fun process =>
    match failure with
    | some error =>
        (.error (.failed error),
          { process with app := process.app.settle (.error error) })
    | none =>
        (.ok (), process)

/-- Keep a new file descriptor in a variable. -/
def openFile (descriptor : Descriptor) : MainStep Credit :=
  fun process =>
    (.ok (), { process with files := process.files.acquire descriptor })

/-- `close` of the file descriptor in a variable, if there is one. -/
def closeFile
    (descriptor : Descriptor)
    (process : Process Credit) : Process Credit :=
  { process with files := process.files.giveBack descriptor }

variable (script : MainScript)

/-- `set_memlock_rlimit`. -/
def setMemlockRlimit : MainStep Credit :=
  systemCall
    (script.setrlimit.filter fun error => error ≠ ⟨1, by decide⟩)

/-- `open_signal_fd`; what `signalfd` returns is taken for an error number. -/
def openSignalFd : MainStep Credit :=
  Holdings.sequence
    [systemCall script.sigprocmask,
      systemCall
        (if script.signalfdFails then some ⟨1, by decide⟩ else none),
      openFile .signal]

/-- `led_controller_open`. -/
def ledControllerOpen (data : ConfigData) : MainStep Credit :=
  fun process =>
    let located : Except Errno (List UInt8) :=
      match data.i2cDevice with
      | some path =>
          .ok path
      | none =>
          findI2cDevice script.i2cDirectory
    match located with
    | .error error =>
        systemCall (some error) process
    | .ok path =>
        Holdings.sequence
          [systemCall (script.openFails path),
            openFile .controller,
            Holdings.cleaningUp (closeFile .controller)
              (systemCall script.slaveFails)] process

/-- `power_led_apply` as `main` calls it. -/
def applyPowerLed
    (leds : Script)
    (data : ConfigData) : MainStep Credit :=
  fun process =>
    let (status, controller) :=
      App.applyPower leds process.app.controller data
    (status.mapError .failed,
      { process with
        app :=
          ({ process.app with controller } : App Credit).settle status })

/-- `open_uevent_socket`. -/
def openUeventSocket : MainStep Credit :=
  Holdings.sequence
    [systemCall script.socketFails,
      openFile .uevent,
      Holdings.cleaningUp (closeFile .uevent)
        (systemCall script.bindFails)]

/-- `bpf_runtime_start`. -/
def startBpf (data : ConfigData) : MainStep Credit :=
  fun process =>
    match bpfRuntimeStart script.bpf data process.bpf with
    | (.error error, bpf) =>
        systemCall (some error) { process with bpf }
    | (.ok (), bpf) =>
        (.ok (), { process with bpf, bpfStarted := true })

end Steps

section Main

variable
  {Credit : Type}
  [NatCast Credit] [Add Credit] [Sub Credit] [Div Credit]
  [LE Credit] [DecidableLE Credit]
  (script : MainScript)
  (leds : Script)
  (data : ConfigData)

/-- Whether a call has ended the daemon. -/
def outcome : Progress → Except Stop Unit
  | .running | .ending (.ok ()) =>
      .ok ()
  | .ending (.error error) =>
      .error (.failed error)
  | .stuck =>
      .error .unfinished

/-- A call on one of the policies. -/
def policyCall (action : AppAction) : MainStep Credit :=
  fun process =>
    let app := process.app.call leds action
    (outcome app.progress, { process with app })

/-- `disk_leds_init`; a scan that fails leaves what has been opened. -/
def initDisks : MainStep Credit :=
  Holdings.sequence
    [systemCall script.diskTimerFails,
      openFile .diskTimer,
      Holdings.cleaningUp (closeFile .diskTimer)
        (openUeventSocket script),
      policyCall leds (.disksInit script.discovery)]

/-- `network_led_init`. -/
def initNetwork : MainStep Credit :=
  Holdings.sequence
    [systemCall script.networkTimerFails,
      openFile .networkTimer,
      Holdings.cleaningUp (closeFile .networkTimer)
        (policyCall leds .networkInit)]

/-- `run_event_loop`, which has not ended if the last call of `poll` has. -/
def runEventLoop : MainStep Credit :=
  fun process =>
    let app :=
      process.app.run leds (script.polls.flatMap App.Poll.actions)
    (match app.progress with
      | .ending (.ok ()) =>
          .ok ()
      | .ending (.error error) =>
          .error (.failed error)
      | _ =>
          .error .unfinished,
      { process with app })

/-- The steps of `main` up to the power LED. -/
def prepare : MainStep Credit :=
  Holdings.sequence
    [setMemlockRlimit script,
      openSignalFd script,
      ledControllerOpen script data,
      applyPowerLed leds data]

/-- The steps of `main` with the policies. -/
def serve : MainStep Credit :=
  Holdings.sequence
    [Holdings.whenever data.disksEnabled (initDisks script leds),
      Holdings.whenever data.networkEnabled (initNetwork script leds),
      Holdings.whenever (data.networkEnabled ∨ data.disksEnabled)
        (Holdings.sequence
          [startBpf script data,
            policyCall leds (.syncBpf script.maps script.fuel)]),
      runEventLoop script leds]

/-- `bpf_runtime_stop` as `main` calls it. -/
def stopBpf (process : Process Credit) : Process Credit :=
  if process.bpfStarted then
    { process with
      bpf := bpfRuntimeStop script.bpf.detachFails process.bpf }
  else
    process

/-- `close` of a file descriptor of a policy that is initialized. -/
def closeIf
    (initialized : Bool)
    (descriptor : Descriptor)
    (process : Process Credit) : Process Credit :=
  if initialized then closeFile descriptor process else process

/-- What `main` does from the label `cleanup` on. -/
def mainCleanup (process : Process Credit) : Process Credit :=
  let stopped := stopBpf script process
  let policies :=
    { stopped with app := stopped.app.cleanup leds }
  closeFile .controller
    (closeFile .signal
      (closeIf policies.app.disks.isSome .uevent
        (closeIf policies.app.disks.isSome .diskTimer
          (closeIf policies.app.network.isSome .networkTimer
            policies))))

/-- `main`, once the options are parsed; nothing if it does not return. -/
def main (process : Process Credit) :
    Option (ExitStatus × Process Credit) :=
  match
    Holdings.sequence
      [prepare script leds data, serve script leds data] process with
  | (.ok (), process) =>
      some (.success, mainCleanup script leds process)
  | (.error (.failed _), process) =>
      some (.failure, mainCleanup script leds process)
  | (.error .unfinished, _) =>
      none

/-- The process when the options are parsed. -/
def Process.begin
    (files : Holdings.Arena Descriptor)
    (kernel : BpfKernel)
    (mcu : LedIndex → McuLed)
    {data : ConfigData}
    (accepted : data.Accepted)
    (productName : List UInt8) : Process Credit where
  files := ⟨files, fun _ => none, []⟩
  app :=
    { config := data.toConfig accepted
      productName
      controller := .initial mcu
      network := none
      disks := none
      bpf := .started fun _ => ∅
      progress := .running }
  bpf := ⟨.zeroed, kernel⟩
  bpfStarted := false

end Main

end UgreenLeds
