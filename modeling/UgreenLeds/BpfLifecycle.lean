import UgreenLeds.Collectors
import UgreenLeds.ConfigData
import UgreenLeds.Holdings

/-!
# Starting and stopping the BPF programs

The model of `bpf_runtime_start` and `bpf_runtime_stop` with `attach_tc` and
`detach_tc`.  The kernel is what other programs can see of it: the TC filters by
interface, direction, handle and priority, the interfaces with a `clsact` qdisc,
and the objects, links and ring buffers that are open.  A script says which call
fails.  A call that fails installs nothing, and `bpf_tc_attach` fails if there is
a filter in its place.
-/

namespace UgreenLeds

open Holdings (Arena Step Table)

/-- The programs of the BPF object that the daemon looks up by name. -/
inductive BpfProgram where
  | networkIngress
  | networkEgress
  | diskIssue
  deriving DecidableEq, Repr

/-- `BPF_TC_INGRESS` and `BPF_TC_EGRESS`. -/
inductive TcDirection where
  | ingress
  | egress
  deriving DecidableEq, Repr

namespace TcDirection

/-- The program for a direction. -/
def program : TcDirection → BpfProgram
  | .ingress =>
      .networkIngress
  | .egress =>
      .networkEgress

/-- The handle of the filter for a direction. -/
def handle : TcDirection → UInt32
  | .ingress =>
      1
  | .egress =>
      2

end TcDirection

/-- `UGREEN_TC_PRIORITY`. -/
def tcPriority : UInt32 := 49152

/-- The place of a TC filter. -/
structure TcKey where
  ifindex : UInt32
  direction : TcDirection
  handle : UInt32
  priority : UInt32
  deriving DecidableEq, Repr

/-- The place that the daemon uses on an interface. -/
def tcKey
    (ifindex : UInt32)
    (direction : TcDirection) : TcKey where
  ifindex
  direction
  handle := direction.handle
  priority := tcPriority

/-- A `struct bpf_object` that is open. -/
structure BpfObject where
  path : List UInt8
  autoload : BpfProgram → Bool
  loaded : Bool
  /-- The entry of `config_map`. -/
  config : Option BpfConfig

/-- What programs have installed in the kernel, and what they have open. -/
structure BpfKernel where
  /-- The program descriptor of each TC filter. -/
  filters : Table TcKey Nat
  /-- The interfaces with a `clsact` qdisc. -/
  clsact : Finset UInt32
  objects : Arena BpfObject
  /-- The program descriptor of each tracepoint link. -/
  links : Arena Nat
  /-- The object that each ring buffer reads from. -/
  rings : Arena (Option Nat)

/-- `struct bpf_runtime`. -/
structure BpfHandles where
  object : Option Nat
  diskLink : Option Nat
  ring : Option Nat
  ifindex : UInt32
  /-- `ingress_attached` and `egress_attached`. -/
  attached : TcDirection → Bool

/-- A `struct bpf_runtime` after `memset`. -/
def BpfHandles.zeroed : BpfHandles where
  object := none
  diskLink := none
  ring := none
  ifindex := 0
  attached := fun _ => false

/-- A runtime and the kernel around it. -/
structure BpfWorld where
  runtime : BpfHandles
  kernel : BpfKernel

/-- What the calls of `libbpf` return; an `errno` may be missing. -/
structure BpfScript where
  openFails : Option (Option Errno)
  autoloadMissing : BpfProgram → Bool
  autoloadFails : BpfProgram → Option Errno
  loadFails : Option Errno
  configMapMissing : Bool
  updateFails : Option Errno
  nameToIndex : List UInt8 → UInt32
  tcProgramMissing : TcDirection → Bool
  hookCreateFails : Option Errno
  attachFails : TcDirection → Option Errno
  diskProgramMissing : Bool
  tracepointFails : Option Errno
  eventsMissing : Bool
  ringFails : Option (Option Errno)
  detachFails : TcDirection → Option Errno
  programFd : BpfProgram → Nat

/-- A step of `bpf_runtime_start`. -/
abbrev BpfStep := Step BpfWorld Errno

/-- Return an error, or go on with another world. -/
def failOr
    (failure : Option Errno)
    (next : BpfWorld → BpfWorld) : BpfStep :=
  fun world =>
    match failure with
    | some error =>
        (.error error, world)
    | none =>
        (.ok (), next world)

/-- Fail with `-ENOENT` if something was not found. -/
def orMissing (missing : Bool) : BpfStep :=
  failOr (if missing then some .enoent else none) id

/-- Change the object of the runtime. -/
def BpfWorld.changeObject
    (world : BpfWorld)
    (transform : BpfObject → BpfObject) : BpfWorld :=
  match world.runtime.object with
  | none =>
      world
  | some number =>
      { world with
        kernel :=
          { world.kernel with
            objects := world.kernel.objects.change number transform } }

section Start

variable (script : BpfScript)

/-- `set_autoload`. -/
def setAutoload
    (program : BpfProgram)
    (enabled : Bool) : BpfStep :=
  Holdings.sequence
    [orMissing (script.autoloadMissing program),
      failOr (script.autoloadFails program) fun world =>
        world.changeObject fun object =>
          { object with
            autoload :=
              Function.update object.autoload program enabled }]

/-- The call of `bpf_object__load`. -/
def loadObject : BpfStep :=
  failOr script.loadFails fun world =>
    world.changeObject fun object => { object with loaded := true }

/-- The `bpf_config` of a configuration. -/
def bpfConfig (config : ConfigData) : BpfConfig where
  networkIntervalNs := config.networkIntervalMs.toUInt64 * 1000000
  diskIntervalNs := config.diskIntervalMs.toUInt64 * 1000000

/-- The call of `bpf_map_update_elem` for `config_map`. -/
def updateConfigMap (config : ConfigData) : BpfStep :=
  failOr script.updateFails fun world =>
    world.changeObject fun object =>
      { object with config := some (bpfConfig config) }

/-- The call of `if_nametoindex`. -/
def findInterface (config : ConfigData) : BpfStep :=
  fun world =>
    let ifindex := script.nameToIndex (CString.content config.interface)
    let named :=
      { world with runtime := { world.runtime with ifindex } }
    if ifindex = 0 then (.error .enodev, named) else (.ok (), named)

/-- The call of `bpf_tc_hook_create`, for which an existing qdisc is no error. -/
def createHook : BpfStep :=
  fun world =>
    match script.hookCreateFails with
    | some error =>
        (if error = .eexist then .ok () else .error error, world)
    | none =>
        (.ok (),
          { world with
            kernel :=
              { world.kernel with
                clsact :=
                  insert world.runtime.ifindex world.kernel.clsact } })

/-- The call of `bpf_tc_attach` for a direction, with the flag it sets. -/
def attachFilter (direction : TcDirection) : BpfStep :=
  fun world =>
    let key := tcKey world.runtime.ifindex direction
    match script.attachFails direction with
    | some error =>
        (.error error, world)
    | none =>
        if (world.kernel.filters key).isSome then
          (.error .eexist, world)
        else
          (.ok (),
            { runtime :=
                { world.runtime with
                  attached :=
                    Function.update world.runtime.attached direction
                      true }
              kernel :=
                { world.kernel with
                  filters :=
                    Function.update world.kernel.filters key
                      (some (script.programFd direction.program)) } })

/-- `attach_tc`. -/
def attachTc : BpfStep :=
  Holdings.sequence
    [orMissing
        (script.tcProgramMissing .ingress ||
          script.tcProgramMissing .egress),
      createHook script,
      attachFilter script .ingress,
      attachFilter script .egress]

/-- The call of `bpf_program__attach_tracepoint`. -/
def attachTracepoint : BpfStep :=
  failOr script.tracepointFails fun world =>
    { runtime :=
        { world.runtime with
          diskLink := some world.kernel.links.next }
      kernel :=
        { world.kernel with
          links :=
            world.kernel.links.create
              (script.programFd .diskIssue) } }

/-- The call of `ring_buffer__new`. -/
def createRing : BpfStep :=
  failOr (script.ringFails.map fun errno => errno.getD .eio) fun world =>
    { runtime :=
        { world.runtime with ring := some world.kernel.rings.next }
      kernel :=
        { world.kernel with
          rings := world.kernel.rings.create world.runtime.object } }

/-- What `bpf_runtime_start` does with the object it has opened. -/
def startObject (config : ConfigData) : BpfStep :=
  Holdings.sequence
    [setAutoload script .networkIngress config.networkEnabled,
      setAutoload script .networkEgress config.networkEnabled,
      setAutoload script .diskIssue config.disksEnabled,
      loadObject script,
      orMissing script.configMapMissing,
      updateConfigMap script config,
      Holdings.whenever config.networkEnabled
        (Holdings.sequence
          [findInterface script config, attachTc script]),
      Holdings.whenever config.disksEnabled
        (Holdings.sequence
          [orMissing script.diskProgramMissing,
            attachTracepoint script]),
      orMissing script.eventsMissing,
      createRing script]

end Start

section Stop

variable (detachFails : TcDirection → Option Errno)

/-- Detach the filter for a direction if its flag is set. -/
def detachFilter
    (world : BpfWorld)
    (direction : TcDirection) : BpfWorld :=
  if world.runtime.attached direction then
    { runtime :=
        { world.runtime with
          attached :=
            Function.update world.runtime.attached direction false }
      kernel :=
        { world.kernel with
          -- The result of `bpf_tc_detach` is ignored.
          filters :=
            match detachFails direction with
            | some _ =>
                world.kernel.filters
            | none =>
                Function.update world.kernel.filters
                  (tcKey world.runtime.ifindex direction) none } }
  else
    world

/-- `detach_tc`. -/
def detachTc (world : BpfWorld) : BpfWorld :=
  detachFilter detachFails (detachFilter detachFails world .ingress)
    .egress

/-- `bpf_runtime_stop`. -/
def bpfRuntimeStop (world : BpfWorld) : BpfWorld :=
  let detached := detachTc detachFails world
  { runtime := .zeroed
    kernel :=
      { detached.kernel with
        links :=
          detached.kernel.links.releaseAny detached.runtime.diskLink
        rings := detached.kernel.rings.releaseAny detached.runtime.ring
        objects :=
          detached.kernel.objects.releaseAny
            detached.runtime.object } }

end Stop

/-- The runtime and the kernel after `bpf_object__open_file`. -/
def openObject
    (config : ConfigData)
    (kernel : BpfKernel) : BpfWorld where
  runtime := { BpfHandles.zeroed with object := some kernel.objects.next }
  kernel :=
    { kernel with
      objects :=
        kernel.objects.create
          { path := config.bpfObject
            autoload := fun _ => true
            loaded := false
            config := none } }

/-- `bpf_runtime_start`. -/
def bpfRuntimeStart
    (script : BpfScript)
    (config : ConfigData)
    (world : BpfWorld) : Status × BpfWorld :=
  match script.openFails with
  | some errno =>
      (.error (errno.getD .eio), { world with runtime := .zeroed })
  | none =>
      Holdings.cleaningUp (bpfRuntimeStop script.detachFails)
        (startObject script config) (openObject config world.kernel)

end UgreenLeds
