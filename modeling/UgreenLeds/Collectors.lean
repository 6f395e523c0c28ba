import UgreenLeds.Types
import Mathlib.Logic.Function.Basic

/-!
# The in-kernel collectors

The model of `network.bpf.c` and `disk.bpf.c`.  Any number of handlers run at
once and may stall between their steps.  One step is the map lookups, the clock
reading, the spin-locked section of `account_packet`, the load of the deadline,
the compare-and-swap, or the output to the ring buffer, which here always
succeeds.  The lookup of `network_state_map` cannot fail: key zero of an array
map always exists.  The events built and the bytes accounted are recorded, which
the programs do not do.
-/

namespace UgreenLeds

/-- The directions of network traffic. -/
inductive Direction where
  | rx
  | tx
  deriving DecidableEq, Repr

/-- `enum ugreen_event_kind`. -/
def eventNetwork : UInt16 := 1
def eventDisk : UInt16 := 2

/-- `struct ugreen_led_event`. -/
structure LedEvent where
  timestampNs : UInt64
  firstBytes : UInt64
  secondBytes : UInt64
  source : UInt32
  kind : UInt16
  ledId : UInt8
  deriving DecidableEq, Repr

/-- `struct ugreen_bpf_config`. -/
structure BpfConfig where
  networkIntervalNs : UInt64
  diskIntervalNs : UInt64
  deriving DecidableEq, Repr

/-- `DEFAULT_INTERVAL_NS`. -/
def defaultIntervalNs : UInt64 := 100000000

/-- The configured interval if there is one and it is not zero. -/
def chosenInterval (configured : Option UInt64) : UInt64 :=
  match configured with
  | none =>
      defaultIntervalNs
  | some interval =>
      if interval = 0 then defaultIntervalNs else interval

/-- The interval between two events of the network state. -/
def networkInterval (config : Option BpfConfig) : UInt64 :=
  chosenInterval (config.map BpfConfig.networkIntervalNs)

/-- The interval between two events of a disk. -/
def diskInterval (config : Option BpfConfig) : UInt64 :=
  chosenInterval (config.map BpfConfig.diskIntervalNs)

/-- `struct network_state`. -/
structure NetworkState where
  rxBytes : UInt64
  txBytes : UInt64
  nextEmitNs : UInt64
  deriving DecidableEq, Repr

/-- The fields of `struct __sk_buff` that `account_packet` reads. -/
structure Packet where
  direction : Direction
  len : UInt32
  ifindex : UInt32
  deriving DecidableEq, Repr

/-- The state once the bytes of a packet are added. -/
def NetworkState.add
    (state : NetworkState)
    (packet : Packet) : NetworkState :=
  match packet.direction with
  | .rx =>
      { state with rxBytes := state.rxBytes + packet.len.toUInt64 }
  | .tx =>
      { state with txBytes := state.txBytes + packet.len.toUInt64 }

/-- A running handler, by the step it has reached. -/
inductive Handler where
  | packetArrived (packet : Packet)
  | packetClocked (packet : Packet) (now : UInt64)
  | requestIssued (dev : UInt32)
  | requestMapped (dev ledId : UInt32)
  | requestClocked (dev ledId : UInt32) (now : UInt64)
  | requestLoaded (dev ledId : UInt32) (now oldDeadline : UInt64)
  | emitting (event : LedEvent)
  | returned
  deriving DecidableEq, Repr

/-- The maps of the BPF object and the handlers running over them. -/
structure Collectors where
  config : Option BpfConfig
  networkState : NetworkState
  diskTargets : UInt32 → Option UInt32
  /-- `disk_states`, whose only field is `next_emit_ns`. -/
  diskStates : UInt32 → Option UInt64
  handlers : List Handler
  /-- What the ring buffer holds, oldest first. -/
  ring : List LedEvent
  /-- Every event built so far with its handler, in the order of building. -/
  emitted : List (Nat × LedEvent)
  /-- The lengths of all packets accounted so far. -/
  accounted : Direction → Nat

namespace Collectors

/-- The maps as the daemon leaves them before any handler runs. -/
def fresh
    (config : Option BpfConfig)
    (diskTargets : UInt32 → Option UInt32)
    (tracked : UInt32 → Bool) : Collectors where
  config
  networkState := ⟨0, 0, 0⟩
  diskTargets
  diskStates := fun dev => if tracked dev then some 0 else none
  handlers := []
  ring := []
  emitted := []
  accounted := fun _ => 0

/-- Move a handler on. -/
def setHandler
    (collectors : Collectors)
    (index : Nat)
    (handler : Handler) : Collectors :=
  { collectors with handlers := collectors.handlers.set index handler }

/-- The spin-locked section of `account_packet`. -/
def lockedSection
    (interval : UInt64)
    (state : NetworkState)
    (packet : Packet)
    (now : UInt64) : NetworkState × Option LedEvent :=
  let state := state.add packet
  if state.nextEmitNs = 0 ∨ now ≥ state.nextEmitNs then
    ({ rxBytes := 0, txBytes := 0, nextEmitNs := now + interval },
      some
        { timestampNs := now
          firstBytes := state.rxBytes
          secondBytes := state.txBytes
          source := packet.ifindex
          kind := eventNetwork
          ledId := 0 })
  else
    (state, none)

/-- The locked step of a packet's handler. -/
def lock
    (collectors : Collectors)
    (index : Nat)
    (packet : Packet)
    (now : UInt64) : Collectors :=
  let accounted :=
    Function.update collectors.accounted packet.direction
      (collectors.accounted packet.direction + packet.len.toNat)
  match lockedSection (networkInterval collectors.config)
      collectors.networkState packet now with
  | (networkState, none) =>
      { collectors with networkState, accounted }.setHandler index
        .returned
  | (networkState, some event) =>
      { collectors with
        networkState
        accounted
        emitted := collectors.emitted ++ [(index, event)] }.setHandler
          index (.emitting event)

/-- The event a request's handler builds. -/
def diskEvent (dev ledId : UInt32) (now : UInt64) : LedEvent where
  timestampNs := now
  firstBytes := 0
  secondBytes := 0
  source := dev
  kind := eventDisk
  ledId := ledId.toUInt8

/-- The check of the loaded deadline and the compare-and-swap. -/
def swap
    (collectors : Collectors)
    (index : Nat)
    (dev ledId : UInt32)
    (now oldDeadline : UInt64) : Collectors :=
  if (oldDeadline = 0 ∨ now ≥ oldDeadline) ∧
      collectors.diskStates dev = some oldDeadline then
    { collectors with
      diskStates :=
        Function.update collectors.diskStates dev
          (some (now + diskInterval collectors.config))
      emitted :=
        collectors.emitted ++
          [(index, diskEvent dev ledId now)] }.setHandler index
        (.emitting (diskEvent dev ledId now))
  else
    collectors.setHandler index .returned

/-- The next step of a handler; `clock` is read if the step reads the clock. -/
def advance
    (collectors : Collectors)
    (index : Nat)
    (clock : UInt64) : Option Collectors :=
  match collectors.handlers[index]? with
  | none | some .returned =>
      none
  | some (.packetArrived packet) =>
      some (collectors.setHandler index (.packetClocked packet clock))
  | some (.packetClocked packet now) =>
      some (collectors.lock index packet now)
  | some (.requestIssued dev) =>
      match collectors.diskTargets dev, collectors.diskStates dev with
      | some ledId, some _ =>
          some (collectors.setHandler index (.requestMapped dev ledId))
      | _, _ =>
          some (collectors.setHandler index .returned)
  | some (.requestMapped dev ledId) =>
      some
        (collectors.setHandler index (.requestClocked dev ledId clock))
  | some (.requestClocked dev ledId now) =>
      match collectors.diskStates dev with
      | none =>
          none
      | some oldDeadline =>
          some
            (collectors.setHandler index
              (.requestLoaded dev ledId now oldDeadline))
  | some (.requestLoaded dev ledId now oldDeadline) =>
      some (collectors.swap index dev ledId now oldDeadline)
  | some (.emitting event) =>
      some
        ({ collectors with ring := collectors.ring ++ [event] }.setHandler
          index .returned)

/-- A packet passes, a request is issued, or a handler takes its next step. -/
inductive Action where
  | packet (packet : Packet)
  | request (dev : UInt32)
  | advance (handler : Nat) (clock : UInt64)
  deriving DecidableEq, Repr

/-- One action as a step of a run. -/
def step
    (collectors : Collectors) :
    Action → Option Collectors
  | .packet packet =>
      some
        { collectors with
          handlers := collectors.handlers ++ [.packetArrived packet] }
  | .request dev =>
      some
        { collectors with
          handlers := collectors.handlers ++ [.requestIssued dev] }
  | .advance handler clock =>
      collectors.advance handler clock

end Collectors

end UgreenLeds
