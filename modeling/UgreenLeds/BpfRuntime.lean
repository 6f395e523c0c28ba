import UgreenLeds.DiskLed
import Mathlib.Data.List.AList

/-!
# The disk maps of the BPF object

The model of the parts of `bpf_runtime.c` that fill `disk_targets` and
`disk_states`, and of `disk_leds_sync_bpf`, which calls them.  The kernel decides
which key comes first in a map and which calls fail.  The tracepoint program
runs whenever the daemon is between two calls: it adds and removes no entry, but
it stores deadlines into the entries of `disk_states`.  Both maps are part of the
object, so looking them up by name succeeds.
-/

namespace UgreenLeds

/-- The two hash maps that the daemon fills. -/
inductive DiskMap where
  | targets
  | states
  deriving DecidableEq, Repr

/-- What a map holds for a device: an LED identifier, or `next_emit_ns`. -/
abbrev DiskMap.Value : DiskMap → Type
  | .targets => UInt32
  | .states => UInt64

/-- The contents of both maps, by device. -/
abbrev DiskMaps :=
  (map : DiskMap) → AList fun _ : UInt32 => map.Value

/-- `max_entries` of both maps. -/
def diskMapEntries : Nat := 8

/-- What the kernel decides at each call of the daemon. -/
structure MapScript where
  /-- The position of the key that `bpf_map_get_next_key` returns first. -/
  first : Nat → Nat
  updateFails : Nat → Option Errno
  deleteFails : Nat → Option Errno
  /-- The deadlines that the tracepoint program stores after a call. -/
  stores : Nat → List (UInt32 × UInt64)
  /-- Only an absent key makes a deletion fail with `ENOENT`. -/
  deleteFails_ne : ∀ call, deleteFails call ≠ some .enoent

/-- The maps, with what has happened to them so far. -/
structure BpfRuntime where
  maps : DiskMaps
  calls : Nat
  /-- The contents after every single change. -/
  history : List DiskMaps
  /-- The number of entries a map held at each attempted update. -/
  attempts : List Nat
  /-- The deadlines stored by the tracepoint program. -/
  stored : List (UInt32 × UInt64)

namespace BpfRuntime

/-- A runtime whose maps nobody has changed yet. -/
def started (maps : DiskMaps) : BpfRuntime where
  maps
  calls := 0
  history := []
  attempts := []
  stored := []

/-- Change one of the maps. -/
def change
    (runtime : BpfRuntime)
    (map : DiskMap)
    (contents : AList fun _ : UInt32 => map.Value) : BpfRuntime :=
  { runtime with
    maps := Function.update runtime.maps map contents
    history :=
      runtime.history ++ [Function.update runtime.maps map contents] }

/-- The tracepoint program stores a deadline into an entry that exists. -/
def store
    (runtime : BpfRuntime)
    (entry : UInt32 × UInt64) : BpfRuntime :=
  if entry.1 ∈ runtime.maps .states then
    { runtime with stored := runtime.stored ++ [entry] }.change .states
      ((runtime.maps .states).insert entry.1 entry.2)
  else
    runtime

/-- A call returns, and the tracepoint program runs before the next one. -/
def endCall
    (script : MapScript)
    (runtime : BpfRuntime) : BpfRuntime :=
  (script.stores runtime.calls).foldl store
    { runtime with calls := runtime.calls + 1 }

/-- `bpf_map_get_next_key` with no previous key. -/
def firstKey?
    (script : MapScript)
    (runtime : BpfRuntime)
    (map : DiskMap) : Option UInt32 :=
  let keys := (runtime.maps map).keys
  keys[script.first runtime.calls % keys.length]?

/-- Count an attempt to update a map. -/
def attempt
    (runtime : BpfRuntime)
    (map : DiskMap) : BpfRuntime :=
  { runtime with
    attempts := runtime.attempts ++ [(runtime.maps map).keys.length] }

/-- `bpf_map_update_elem` with `BPF_ANY`. -/
def updateElem
    (script : MapScript)
    (runtime : BpfRuntime)
    (map : DiskMap)
    (key : UInt32)
    (value : map.Value) : Status × BpfRuntime :=
  let contents := runtime.maps map
  let attempted := runtime.attempt map
  match script.updateFails runtime.calls with
  | some error =>
      (.error error, attempted.endCall script)
  | none =>
      if key ∉ contents ∧ diskMapEntries ≤ contents.keys.length then
        (.error .e2big, attempted.endCall script)
      else
        (.ok (),
          (attempted.change map (contents.insert key value)).endCall
            script)

/-- `bpf_map_delete_elem`. -/
def deleteElem
    (script : MapScript)
    (runtime : BpfRuntime)
    (map : DiskMap)
    (key : UInt32) : Status × BpfRuntime :=
  if key ∈ runtime.maps map then
    match script.deleteFails runtime.calls with
    | some error =>
        (.error error, runtime.endCall script)
    | none =>
        (.ok (),
          (runtime.change map ((runtime.maps map).erase key)).endCall
            script)
  else
    (.error .enoent, runtime.endCall script)

/-- `clear_map`; `none` when its loop has not ended within the fuel. -/
def clearMap
    (script : MapScript)
    (map : DiskMap) :
    Nat → BpfRuntime → Option (Status × BpfRuntime)
  | 0, _ => none
  | fuel + 1, runtime =>
      match runtime.firstKey? script map with
      | none =>
          some (.ok (), runtime)
      | some key =>
          match runtime.deleteElem script map key with
          | (.ok (), deleted) =>
              clearMap script map fuel deleted
          | (.error error, kept) =>
              if error ≠ .enoent then
                some (.error error, kept)
              else
                clearMap script map fuel kept

/-- `bpf_runtime_clear_disk_targets`. -/
def clearDiskTargets
    (script : MapScript)
    (fuel : Nat)
    (runtime : BpfRuntime) : Option (Status × BpfRuntime) :=
  match clearMap script .targets fuel runtime with
  | none =>
      none
  | some (.error error, kept) =>
      some (.error error, kept)
  | some (.ok (), untargeted) =>
      clearMap script .states fuel untargeted

/-- `bpf_runtime_set_disk_target`. -/
def setDiskTarget
    (script : MapScript)
    (runtime : BpfRuntime)
    (dev : UInt32)
    (ledId : UInt8) : Status × BpfRuntime :=
  match runtime.updateElem script .states dev 0 with
  | (.error error, kept) =>
      (.error error, kept)
  | (.ok (), tracked) =>
      match tracked.updateElem script .targets dev ledId.toUInt32 with
      | (.error error, kept) =>
          (.error error, (kept.deleteElem script .states dev).2)
      | (.ok (), targeted) =>
          (.ok (), targeted)

end BpfRuntime

namespace DiskLeds

/-- The loop of `disk_leds_sync_bpf`, over the bays it has yet to visit. -/
def syncSlots
    (script : MapScript)
    (disks : DiskLeds) :
    List DiskIndex → BpfRuntime → Status × BpfRuntime
  | [], runtime =>
      (.ok (), runtime)
  | index :: rest, runtime =>
      if !(disks.slots index).present then
        syncSlots script disks rest runtime
      else
        match runtime.setDiskTarget script (disks.slots index).dev
            (disks.slots index).ledId with
        | (.error error, failed) =>
            (.error error, failed)
        | (.ok (), targeted) =>
            syncSlots script disks rest targeted

/-- `disk_leds_sync_bpf`; `none` when a clearing loop runs out of fuel. -/
def syncBpf
    (script : MapScript)
    (fuel : Nat)
    (disks : DiskLeds)
    (runtime : BpfRuntime) : Option (Status × BpfRuntime) :=
  match runtime.clearDiskTargets script fuel with
  | none =>
      none
  | some (.error error, kept) =>
      some (.error error, kept)
  | some (.ok (), cleared) =>
      some (syncSlots script disks disks.bays cleared)

end DiskLeds

end UgreenLeds
