import UgreenLeds.BpfRuntime

/-!
# The disk maps mirror the slot table

The tracepoint program needs a state for every target it finds.  The daemon
keeps that true at every single change: it clears the targets before the states,
fills in a state before its target, and takes the state back when the target
cannot be stored.  When a sync succeeds, both maps hold exactly the devices of
the present slots.
-/

namespace UgreenLeds

/-- Every device with a target has a state. -/
def DiskMaps.Tracked (maps : DiskMaps) : Prop :=
  ∀ dev, dev ∈ maps .targets → dev ∈ maps .states

namespace BpfRuntime

variable
  (script : MapScript)
  {runtime : BpfRuntime}

/-- What holds however far a sync gets. -/
structure Sound (runtime : BpfRuntime) : Prop where
  tracked : runtime.maps.Tracked
  history : ∀ maps ∈ runtime.history, maps.Tracked
  attempts : ∀ size ∈ runtime.attempts, size < diskMapEntries

/-- Every deadline comes from the tracepoint program or is still zero. -/
def Zeroed (runtime : BpfRuntime) : Prop :=
  ∀ dev next, (runtime.maps .states).lookup dev = some next →
    next = 0 ∨ (dev, next) ∈ runtime.stored

section Changes

@[simp] theorem change_self
    (map : DiskMap)
    (contents : AList fun _ : UInt32 => map.Value) :
    (runtime.change map contents).maps map = contents := by
  unfold change
  exact Function.update_self map _ runtime.maps

theorem change_of_ne
    {map other : DiskMap}
    (different : other ≠ map)
    (contents : AList fun _ : UInt32 => map.Value) :
    (runtime.change map contents).maps other = runtime.maps other := by
  unfold change
  exact Function.update_of_ne different _ runtime.maps

/-- A change keeps the runtime sound if it keeps the devices tracked. -/
theorem Sound.change
    (sound : runtime.Sound)
    (map : DiskMap)
    (contents : AList fun _ : UInt32 => map.Value)
    (tracked : (runtime.change map contents).maps.Tracked) :
    (runtime.change map contents).Sound where
  tracked
  history := by
    intro maps member
    simp only [BpfRuntime.change, List.mem_append,
      List.mem_singleton] at member
    rcases member with earlier | latest
    · exact sound.history maps earlier
    · rw [latest]
      exact tracked
  attempts := sound.attempts

/-- Counting an attempt on a map with room keeps the runtime sound. -/
theorem Sound.attempt
    (sound : runtime.Sound)
    {map : DiskMap}
    (room : (runtime.maps map).keys.length < diskMapEntries) :
    (runtime.attempt map).Sound where
  tracked := sound.tracked
  history := sound.history
  attempts := by
    intro size member
    simp only [BpfRuntime.attempt, List.mem_append,
      List.mem_singleton] at member
    rcases member with earlier | latest
    · exact sound.attempts size earlier
    · rw [latest]
      exact room

end Changes

section Tracepoint

/-- What each store of the tracepoint program keeps, a call's end keeps. -/
theorem endCall_invariant
    (Kept : BpfRuntime → Prop)
    (counted :
      ∀ runtime calls, Kept runtime → Kept { runtime with calls })
    (stored : ∀ runtime entry, Kept runtime → Kept (runtime.store entry))
    (kept : Kept runtime) :
    Kept (runtime.endCall script) :=
  List.foldlRecOn _ _ (counted runtime _ kept)
    fun before keptBefore entry _ => stored before entry keptBefore

/-- A store leaves the targets alone. -/
@[simp] theorem store_targets (entry : UInt32 × UInt64) :
    (runtime.store entry).maps .targets = runtime.maps .targets := by
  unfold store
  split
  · rw [change_of_ne (by decide)]
  · rfl

/-- A store adds and removes no state. -/
@[simp] theorem mem_store_states
    (entry : UInt32 × UInt64)
    {dev : UInt32} :
    dev ∈ (runtime.store entry).maps .states ↔
      dev ∈ runtime.maps .states := by
  unfold store
  split
  · rename_i present
    rw [change_self, AList.mem_insert]
    refine ⟨?_, Or.inr⟩
    rintro (same | member)
    · rw [same]
      exact present
    · exact member
  · exact Iff.rfl

/-- A store keeps the runtime sound. -/
theorem Sound.store
    (sound : runtime.Sound)
    (entry : UInt32 × UInt64) :
    (runtime.store entry).Sound := by
  have tracked : (runtime.store entry).maps.Tracked := by
    intro dev
    rw [store_targets, mem_store_states]
    exact sound.tracked dev
  unfold BpfRuntime.store at tracked ⊢
  split at tracked
  · rename_i present
    rw [if_pos present]
    have recorded :
        ({ runtime with stored := runtime.stored ++ [entry] } :
          BpfRuntime).Sound :=
      ⟨sound.tracked, sound.history, sound.attempts⟩
    exact recorded.change _ _ tracked
  · rename_i absent
    rw [if_neg absent]
    exact sound

/-- A store is recorded. -/
theorem Zeroed.store
    (zeroed : runtime.Zeroed)
    (entry : UInt32 × UInt64) :
    (runtime.store entry).Zeroed := by
  unfold BpfRuntime.store
  split
  · intro dev next found
    rw [change_self] at found
    by_cases same : dev = entry.1
    · rw [same, AList.lookup_insert] at found
      right
      simp only [BpfRuntime.change, List.mem_append,
        List.mem_singleton]
      right
      rw [same, ← Option.some.inj found]
    · rw [AList.lookup_insert_ne same] at found
      rcases zeroed dev next found with zero | stored
      · exact Or.inl zero
      · right
        simp only [BpfRuntime.change, List.mem_append]
        exact Or.inl stored
  · exact zeroed

/-- The tracepoint program leaves the targets alone. -/
@[simp] theorem endCall_targets :
    (runtime.endCall script).maps .targets = runtime.maps .targets :=
  endCall_invariant script
    (fun after => after.maps .targets = runtime.maps .targets)
    (fun _ _ kept => kept)
    (fun _ entry kept => (store_targets entry).trans kept) rfl

/-- The tracepoint program adds and removes no entry. -/
@[simp] theorem mem_endCall
    {map : DiskMap}
    {dev : UInt32} :
    dev ∈ (runtime.endCall script).maps map ↔ dev ∈ runtime.maps map := by
  cases map with
  | targets =>
      rw [endCall_targets]
  | states =>
      exact
        endCall_invariant script
          (fun after =>
            dev ∈ after.maps .states ↔ dev ∈ runtime.maps .states)
          (fun _ _ kept => kept)
          (fun _ entry kept => (mem_store_states entry).trans kept)
          Iff.rfl

/-- The end of a call keeps the runtime sound. -/
theorem Sound.endCall (sound : runtime.Sound) :
    (runtime.endCall script).Sound :=
  endCall_invariant script Sound
    (fun _ _ before => ⟨before.tracked, before.history, before.attempts⟩)
    (fun _ entry before => before.store entry) sound

/-- The end of a call leaves no unexplained deadline. -/
theorem Zeroed.endCall (zeroed : runtime.Zeroed) :
    (runtime.endCall script).Zeroed :=
  endCall_invariant script Zeroed (fun _ _ before => before)
    (fun _ entry before => before.store entry) zeroed

end Tracepoint

section Calls

/-- A failed deletion changes nothing, and `ENOENT` means an absent key. -/
theorem deleteElem_cases
    (map : DiskMap)
    (key : UInt32) :
    (∃ error,
      runtime.deleteElem script map key =
          (.error error, runtime.endCall script) ∧
        (error = .enoent → key ∉ runtime.maps map)) ∨
      runtime.deleteElem script map key =
        (.ok (),
          (runtime.change map ((runtime.maps map).erase key)).endCall
            script) := by
  unfold deleteElem
  split
  · cases fails : script.deleteFails runtime.calls with
    | some error =>
        refine Or.inl ⟨error, rfl, ?_⟩
        intro missing
        rw [missing] at fails
        exact absurd fails (script.deleteFails_ne runtime.calls)
    | none =>
        exact Or.inr rfl
  · rename_i absent
    exact Or.inl ⟨.enoent, rfl, fun _ => absent⟩

/-- A failed update changes nothing. -/
theorem updateElem_cases
    (map : DiskMap)
    (key : UInt32)
    (value : map.Value) :
    (∃ error,
      runtime.updateElem script map key value =
        (.error error, (runtime.attempt map).endCall script)) ∨
      runtime.updateElem script map key value =
        (.ok (),
          ((runtime.attempt map).change map
            ((runtime.maps map).insert key value)).endCall script) := by
  unfold updateElem
  cases script.updateFails runtime.calls with
  | some error =>
      exact Or.inl ⟨error, rfl⟩
  | none =>
      simp only
      split
      · exact Or.inl ⟨.e2big, rfl⟩
      · exact Or.inr rfl

/-- Looking for the first key fails only on an empty map. -/
theorem notMem_of_firstKey?_eq_none
    {map : DiskMap}
    (empty : runtime.firstKey? script map = none)
    (dev : UInt32) :
    dev ∉ runtime.maps map := by
  intro member
  have positive : 0 < (runtime.maps map).keys.length :=
    List.length_pos_of_mem (AList.mem_keys.mp member)
  unfold firstKey? at empty
  rw [List.getElem?_eq_none_iff] at empty
  exact absurd (Nat.mod_lt _ positive) (Nat.not_lt.mpr empty)

/-- The first key is a key. -/
theorem mem_of_firstKey?
    {map : DiskMap}
    {key : UInt32}
    (found : runtime.firstKey? script map = some key) :
    key ∈ runtime.maps map :=
  AList.mem_keys.mpr (List.mem_of_getElem? found)

/-- Dropping an entry is sound, but a state only once its target is gone. -/
theorem Sound.erase
    (sound : runtime.Sound)
    (map : DiskMap)
    {key : UInt32}
    (untargeted : map = .states → key ∉ runtime.maps .targets) :
    (runtime.change map ((runtime.maps map).erase key)).Sound := by
  apply sound.change
  intro dev targeted
  cases map with
  | targets =>
      rw [change_self, AList.mem_erase] at targeted
      rw [change_of_ne (by decide)]
      exact sound.tracked dev targeted.2
  | states =>
      rw [change_of_ne (by decide)] at targeted
      rw [change_self, AList.mem_erase]
      refine ⟨?_, sound.tracked dev targeted⟩
      intro same
      rw [same] at targeted
      exact untargeted rfl targeted

/-- The same holds of the call that drops it. -/
theorem Sound.deleteElem
    (sound : runtime.Sound)
    (map : DiskMap)
    {key : UInt32}
    (untargeted : map = .states → key ∉ runtime.maps .targets) :
    (runtime.deleteElem script map key).2.Sound := by
  rcases runtime.deleteElem_cases script map key with
    ⟨error, failed, -⟩ | deleted
  · rw [failed]
    exact sound.endCall script
  · rw [deleted]
    exact (sound.erase map untargeted).endCall script

/-- Adding an entry is sound, but a target only where there is a state. -/
theorem Sound.insert
    (sound : runtime.Sound)
    (map : DiskMap)
    {key : UInt32}
    (value : map.Value)
    (hasState : map = .targets → key ∈ runtime.maps .states) :
    (runtime.change map ((runtime.maps map).insert key value)).Sound := by
  apply sound.change
  intro dev targeted
  cases map with
  | targets =>
      rw [change_self, AList.mem_insert] at targeted
      rw [change_of_ne (by decide)]
      rcases targeted with same | earlier
      · rw [same]
        exact hasState rfl
      · exact sound.tracked dev earlier
  | states =>
      rw [change_of_ne (by decide)] at targeted
      rw [change_self, AList.mem_insert]
      exact Or.inr (sound.tracked dev targeted)

/-- The call that adds an entry to a map with room is sound likewise. -/
theorem Sound.updateElem
    (sound : runtime.Sound)
    (map : DiskMap)
    (key : UInt32)
    (value : map.Value)
    (hasState : map = .targets → key ∈ runtime.maps .states)
    (room : (runtime.maps map).keys.length < diskMapEntries) :
    (runtime.updateElem script map key value).2.Sound := by
  have attempted := sound.attempt room
  rcases runtime.updateElem_cases script map key value with
    ⟨error, failed⟩ | updated
  · rw [failed]
    exact attempted.endCall script
  · rw [updated]
    exact (attempted.insert map value hasState).endCall script

end Calls

section Clearing

/-- What a clearing loop leaves. -/
structure Cleared
    (map : DiskMap)
    (before : BpfRuntime)
    (status : Status)
    (after : BpfRuntime) : Prop where
  sound : after.Sound
  others :
    ∀ other, other ≠ map →
      ∀ dev, dev ∈ after.maps other ↔ dev ∈ before.maps other
  empty : status = .ok () → ∀ dev, dev ∉ after.maps map

/-- A map without one of its keys has fewer keys. -/
theorem length_keys_lt
    {map : DiskMap}
    {before after : DiskMaps}
    {key : UInt32}
    (member : key ∈ before map)
    (removed : ∀ dev, dev ∈ after map ↔ dev ≠ key ∧ dev ∈ before map) :
    (after map).keys.length < (before map).keys.length := by
  have distinct : (key :: (after map).keys).Nodup := by
    rw [List.nodup_cons]
    refine ⟨?_, (after map).keys_nodup⟩
    intro kept
    exact ((removed key).mp (AList.mem_keys.mpr kept)).1 rfl
  have smaller : key :: (after map).keys ⊆ (before map).keys := by
    intro dev among
    rcases List.mem_cons.mp among with same | kept
    · rw [same]
      exact AList.mem_keys.mp member
    · exact
        AList.mem_keys.mp ((removed dev).mp (AList.mem_keys.mpr kept)).2
  exact (distinct.subperm smaller).length_le

/-- A deletion drops its key from its map. -/
theorem mem_deleted
    {map : DiskMap}
    {key dev : UInt32} :
    dev ∈ ((runtime.change map
        ((runtime.maps map).erase key)).endCall script).maps map ↔
      dev ≠ key ∧ dev ∈ runtime.maps map := by
  rw [mem_endCall, change_self, AList.mem_erase]

/-- A deletion leaves the other map alone. -/
theorem mem_deleted_of_ne
    {map other : DiskMap}
    (different : other ≠ map)
    {key dev : UInt32} :
    dev ∈ ((runtime.change map
        ((runtime.maps map).erase key)).endCall script).maps other ↔
      dev ∈ runtime.maps other := by
  rw [mem_endCall, change_of_ne different]

/-- `clear_map` ends: every deletion either stops it or drops a key. -/
theorem clearMap_cleared
    {map : DiskMap}
    {fuel : Nat}
    (enough : (runtime.maps map).keys.length < fuel)
    (sound : runtime.Sound)
    (untargeted :
      map = .states → ∀ dev, dev ∉ runtime.maps .targets) :
    ∃ status after,
      clearMap script map fuel runtime = some (status, after) ∧
        Cleared map runtime status after := by
  induction fuel generalizing runtime with
  | zero =>
      exact (Nat.not_lt_zero _ enough).elim
  | succ fuel inductionHypothesis =>
      unfold clearMap
      cases found : runtime.firstKey? script map with
      | none =>
          exact
            ⟨.ok (), runtime, rfl, sound, fun _ _ _ => Iff.rfl,
              fun _ => notMem_of_firstKey?_eq_none script found⟩
      | some key =>
          have member := mem_of_firstKey? script found
          have deletedSound :=
            sound.deleteElem script map
              fun isStates => untargeted isStates key
          rcases runtime.deleteElem_cases script map key with
            ⟨error, failed, missing⟩ | deleted
          · rw [failed] at deletedSound
            have reported : error ≠ .enoent :=
              fun absent => missing absent member
            refine
              ⟨.error error, runtime.endCall script, ?_, deletedSound,
                ?_, ?_⟩
            · simp only [failed, ne_eq, reported, not_false_eq_true,
                ↓reduceIte]
            · exact fun _ _ _ => mem_endCall script
            · exact fun succeeds => nomatch succeeds
          · rw [deleted] at deletedSound
            have shorter :=
              length_keys_lt member fun dev =>
                mem_deleted script
            obtain ⟨status, after, ends, cleared⟩ :=
              inductionHypothesis
                (Nat.lt_of_lt_of_le shorter (Nat.le_of_lt_succ enough))
                deletedSound
                (fun isStates dev =>
                  mt (mem_deleted_of_ne script
                    (isStates ▸ by decide)).mp
                    (untargeted isStates dev))
            refine
              ⟨status, after, ?_, cleared.sound, ?_, cleared.empty⟩
            · simp only [deleted]
              exact ends
            · intro other different dev
              rw [cleared.others other different]
              exact mem_deleted_of_ne script different

/-- `bpf_runtime_clear_disk_targets` ends and, on success, empties both maps. -/
theorem clearDiskTargets_cleared
    {fuel : Nat}
    (enough : ∀ map, (runtime.maps map).keys.length < fuel)
    (sound : runtime.Sound) :
    ∃ status after,
      runtime.clearDiskTargets script fuel = some (status, after) ∧
        after.Sound ∧
        (status = .ok () → ∀ map dev, dev ∉ after.maps map) := by
  obtain ⟨status, untargeted, targetsEnd, targetsCleared⟩ :=
    clearMap_cleared script (enough .targets) sound
      fun isStates => nomatch isStates
  cases status with
  | error error =>
      refine ⟨.error error, untargeted, ?_, targetsCleared.sound, ?_⟩
      · simp only [clearDiskTargets, targetsEnd]
      · exact fun succeeds => nomatch succeeds
  | ok done =>
      have sameStates :=
        targetsCleared.others .states (by decide)
      have stillEnough :
          (untargeted.maps .states).keys.length < fuel :=
        Nat.lt_of_le_of_lt
          (((untargeted.maps .states).keys_nodup.subperm
            fun dev among =>
              AList.mem_keys.mp
                ((sameStates dev).mp
                  (AList.mem_keys.mpr among))).length_le)
          (enough .states)
      obtain ⟨status, after, statesEnd, statesCleared⟩ :=
        clearMap_cleared script stillEnough targetsCleared.sound
          fun _ => targetsCleared.empty rfl
      refine ⟨status, after, ?_, statesCleared.sound, ?_⟩
      · simp only [clearDiskTargets, targetsEnd]
        exact statesEnd
      · intro succeeds map
        cases map with
        | targets =>
            intro dev
            rw [statesCleared.others .targets (by decide) dev]
            exact targetsCleared.empty rfl dev
        | states =>
            exact statesCleared.empty succeeds

end Clearing

section Filling

/-- What `bpf_runtime_set_disk_target` leaves when it succeeds. -/
structure Targeted
    (dev : UInt32)
    (ledId : UInt8)
    (before after : BpfRuntime) : Prop where
  targets :
    after.maps .targets =
      (before.maps .targets).insert dev ledId.toUInt32
  states :
    ∀ other, other ∈ after.maps .states ↔
      other = dev ∨ other ∈ before.maps .states
  zeroed : before.Zeroed → after.Zeroed

/-- Filling in a zero deadline leaves no unexplained deadline. -/
theorem Zeroed.insert
    (zeroed : runtime.Zeroed)
    (dev : UInt32) :
    (runtime.change .states
      ((runtime.maps .states).insert dev 0)).Zeroed := by
  intro other next found
  rw [change_self] at found
  by_cases same : other = dev
  · rw [same, AList.lookup_insert] at found
    exact Or.inl (Option.some.inj found).symm
  · rw [AList.lookup_insert_ne same] at found
    exact zeroed other next found

/-- A new state is the only thing that its insertion changes. -/
theorem updateElem_states
    {dev : UInt32}
    {tracked : BpfRuntime}
    (updated :
      runtime.updateElem script .states dev 0 = (.ok (), tracked)) :
    tracked.maps .targets = runtime.maps .targets ∧
      (∀ other, other ∈ tracked.maps .states ↔
        other = dev ∨ other ∈ runtime.maps .states) ∧
      (runtime.Zeroed → tracked.Zeroed) := by
  rcases runtime.updateElem_cases script .states dev 0 with
    ⟨error, failed⟩ | inserted
  · rw [failed] at updated
    cases updated
  · rw [inserted] at updated
    obtain rfl := (Prod.mk.inj updated).2
    refine ⟨?_, ?_, ?_⟩
    · rw [endCall_targets, change_of_ne (by decide)]
      rfl
    · intro other
      rw [mem_endCall, change_self, AList.mem_insert]
    · intro before
      have attempted : (runtime.attempt .states).Zeroed := before
      exact (attempted.insert dev).endCall script

/-- A new device gets a state, then a target, or neither. -/
theorem setDiskTarget_targeted
    (sound : runtime.Sound)
    {dev : UInt32}
    (new : dev ∉ runtime.maps .targets)
    (room :
      ∀ map, (runtime.maps map).keys.length < diskMapEntries)
    (ledId : UInt8) :
    (runtime.setDiskTarget script dev ledId).2.Sound ∧
      ((runtime.setDiskTarget script dev ledId).1 = .ok () →
        Targeted dev ledId runtime
          (runtime.setDiskTarget script dev ledId).2) := by
  have trackedSound :=
    sound.updateElem script .states dev 0
      (fun isTargets => nomatch isTargets) (room .states)
  rcases updated : runtime.updateElem script .states dev 0 with
    ⟨error | done, tracked⟩
  · rw [updated] at trackedSound
    simp only [setDiskTarget, updated]
    exact ⟨trackedSound, fun succeeds => nomatch succeeds⟩
  · rw [updated] at trackedSound
    simp only [setDiskTarget, updated]
    obtain ⟨sameTargets, states, zeroed⟩ :=
      updateElem_states script updated
    have targetedSound :=
      trackedSound.updateElem script .targets dev
        ledId.toUInt32 (fun _ => (states dev).mpr (Or.inl rfl))
        (sameTargets ▸ room .targets)
    rcases tracked.updateElem_cases script .targets dev
        ledId.toUInt32 with
      ⟨error, failed⟩ | targeted
    · rw [failed] at targetedSound
      simp only [failed]
      refine ⟨?_, fun succeeds => nomatch succeeds⟩
      -- The state goes again: the device has no target.
      apply targetedSound.deleteElem script .states
      intro _ stale
      rw [endCall_targets] at stale
      exact new (sameTargets ▸ stale)
    · rw [targeted] at targetedSound
      simp only [targeted]
      refine ⟨targetedSound, fun _ => ⟨?_, ?_, ?_⟩⟩
      · rw [endCall_targets, change_self, sameTargets]
      · intro other
        rw [mem_endCall, change_of_ne (by decide)]
        exact states other
      · intro before
        apply Zeroed.endCall
        intro other next found
        rw [change_of_ne (by decide)] at found
        exact zeroed before other next found

end Filling

end BpfRuntime

namespace DiskLeds

open BpfRuntime

/-- No two present slots hold the same device. -/
def DistinctDevs (disks : DiskLeds) : Prop :=
  ∀ first ∈ disks.bays, ∀ second ∈ disks.bays,
    (disks.slots first).present = true →
      (disks.slots second).present = true →
        (disks.slots first).dev = (disks.slots second).dev →
          first = second

/-- The maps hold exactly the devices that some of the bays contain. -/
structure Mirrors
    (disks : DiskLeds)
    (bays : List DiskIndex)
    (runtime : BpfRuntime) : Prop where
  targets :
    ∀ dev led, (runtime.maps .targets).lookup dev = some led ↔
      ∃ index ∈ bays, (disks.slots index).present = true ∧
        (disks.slots index).dev = dev ∧
        (disks.slots index).ledId.toUInt32 = led
  states :
    ∀ dev, dev ∈ runtime.maps .states ↔
      ∃ index ∈ bays, (disks.slots index).present = true ∧
        (disks.slots index).dev = dev
  zeroed : runtime.Zeroed

/-- Maps that mirror fewer than eight bays have room for one more. -/
theorem Mirrors.room
    {disks : DiskLeds}
    {bays : List DiskIndex}
    {runtime : BpfRuntime}
    (mirrors : Mirrors disks bays runtime)
    (few : bays.length < diskMapEntries)
    (map : DiskMap) :
    (runtime.maps map).keys.length < diskMapEntries := by
  have among :
      (runtime.maps map).keys ⊆
        bays.map fun index => (disks.slots index).dev := by
    intro dev member
    have held := AList.mem_keys.mpr member
    rw [List.mem_map]
    cases map with
    | targets =>
        obtain ⟨led, target⟩ :=
          Option.isSome_iff_exists.mp (AList.lookup_isSome.mpr held)
        obtain ⟨index, visited, -, same, -⟩ :=
          (mirrors.targets dev led).mp target
        exact ⟨index, visited, same⟩
    | states =>
        obtain ⟨index, visited, -, same⟩ :=
          (mirrors.states dev).mp held
        exact ⟨index, visited, same⟩
  have fewer :=
    ((runtime.maps map).keys_nodup.subperm among).length_le
  rw [List.length_map] at fewer
  exact Nat.lt_of_le_of_lt fewer few

/-- An empty bay adds nothing to what the maps have to hold. -/
theorem Mirrors.skip
    {disks : DiskLeds}
    {bays : List DiskIndex}
    {runtime : BpfRuntime}
    (mirrors : Mirrors disks bays runtime)
    {index : DiskIndex}
    (empty : (disks.slots index).present = false) :
    Mirrors disks (bays ++ [index]) runtime where
  targets := by
    intro dev led
    rw [mirrors.targets]
    simp [or_and_right, exists_or, empty]
  states := by
    intro dev
    rw [mirrors.states]
    simp [or_and_right, exists_or, empty]
  zeroed := mirrors.zeroed

/-- A present bay's device is added to what the maps hold. -/
theorem Mirrors.add
    {disks : DiskLeds}
    {bays : List DiskIndex}
    {before after : BpfRuntime}
    (mirrors : Mirrors disks bays before)
    {index : DiskIndex}
    (present : (disks.slots index).present = true)
    (new : (disks.slots index).dev ∉ before.maps .targets)
    (targeted :
      Targeted (disks.slots index).dev (disks.slots index).ledId before
        after) :
    Mirrors disks (bays ++ [index]) after where
  targets := by
    intro dev led
    rw [targeted.targets]
    by_cases same : dev = (disks.slots index).dev
    · rw [same, AList.lookup_insert]
      have unseen :
          ¬ ∃ other ∈ bays, (disks.slots other).present = true ∧
            (disks.slots other).dev = (disks.slots index).dev ∧
            (disks.slots other).ledId.toUInt32 = led := by
        rw [← mirrors.targets, AList.lookup_eq_none.mpr new]
        exact fun found => nomatch found
      constructor
      · intro found
        exact
          ⟨index, by simp, present, rfl, Option.some.inj found⟩
      · rintro ⟨other, visited, otherPresent, otherSame, led_⟩
        rcases List.mem_append.mp visited with earlier | latest
        · exact
            (unseen
              ⟨other, earlier, otherPresent, otherSame, led_⟩).elim
        · rw [List.mem_singleton.mp latest] at led_
          rw [led_]
    · rw [AList.lookup_insert_ne same, mirrors.targets]
      simp [or_and_right, exists_or, Ne.symm same]
  states := by
    intro dev
    rw [targeted.states, mirrors.states, or_comm]
    simp only [List.mem_append, List.mem_singleton, or_and_right,
      exists_or, exists_eq_left, present, true_and]
    rw [eq_comm]
  zeroed := targeted.zeroed mirrors.zeroed

/-- A bay that is not visited yet has a device without a target. -/
theorem Mirrors.notMem_targets
    {disks : DiskLeds}
    (distinct : disks.DistinctDevs)
    {bays rest : List DiskIndex}
    {index : DiskIndex}
    (split : bays ++ index :: rest = disks.bays)
    {runtime : BpfRuntime}
    (mirrors : Mirrors disks bays runtime)
    (present : (disks.slots index).present = true)
    (unvisited : index ∉ bays) :
    (disks.slots index).dev ∉ runtime.maps .targets := by
  intro held
  obtain ⟨led, target⟩ :=
    Option.isSome_iff_exists.mp (AList.lookup_isSome.mpr held)
  obtain ⟨other, visited, otherPresent, same, -⟩ :=
    (mirrors.targets _ led).mp target
  have sameBay :=
    distinct other (split ▸ List.mem_append_left _ visited) index
      (split ▸ by simp) otherPresent present same
  exact unvisited (sameBay ▸ visited)

/-- The loop over the bays keeps the maps sound and, on success, fills them. -/
theorem syncSlots_mirrors
    (script : MapScript)
    {disks : DiskLeds}
    (distinct : disks.DistinctDevs)
    (bays rest : List DiskIndex)
    (split : bays ++ rest = disks.bays)
    {runtime : BpfRuntime}
    (sound : runtime.Sound)
    (mirrors : Mirrors disks bays runtime) :
    (syncSlots script disks rest runtime).2.Sound ∧
      ((syncSlots script disks rest runtime).1 = .ok () →
        Mirrors disks disks.bays
          (syncSlots script disks rest runtime).2) := by
  induction rest generalizing bays runtime with
  | nil =>
      rw [List.append_nil] at split
      exact ⟨sound, fun _ => split ▸ mirrors⟩
  | cons index rest inductionHypothesis =>
      have splitNext : (bays ++ [index]) ++ rest = disks.bays := by
        rw [List.append_assoc]
        exact split
      unfold syncSlots
      cases present : (disks.slots index).present with
      | false =>
          exact
            inductionHypothesis (bays ++ [index]) splitNext sound
              (mirrors.skip present)
      | true =>
          have nodup := disks.bays_nodup
          rw [← split, List.nodup_append] at nodup
          have unvisited : index ∉ bays := by
            intro visited
            exact nodup.2.2 index visited index (by simp) rfl
          have few : bays.length < diskMapEntries := by
            have counted := disks.bays_length_le
            rw [← split, List.length_append, List.length_cons] at counted
            simp only [diskMapEntries, diskCount] at counted ⊢
            omega
          have new :
              (disks.slots index).dev ∉ runtime.maps .targets :=
            mirrors.notMem_targets distinct split present unvisited
          have stored :=
            setDiskTarget_targeted script sound new (mirrors.room few)
              (disks.slots index).ledId
          generalize
            runtime.setDiskTarget script (disks.slots index).dev
              (disks.slots index).ledId = result at stored ⊢
          rcases result with ⟨error | done, after⟩
          · exact ⟨stored.1, fun succeeds => nomatch succeeds⟩
          · exact
              inductionHypothesis (bays ++ [index]) splitNext stored.1
                (mirrors.add present new (stored.2 rfl))

/--
`disk_leds_sync_bpf` ends, never leaves a target without a state on its way, and
never updates a full map.  When it returns `0`, the maps mirror the slot table,
and every deadline is zero unless the tracepoint program has stored it.
-/
theorem syncBpf_mirrors
    (script : MapScript)
    {fuel : Nat}
    {disks : DiskLeds}
    {maps : DiskMaps}
    (distinct : disks.DistinctDevs)
    (tracked : maps.Tracked)
    (enough : ∀ map, (maps map).keys.length < fuel) :
    ∃ status after,
      disks.syncBpf script fuel (.started maps) =
          some (status, after) ∧
        (∀ contents ∈ after.history, contents.Tracked) ∧
        (∀ size ∈ after.attempts, size < diskMapEntries) ∧
        (status = .ok () → Mirrors disks disks.bays after) := by
  have sound : (started maps).Sound :=
    ⟨tracked, by simp [started], by simp [started]⟩
  obtain ⟨status, cleared, ends, clearedSound, empty⟩ :=
    clearDiskTargets_cleared script enough sound
  cases status with
  | error error =>
      refine
        ⟨.error error, cleared, ?_, clearedSound.history,
          clearedSound.attempts, fun succeeds => nomatch succeeds⟩
      simp only [syncBpf, ends]
  | ok done =>
      have nothing : Mirrors disks [] cleared := by
        refine ⟨?_, ?_, ?_⟩
        · intro dev led
          rw [AList.lookup_eq_none.mpr (empty rfl .targets dev)]
          simp
        · intro dev
          simp [empty rfl .states dev]
        · intro dev next found
          rw [AList.lookup_eq_none.mpr (empty rfl .states dev)] at found
          cases found
      obtain ⟨filledSound, filled⟩ :=
        syncSlots_mirrors script distinct [] disks.bays rfl clearedSound
          nothing
      refine
        ⟨_, _, ?_, filledSound.history, filledSound.attempts, filled⟩
      simp only [syncBpf, ends]

/-- Disks in both bays of the smallest chassis. -/
def twoDisks : DiskLeds :=
  { zeroed (.initial fun _ => ⟨statusOff, 0, ⟨0, 0, 0⟩, 0, 0⟩)
      .defaults (ascii "DXP2800") with
    slots := foundSlot fun index =>
      if index.val < 2 then some (8388608 + 16 * index.val.toUInt32)
      else none }

/-- Maps that still hold a disk that is gone. -/
def staleMaps : DiskMaps
  | .targets => AList.singleton 8388640 4
  | .states => AList.singleton 8388640 7000000000

/-- No call fails, and a request to the first disk comes early. -/
def earlyRequest : MapScript where
  first := id
  updateFails := fun _ => none
  deleteFails := fun _ => none
  stores := fun call =>
    if call = 3 then [(8388608, 5100000000)] else []
  deleteFails_ne := fun _ fails => nomatch fails

/-- The two disks differ. -/
theorem twoDisks_distinct : twoDisks.DistinctDevs := by
  unfold DistinctDevs
  decide

/-- The stale entry is tracked. -/
theorem staleMaps_tracked : staleMaps.Tracked :=
  fun _ member => member

/-- Two entries are enough fuel for one entry. -/
theorem staleMaps_length (map : DiskMap) :
    (staleMaps map).keys.length < 2 := by
  cases map <;> decide

/-- The stale disk is replaced by the two disks. -/
theorem syncBpf_mirrors_two_disks :
    ∃ status after,
      twoDisks.syncBpf earlyRequest 2 (.started staleMaps) =
          some (status, after) ∧
        (∀ contents ∈ after.history, contents.Tracked) ∧
        (∀ size ∈ after.attempts, size < diskMapEntries) ∧
        (status = .ok () → Mirrors twoDisks twoDisks.bays after) :=
  syncBpf_mirrors earlyRequest twoDisks_distinct staleMaps_tracked
    staleMaps_length

/-- A deadline stored during the sync is still there when it returns `0`. -/
theorem early_request_remains :
    ¬ ∀ (script : MapScript)
        (fuel : Nat)
        (disks : DiskLeds)
        (maps : DiskMaps),
      disks.DistinctDevs →
      maps.Tracked →
      (∀ map, (maps map).keys.length < fuel) →
      ∃ status after,
        disks.syncBpf script fuel (.started maps) =
            some (status, after) ∧
          (∀ contents ∈ after.history, contents.Tracked) ∧
          (∀ size ∈ after.attempts, size < diskMapEntries) ∧
          (status = .ok () →
            Mirrors disks disks.bays after ∧
              ∀ dev next,
                (after.maps .states).lookup dev = some next →
                  next = 0) := by
  intro claim
  obtain ⟨status, after, ran, -, -, mirrored⟩ :=
    claim earlyRequest 2 twoDisks staleMaps twoDisks_distinct
      staleMaps_tracked staleMaps_length
  have returned :
      (twoDisks.syncBpf earlyRequest 2 (.started staleMaps)).map
          (fun result =>
            (result.1, (result.2.maps .states).lookup 8388608)) =
        some (.ok (), some 5100000000) := by
    decide +kernel
  rw [ran, Option.map_some, Option.some.injEq, Prod.mk.injEq] at returned
  have zero :=
    (mirrored returned.1).2 8388608 5100000000 returned.2
  exact absurd zero (by decide)

end DiskLeds

end UgreenLeds
