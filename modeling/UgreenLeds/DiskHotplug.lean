import UgreenLeds.DiskDiscovery
import UgreenLeds.DiskTargets
import UgreenLeds.DiskUevent

/-!
# From sysfs to the slots and the maps

A scan makes the slot table reflect the disks of sysfs, and a sync that succeeds
makes the maps of the tracepoint program serve exactly these disks.  The sync
needs no assumption for it beyond its success: disks have different numbers, and a
loop that ends does so with any amount of fuel that is larger.
-/

namespace UgreenLeds

namespace BpfRuntime

variable
  {script : MapScript}
  {runtime : BpfRuntime}
  {fuel more : Nat}
  (larger : fuel ≤ more)

include larger

/-- With more fuel, the loop over a map ends in the same way. -/
theorem clearMap_mono
    {map : DiskMap}
    {result : Status × BpfRuntime}
    (ends : clearMap script map fuel runtime = some result) :
    clearMap script map more runtime = some result := by
  induction fuel generalizing runtime more with
  | zero =>
      cases ends
  | succ fuel inductionHypothesis =>
      obtain ⟨most, rfl⟩ : ∃ most, more = most + 1 :=
        ⟨more - 1, by omega⟩
      have smaller : fuel ≤ most := by omega
      unfold clearMap at ends ⊢
      cases found : runtime.firstKey? script map with
      | none =>
          rw [found] at ends
          exact ends
      | some key =>
          rw [found] at ends
          simp only at ends ⊢
          generalize runtime.deleteElem script map key = deleted at ends ⊢
          rcases deleted with ⟨error | done, next⟩
          · simp only at ends ⊢
            by_cases reported : error ≠ .enoent
            · rw [if_pos reported] at ends ⊢
              exact ends
            · rw [if_neg reported] at ends ⊢
              exact inductionHypothesis smaller ends
          · exact inductionHypothesis smaller ends

/-- With more fuel, both maps are cleared in the same way. -/
theorem clearDiskTargets_mono
    {result : Status × BpfRuntime}
    (ends : runtime.clearDiskTargets script fuel = some result) :
    runtime.clearDiskTargets script more = some result := by
  unfold clearDiskTargets at ends ⊢
  cases first : clearMap script .targets fuel runtime with
  | none =>
      rw [first] at ends
      cases ends
  | some cleared =>
      rw [clearMap_mono larger first]
      rw [first] at ends
      rcases cleared with ⟨error | done, untargeted⟩
      · exact ends
      · exact clearMap_mono larger ends

end BpfRuntime

namespace DiskLeds

open BpfRuntime

/-- A sync that ends keeps the maps sound and, on success, fills them. -/
theorem mirrors_of_syncBpf
    {script : MapScript}
    {fuel : Nat}
    {disks : DiskLeds}
    {runtime after : BpfRuntime}
    {status : Status}
    (distinct : disks.DistinctDevs)
    (sound : runtime.Sound)
    (ends : disks.syncBpf script fuel runtime = some (status, after)) :
    after.Sound ∧
      (status = .ok () → Mirrors disks disks.bays after) := by
  let most :=
    max fuel
      (max (runtime.maps .targets).keys.length
        (runtime.maps .states).keys.length + 1)
  have enough : ∀ map, (runtime.maps map).keys.length < most := by
    intro map
    cases map <;> omega
  obtain ⟨outcome, cleared, clears, clearedSound, empty⟩ :=
    clearDiskTargets_cleared script enough sound
  unfold syncBpf at ends
  cases first : runtime.clearDiskTargets script fuel with
  | none =>
      rw [first] at ends
      cases ends
  | some result =>
      have larger : fuel ≤ most := le_max_left fuel _
      have same := clearDiskTargets_mono larger first
      rw [clears] at same
      cases same
      rw [first] at ends
      cases outcome with
      | error error =>
          cases ends
          exact ⟨clearedSound, nofun⟩
      | ok done =>
          have nothing : Mirrors disks [] cleared := by
            refine ⟨?_, ?_, ?_⟩
            · intro dev led
              rw [AList.lookup_eq_none.mpr (empty rfl .targets dev)]
              simp
            · intro dev
              simp [empty rfl .states dev]
            · intro dev next found
              rw [AList.lookup_eq_none.mpr (empty rfl .states dev)]
                at found
              cases found
          have filled :=
            syncSlots_mirrors script distinct [] disks.bays rfl
              clearedSound nothing
          have sameEnd := Option.some.inj ends
          rw [sameEnd] at filled
          exact filled

end DiskLeds

section Reflects

variable
  {settings : DiscoverySettings}
  {sysfs : Sysfs}

/-- Only bays of the chassis are occupied. -/
theorem Sysfs.occupant_counted
    {index : DiskIndex}
    {device : BlockDevice}
    (found : sysfs.occupant settings index = some device) :
    index.val < settings.slotCount := by
  have bay := (Sysfs.occupant_mem found).2
  simp only [BlockDevice.bay?, slotIndex?] at bay
  split at bay
  · rename_i inside
    cases bay
    exact inside.2
  · cases bay

namespace DiskLeds

variable {disks : DiskLeds}

/-- The slot table reflects the disks of a system. -/
structure Reflects
    (settings : DiscoverySettings)
    (sysfs : Sysfs)
    (disks : DiskLeds) : Prop where
  slotCount : disks.slotCount = settings.slotCount
  slots :
    ∀ index : DiskIndex, index.val < settings.slotCount →
      (disks.slots index).present =
          (sysfs.occupant settings index).isSome ∧
        (disks.slots index).dev =
          ((sysfs.occupant settings index).map
            BlockDevice.number).getD 0

/-- A bay that is present holds the number of its disk. -/
theorem Reflects.occupied
    (reflects : disks.Reflects settings sysfs)
    {index : DiskIndex}
    (counted : index ∈ disks.bays)
    (present : (disks.slots index).present = true) :
    ∃ device,
      sysfs.occupant settings index = some device ∧
        (disks.slots index).dev = device.number := by
  rw [mem_bays, reflects.slotCount] at counted
  obtain ⟨samePresent, sameDev⟩ := reflects.slots index counted
  rw [samePresent, Option.isSome_iff_exists] at present
  obtain ⟨device, found⟩ := present
  rw [found] at sameDev
  exact ⟨device, found, sameDev⟩

/-- No two bays that are present hold the same number. -/
theorem Reflects.distinctDevs
    (reflects : disks.Reflects settings sysfs) :
    disks.DistinctDevs := by
  intro first firstCounted second secondCounted firstPresent
    secondPresent same
  obtain ⟨one, inFirst, oneDev⟩ :=
    reflects.occupied firstCounted firstPresent
  obtain ⟨other, inSecond, otherDev⟩ :=
    reflects.occupied secondCounted secondPresent
  rw [oneDev, otherDev] at same
  exact Sysfs.occupant_inj inFirst inSecond same

/-- What keeps the bays' presence and numbers keeps the reflection. -/
theorem Reflects.of_same
    (reflects : disks.Reflects settings sysfs)
    {after : DiskLeds}
    (sameCount : after.slotCount = disks.slotCount)
    (samePresent :
      ∀ index, (after.slots index).present = (disks.slots index).present)
    (sameDev :
      ∀ index, (after.slots index).dev = (disks.slots index).dev) :
    after.Reflects settings sysfs where
  slotCount := sameCount.trans reflects.slotCount
  slots := by
    intro index counted
    rw [samePresent, sameDev]
    exact reflects.slots index counted

/-- A rescan makes the table reflect what it has found. -/
theorem rescan_reflects
    (script : Script)
    (sameCount : disks.slotCount = settings.slotCount) :
    (rescan script disks
      (discover settings (.ok sysfs.entries))).2.Reflects settings
        sysfs := by
  rw [discover_eq]
  refine ⟨?_, ?_⟩
  · rw [rescan_slotCount, sameCount]
  · intro index counted
    rw [rescan_slots, sameCount, if_pos counted]
    unfold rescanned
    split
    · rename_i same
      rw [same.1, same.2]
      simp [foundSlot]
    · simp [foundSlot]

end DiskLeds

/-- The maps of the tracepoint program serve the disks of a system. -/
structure BpfRuntime.Serves
    (settings : DiscoverySettings)
    (sysfs : Sysfs)
    (runtime : BpfRuntime) : Prop where
  targets :
    ∀ dev led, (runtime.maps .targets).lookup dev = some led ↔
      ∃ index device,
        sysfs.occupant settings index = some device ∧
          device.number = dev ∧ (diskLedId index).toUInt32 = led
  states :
    ∀ dev, dev ∈ runtime.maps .states ↔
      ∃ index device,
        sysfs.occupant settings index = some device ∧
          device.number = dev

/-- Maps that mirror a table that reflects the disks serve them. -/
theorem DiskLeds.Mirrors.serves
    {disks : DiskLeds}
    {runtime : BpfRuntime}
    (mirrors : DiskLeds.Mirrors disks disks.bays runtime)
    (reflects : disks.Reflects settings sysfs)
    (identified :
      ∀ index, (disks.slots index).ledId = diskLedId index) :
    runtime.Serves settings sysfs := by
  have holds :
      ∀ index dev,
        (index ∈ disks.bays ∧ (disks.slots index).present = true ∧
            (disks.slots index).dev = dev) ↔
          ∃ device,
            sysfs.occupant settings index = some device ∧
              device.number = dev := by
    intro index dev
    constructor
    · rintro ⟨counted, present, rfl⟩
      obtain ⟨device, found, number⟩ :=
        reflects.occupied counted present
      exact ⟨device, found, number.symm⟩
    · rintro ⟨device, found, rfl⟩
      have counted := Sysfs.occupant_counted found
      obtain ⟨present, dev⟩ := reflects.slots index counted
      rw [found] at present dev
      refine ⟨?_, present, dev⟩
      rw [mem_bays, reflects.slotCount]
      exact counted
  refine ⟨?_, ?_⟩
  · intro dev led
    rw [mirrors.targets]
    constructor
    · rintro ⟨index, counted, present, number, rfl⟩
      obtain ⟨device, found, same⟩ :=
        (holds index dev).mp ⟨counted, present, number⟩
      exact
        ⟨index, device, found, same, by rw [identified index]⟩
    · rintro ⟨index, device, found, number, rfl⟩
      obtain ⟨counted, present, same⟩ :=
        (holds index dev).mpr ⟨device, found, number⟩
      exact
        ⟨index, counted, present, same, by rw [identified index]⟩
  · intro dev
    rw [mirrors.states]
    constructor
    · rintro ⟨index, held⟩
      obtain ⟨device, found, number⟩ := (holds index dev).mp held
      exact ⟨index, device, found, number⟩
    · rintro ⟨index, device, found, number⟩
      exact ⟨index, (holds index dev).mpr ⟨device, found, number⟩⟩

end Reflects

end UgreenLeds
