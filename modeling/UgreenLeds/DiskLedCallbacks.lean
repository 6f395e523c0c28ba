import UgreenLeds.DiskLed
import UgreenLeds.LocalFold
import Mathlib.Data.UInt

/-!
# What the callbacks of the disk policy do

One lemma for each callback says everything it can do to the slot table: an
activity event is ignored, extends a deadline, or starts a blink that succeeds
or fails; the timer's loop and the loop of a rescan treat every bay of the
chassis by itself.  Later modules cite these lemmas and never unfold a callback.
-/

namespace UgreenLeds

/-- The identifier of a bay's LED is two more than the bay's index. -/
theorem diskLedId_toNat (index : DiskIndex) :
    (diskLedId index).toNat = 2 + index.val := by
  have inRange : index.val < 8 := index.isLt
  simp only [diskLedId, ledDiskFirst, UInt8.toNat_add,
    UInt8.toNat_ofNat', UInt8.reduceToNat]
  omega

/-- Bays have different LEDs. -/
theorem diskLedId_injective
    {first second : DiskIndex}
    (same : diskLedId first = diskLedId second) :
    first = second := by
  have numbers := congrArg UInt8.toNat same
  rw [diskLedId_toNat, diskLedId_toNat] at numbers
  exact Fin.ext (by omega)

/-- No chassis has more bays than the slot table. -/
theorem diskLayoutSlotCount_le (productName : List UInt8) :
    diskLayoutSlotCount productName ≤ diskCount := by
  unfold diskLayoutSlotCount
  split
  · decide
  · split
    · decide
    · split <;> decide

namespace DiskLeds

/-- An identifier denotes a bay exactly if it is the one of the bay's LED. -/
theorem bay?_eq_some
    {disks : DiskLeds}
    {ledId : UInt8}
    (isDisk : ¬ ledId < ledDiskFirst)
    {index : DiskIndex} :
    disks.bay? ledId = some index ↔
      ledId = diskLedId index ∧ index.val < disks.slotCount := by
  have atLeast : ledDiskFirst.toNat ≤ ledId.toNat :=
    UInt8.le_iff_toNat_le.mp (UInt8.not_lt.mp isDisk)
  have numbered :
      ledId = diskLedId index ↔
        ledId.toNat - ledDiskFirst.toNat = index.val := by
    rw [← UInt8.toNat_inj, diskLedId_toNat]
    simp only [ledDiskFirst, UInt8.reduceToNat] at atLeast ⊢
    omega
  rw [numbered]
  simp only [bay?]
  constructor
  · intro found
    split at found
    · split at found
      · rename_i inRange counted
        cases found
        exact ⟨rfl, counted⟩
      · cases found
    · cases found
  · rintro ⟨number, counted⟩
    rw [number]
    simp [index.isLt, counted]

section Callbacks

variable
  (script : Script)
  (disks : DiskLeds)

@[simp] theorem setSlot_self
    (index : DiskIndex)
    (slot : DiskSlot) :
    (disks.setSlot index slot).slots index = slot := by
  simp [setSlot]

@[simp] theorem setSlot_of_ne
    {index other : DiskIndex}
    (different : other ≠ index)
    (slot : DiskSlot) :
    (disks.setSlot index slot).slots other = disks.slots other := by
  simp [setSlot, Function.update_of_ne different]

@[simp] theorem armTimer_slots (settime : Option Errno) :
    (disks.armTimer settime).2.slots = disks.slots :=
  rfl

@[simp] theorem armTimer_slotCount (settime : Option Errno) :
    (disks.armTimer settime).2.slotCount = disks.slotCount :=
  rfl

@[simp] theorem armTimer_config (settime : Option Errno) :
    (disks.armTimer settime).2.config = disks.config :=
  rfl

/-- The table after an activity event has moved a bay's deadline. -/
def extend
    (index : DiskIndex)
    (clock : Option MonotonicTime) : DiskLeds :=
  disks.setSlot index
    { disks.slots index with
      deadlineNs := monotonicNs clock + disks.config.diskHoldNs }

/-- The start of a bay's blink. -/
def startBlink (index : DiskIndex) : Status × LedController :=
  disks.controller.setBlink script (diskLedId index)
    (blinkTimes disks.config).1.toUInt16
    (blinkTimes disks.config).2.toUInt16 false

/-- An activity event for a present bay. -/
theorem handleActivity_of_present
    {index : DiskIndex}
    (counted : index.val < disks.slotCount)
    (present : (disks.slots index).present = true)
    (clock : Option MonotonicTime)
    (settime : Option Errno) :
    handleActivity script disks (diskLedId index) clock settime =
      if (disks.slots index).active then
        (disks.extend index clock).armTimer settime
      else
        match disks.startBlink script index with
        | (.error _, controller) =>
            (.ok (),
              { disks.extend index clock with
                controller := controller.invalidate
                  (diskLedId index) })
        | (.ok (), controller) =>
            ({ disks.extend index clock with controller }.setSlot index
              { (disks.extend index clock).slots index with
                active := true }).armTimer settime := by
  have isDisk : ¬ diskLedId index < ledDiskFirst := by
    have first : ledDiskFirst.toNat = 2 := rfl
    rw [UInt8.lt_iff_toNat_lt, diskLedId_toNat, first, Nat.not_lt]
    exact Nat.le_add_right 2 index.val
  have found : disks.bay? (diskLedId index) = some index :=
    (bay?_eq_some isDisk).mpr ⟨rfl, counted⟩
  rw [handleActivity, if_neg isDisk, found]
  simp only [extend, setSlot_self]
  rw [if_neg (by simp [present])]
  rfl

/-- Everything an activity event can do. -/
theorem handleActivity_cases
    (ledId : UInt8)
    (clock : Option MonotonicTime)
    (settime : Option Errno) :
    let next := (handleActivity script disks ledId clock settime).2
    (next = disks ∧
      ∀ index,
        ledId = diskLedId index →
        index.val < disks.slotCount →
        (disks.slots index).present = false) ∨
    ∃ index,
      ledId = diskLedId index ∧
        index.val < disks.slotCount ∧
        (disks.slots index).present = true ∧
        (((disks.slots index).active = true ∧
            next = ((disks.extend index clock).armTimer settime).2) ∨
          ((disks.slots index).active = false ∧
            (∃ error controller,
              disks.startBlink script index =
                  (.error error, controller) ∧
                next =
                  { disks.extend index clock with
                    controller := controller.invalidate ledId })) ∨
          ((disks.slots index).active = false ∧
            (∃ controller,
              disks.startBlink script index = (.ok (), controller) ∧
                next =
                  (({ disks.extend index clock with
                        controller }.setSlot index
                      { (disks.extend index clock).slots index with
                        active := true }).armTimer settime).2))) := by
  intro next
  by_cases isDisk : ledId < ledDiskFirst
  · left
    refine ⟨by simp [next, handleActivity, isDisk], ?_⟩
    intro index same
    have number := diskLedId_toNat index
    rw [← same] at number
    have below := UInt8.lt_iff_toNat_lt.mp isDisk
    simp only [ledDiskFirst, UInt8.reduceToNat] at below
    omega
  · cases found : disks.bay? ledId with
    | none =>
        left
        refine ⟨by simp [next, handleActivity, isDisk, found], ?_⟩
        intro index same counted
        have denotes := (bay?_eq_some isDisk).mpr ⟨same, counted⟩
        rw [found] at denotes
        cases denotes
    | some index =>
        obtain ⟨same, counted⟩ := (bay?_eq_some isDisk).mp found
        cases present : (disks.slots index).present with
        | false =>
            left
            refine
              ⟨by simp [next, handleActivity, isDisk, found, present], ?_⟩
            intro other sameOther _
            have isIndex : other = index :=
              diskLedId_injective (sameOther.symm.trans same)
            rwa [isIndex]
        | true =>
            right
            refine ⟨index, same, counted, present, ?_⟩
            subst same
            have unfolded :=
              handleActivity_of_present script disks counted present
                clock settime
            cases active : (disks.slots index).active with
            | true =>
                rw [if_pos active] at unfolded
                exact Or.inl ⟨rfl, congrArg Prod.snd unfolded⟩
            | false =>
                rw [if_neg (by simp [active])] at unfolded
                rcases started : disks.startBlink script index with
                  ⟨error | done, controller⟩
                · rw [started] at unfolded
                  exact
                    Or.inr
                      (Or.inl
                        ⟨rfl, error, controller, rfl,
                          congrArg Prod.snd unfolded⟩)
                · rw [started] at unfolded
                  exact
                    Or.inr
                      (Or.inr
                        ⟨rfl, controller, rfl,
                          congrArg Prod.snd unfolded⟩)

/-- An activity event makes no slot idle. -/
theorem handleActivity_active
    (ledId : UInt8)
    (clock : Option MonotonicTime)
    (settime : Option Errno)
    {index : DiskIndex}
    (active : (disks.slots index).active = true) :
    ((handleActivity script disks ledId clock settime).2.slots
        index).active =
      true := by
  rcases handleActivity_cases script disks ledId clock settime with
      ⟨unchanged, -⟩ | ⟨moved, -, -, -, handled⟩
  · rw [unchanged]
    exact active
  · by_cases same : index = moved
    · subst same
      rcases handled with
          ⟨-, extended⟩ |
            ⟨inactive, -⟩ |
            ⟨-, controller, -, started⟩
      · rw [extended]
        simp [extend, active]
      · rw [inactive] at active
        cases active
      · rw [started]
        simp
    · rcases handled with
          ⟨-, extended⟩ |
            ⟨-, error, controller, -, failed⟩ |
            ⟨-, controller, -, started⟩
      · rw [extended]
        simp [extend, same, active]
      · rw [failed]
        simp [extend, same, active]
      · rw [started]
        simp [extend, same, active]

/-- One slot after the timer's loop has visited it. -/
def expired
    (now : UInt64)
    (slot : DiskSlot) : DiskSlot :=
  if !slot.active ∨ slot.deadlineNs > now then
    slot
  else
    { slot with active := false, deadlineNs := 0 }

theorem expireSlot_self
    (now : UInt64)
    (index : DiskIndex) :
    (expireSlot script now disks index).slots index =
      expired now (disks.slots index) := by
  simp only [expireSlot, expired]
  split
  · rfl
  · simp

theorem expireSlot_other
    (now : UInt64)
    {index other : DiskIndex}
    (different : other ≠ index) :
    (expireSlot script now disks index).slots other =
      disks.slots other := by
  simp only [expireSlot]
  split
  · rfl
  · simp [different]

/-- A pass through the timer's loop leaves the identifiers alone. -/
theorem expireSlot_ledId
    (now : UInt64)
    (visited index : DiskIndex) :
    ((expireSlot script now disks visited).slots index).ledId =
      (disks.slots index).ledId := by
  by_cases isVisited : index = visited
  · subst isVisited
    rw [expireSlot_self]
    simp only [expired]
    split <;> rfl
  · rw [expireSlot_other _ _ _ isVisited]

/-- The loop of `disk_leds_handle_timer`. -/
def expireAll (now : UInt64) : DiskLeds :=
  disks.bays.foldl (expireSlot script now) disks

/-- The loop expires every slot of the chassis by itself. -/
theorem expireAll_slots
    (now : UInt64)
    (index : DiskIndex) :
    (expireAll script disks now).slots index =
      if index.val < disks.slotCount then
        expired now (disks.slots index)
      else
        disks.slots index := by
  have loop :=
    LocalFold.view_foldl (fun disks index => DiskLeds.slots disks index)
      (fun _ => expired now)
      (fun disks index => expireSlot_self script disks now index)
      (fun disks _ _ different =>
        expireSlot_other script disks now different)
      disks.bays_nodup disks index
  simp only [mem_bays] at loop
  exact loop

/-- The timer's loop changes the slots and the controller only. -/
theorem expireAll_frame
    {Part : Type*}
    (part : DiskLeds → Part)
    (kept :
      ∀ disks controller index slot,
        part (({ disks with controller } : DiskLeds).setSlot index
          slot) = part disks)
    (now : UInt64) :
    part (expireAll script disks now) = part disks := by
  refine LocalFold.frame_foldl part ?_ _ _
  intro disks index
  simp only [expireSlot]
  split
  · rfl
  · exact kept disks _ index _

@[simp] theorem expireAll_slotCount (now : UInt64) :
    (expireAll script disks now).slotCount = disks.slotCount :=
  expireAll_frame script disks slotCount (fun _ _ _ _ => rfl) now

@[simp] theorem expireAll_config (now : UInt64) :
    (expireAll script disks now).config = disks.config :=
  expireAll_frame script disks config (fun _ _ _ _ => rfl) now

/-- With a successful or spurious read, the loop runs and the timer is armed. -/
theorem handleTimer_eq
    (clock : Option MonotonicTime)
    {read : Option Errno}
    (regular : ∀ error, read = some error → error = .eagain)
    (settime : Option Errno) :
    ∃ timer,
      handleTimer script disks clock read settime =
        (expireAll script { disks with timer }
          (monotonicNs clock)).armTimer settime := by
  cases read with
  | none =>
      exact ⟨none, rfl⟩
  | some error =>
      have again : error = .eagain := regular error rfl
      subst again
      exact ⟨disks.timer, rfl⟩

/-- The timer's callback expires every slot of the chassis by itself. -/
theorem handleTimer_slots
    (clock : Option MonotonicTime)
    {read : Option Errno}
    (regular : ∀ error, read = some error → error = .eagain)
    {settime : Option Errno}
    (index : DiskIndex) :
    (handleTimer script disks clock read settime).2.slots index =
      if index.val < disks.slotCount then
        expired (monotonicNs clock) (disks.slots index)
      else
        disks.slots index := by
  obtain ⟨timer, same⟩ :=
    handleTimer_eq script disks clock regular settime
  rw [same, armTimer_slots]
  exact expireAll_slots script { disks with timer } _ index

/-- One slot after the loop of `rescan` has visited it. -/
def rescanned (new old : DiskSlot) : DiskSlot :=
  if old.present = new.present ∧ old.dev = new.dev then old else new

theorem rescanSlot_self
    (discovery : Discovery)
    (state : Status × DiskLeds)
    (index : DiskIndex) :
    (rescanSlot script discovery state index).2.slots index =
      rescanned (foundSlot discovery index) (state.2.slots index) := by
  simp only [rescanSlot, rescanned]
  split
  · rfl
  · simp

theorem rescanSlot_other
    (discovery : Discovery)
    (state : Status × DiskLeds)
    {index other : DiskIndex}
    (different : other ≠ index) :
    (rescanSlot script discovery state index).2.slots other =
      state.2.slots other := by
  simp only [rescanSlot]
  split
  · rfl
  · simp [different]

/-- A scan reprograms every slot of the chassis by itself. -/
theorem rescan_slots
    (discovery : Discovery)
    (index : DiskIndex) :
    (rescan script disks (.ok discovery)).2.slots index =
      if index.val < disks.slotCount then
        rescanned (foundSlot discovery index) (disks.slots index)
      else
        disks.slots index := by
  have loop :=
    LocalFold.view_foldl
      (fun (state : Status × DiskLeds) index => state.2.slots index)
      (fun index => rescanned (foundSlot discovery index))
      (fun state index => rescanSlot_self script discovery state index)
      (fun state _ _ different =>
        rescanSlot_other script discovery state different)
      disks.bays_nodup (.ok (), disks) index
  simp only [mem_bays] at loop
  exact loop

/-- A rescan changes the slots and the controller only. -/
theorem rescan_frame
    {Part : Type*}
    (part : DiskLeds → Part)
    (kept :
      ∀ disks controller index slot,
        part (({ disks with controller } : DiskLeds).setSlot index
          slot) = part disks)
    (discovery : Except Errno Discovery) :
    part (rescan script disks discovery).2 = part disks := by
  cases discovery with
  | error error =>
      rfl
  | ok discovery =>
      refine
        LocalFold.frame_foldl
          (fun state : Status × DiskLeds => part state.2) ?_ _ _
      intro state index
      simp only [rescanSlot]
      split
      · rfl
      · exact kept state.2 _ index _

@[simp] theorem rescan_slotCount (discovery : Except Errno Discovery) :
    (rescan script disks discovery).2.slotCount = disks.slotCount :=
  rescan_frame script disks slotCount (fun _ _ _ _ => rfl) discovery

@[simp] theorem rescan_config (discovery : Except Errno Discovery) :
    (rescan script disks discovery).2.config = disks.config :=
  rescan_frame script disks config (fun _ _ _ _ => rfl) discovery

@[simp] theorem rescan_timer (discovery : Except Errno Discovery) :
    (rescan script disks discovery).2.timer = disks.timer :=
  rescan_frame script disks timer (fun _ _ _ _ => rfl) discovery

/-- A slot that is still active after the loop was not touched by it. -/
theorem expired_of_active
    {now : UInt64}
    {slot : DiskSlot}
    (active : (expired now slot).active = true) :
    expired now slot = slot ∧ slot.deadlineNs > now := by
  simp only [expired] at active ⊢
  split
  · rename_i kept
    rw [if_pos kept] at active
    exact ⟨rfl, kept.resolve_left (by simp [active])⟩
  · rename_i dropped
    rw [if_neg dropped] at active
    cases active

/-- The timer's loop touches no slot that stays active. -/
theorem expireAll_fewer
    (now : UInt64)
    (index : DiskIndex)
    (active :
      ((expireAll script disks now).slots index).active = true) :
    (expireAll script disks now).slots index = disks.slots index := by
  rw [expireAll_slots] at active ⊢
  by_cases counted : index.val < disks.slotCount
  · rw [if_pos counted] at active ⊢
    exact (expired_of_active active).1
  · rw [if_neg counted]

/-- A rescan touches no slot that stays active. -/
theorem rescan_fewer
    (discovery : Discovery)
    (index : DiskIndex)
    (active :
      ((rescan script disks (.ok discovery)).2.slots index).active =
        true) :
    (rescan script disks (.ok discovery)).2.slots index =
      disks.slots index := by
  rw [rescan_slots] at active ⊢
  by_cases counted : index.val < disks.slotCount
  · rw [if_pos counted] at active ⊢
    simp only [rescanned] at active ⊢
    split
    · rfl
    · rename_i changed
      rw [if_neg changed] at active
      cases active
  · rw [if_neg counted]

end Callbacks

/-- Every slot has its bay's LED, and only present bays are active. -/
structure WellFormed (disks : DiskLeds) : Prop where
  identified :
    ∀ index, (disks.slots index).ledId = diskLedId index
  occupied :
    ∀ index,
      (disks.slots index).active = true →
      (disks.slots index).present = true ∧
        index.val < disks.slotCount

section WellFormed

variable
  (script : Script)
  {disks : DiskLeds}

/-- A table in which only one present bay has changed stays well formed. -/
theorem WellFormed.move
    (wellFormed : disks.WellFormed)
    {index : DiskIndex}
    (counted : index.val < disks.slotCount)
    (present : (disks.slots index).present = true)
    {moved : DiskLeds}
    (sameCount : moved.slotCount = disks.slotCount)
    (active : Bool)
    (deadlineNs : UInt64)
    (self :
      moved.slots index =
        { disks.slots index with active, deadlineNs })
    (others :
      ∀ other, other ≠ index → moved.slots other = disks.slots other) :
    moved.WellFormed where
  identified := by
    intro other
    by_cases isIndex : other = index
    · subst isIndex
      rw [self]
      exact wellFormed.identified other
    · rw [others other isIndex]
      exact wellFormed.identified other
  occupied := by
    intro other isActive
    rw [sameCount]
    by_cases isIndex : other = index
    · subst isIndex
      rw [self]
      exact ⟨present, counted⟩
    · rw [others other isIndex] at isActive ⊢
      exact wellFormed.occupied other isActive

/-- A table in which some bays have become idle stays well formed. -/
theorem WellFormed.of_fewer
    (wellFormed : disks.WellFormed)
    {after : DiskLeds}
    (identified :
      ∀ index, (after.slots index).ledId = diskLedId index)
    (sameCount : after.slotCount = disks.slotCount)
    (fewer :
      ∀ index,
        (after.slots index).active = true →
        after.slots index = disks.slots index) :
    after.WellFormed where
  identified := identified
  occupied := by
    intro index active
    have same := fewer index active
    rw [same] at active ⊢
    rw [sameCount]
    exact wellFormed.occupied index active

/-- The timer's loop keeps the table well formed. -/
theorem WellFormed.expireAll
    (wellFormed : disks.WellFormed)
    (now : UInt64) :
    (DiskLeds.expireAll script disks now).WellFormed := by
  refine
    wellFormed.of_fewer ?_ (expireAll_slotCount ..)
      (expireAll_fewer script disks now)
  intro index
  rw [expireAll_slots]
  split
  · simp only [expired]
    split <;> exact wellFormed.identified index
  · exact wellFormed.identified index

/-- A rescan keeps the table well formed. -/
theorem WellFormed.rescan
    (wellFormed : disks.WellFormed)
    (discovery : Except Errno Discovery) :
    (DiskLeds.rescan script disks discovery).2.WellFormed := by
  cases discovery with
  | error error =>
      exact wellFormed
  | ok discovery =>
      refine
        wellFormed.of_fewer ?_ (rescan_slotCount ..)
          (rescan_fewer script disks discovery)
      intro index
      rw [rescan_slots]
      split
      · simp only [rescanned]
        split
        · exact wellFormed.identified index
        · rfl
      · exact wellFormed.identified index

/-- The table `disk_leds_init` starts from is well formed. -/
theorem zeroed_wellFormed
    (controller : LedController)
    (config : Config)
    (productName : List UInt8) :
    (zeroed controller config productName).WellFormed where
  identified := fun _ => rfl
  occupied := by
    intro index active
    cases active

end WellFormed

end DiskLeds

end UgreenLeds
