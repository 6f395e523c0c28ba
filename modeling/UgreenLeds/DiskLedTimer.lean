import UgreenLeds.DiskLedCallbacks
import UgreenLeds.PartialRun

/-!
# The slots and the shared timer of the disk policy

One one-shot timer serves the deadlines of all bays.  The invariant that makes
this work relates three things: which slots are active, their deadlines, and the
value the timer was last armed with, which is never later than the smallest
deadline.  It survives every callback, whatever the I2C transfers do, because
each path that creates or extends a deadline re-arms the timer, and the paths
that do not only drop deadlines.
-/

namespace UgreenLeds

namespace DiskLeds

section Earliest

/-- The smallest deadline seen by the loop of `arm_timer`. -/
theorem foldl_earliest
    (slots : DiskIndex → DiskSlot)
    (bays : List DiskIndex)
    (seen : UInt64) :
    let earliest :=
      bays.foldl
        (fun earliest index =>
          if (slots index).active ∧
              (slots index).deadlineNs < earliest then
            (slots index).deadlineNs
          else
            earliest)
        seen
    earliest ≤ seen ∧
      (∀ index ∈ bays,
        (slots index).active = true →
        earliest ≤ (slots index).deadlineNs) ∧
      (earliest = seen ∨
        ∃ index ∈ bays,
          (slots index).active = true ∧
            earliest = (slots index).deadlineNs) := by
  induction bays generalizing seen with
  | nil =>
      simp
  | cons first rest inductionHypothesis =>
      by_cases earlier :
          (slots first).active = true ∧ (slots first).deadlineNs < seen
      · obtain ⟨active, less⟩ := earlier
        obtain ⟨below, least, attained⟩ :=
          inductionHypothesis (slots first).deadlineNs
        simp only [List.foldl_cons, active, less, and_self, ↓reduceIte]
        refine ⟨UInt64.le_trans below (UInt64.le_of_lt less), ?_, Or.inr ?_⟩
        · intro index member isActive
          rcases List.mem_cons.mp member with rfl | later
          · exact below
          · exact least index later isActive
        · rcases attained with isFirst | ⟨index, member, isActive, same⟩
          · exact ⟨first, List.mem_cons_self, active, isFirst⟩
          · exact
              ⟨index, List.mem_cons_of_mem _ member, isActive, same⟩
      · obtain ⟨below, least, attained⟩ := inductionHypothesis seen
        simp only [List.foldl_cons, if_neg earlier]
        refine ⟨below, ?_, ?_⟩
        · intro index member isActive
          rcases List.mem_cons.mp member with rfl | later
          · exact
              UInt64.le_trans below
                (UInt64.not_lt.mp fun less => earlier ⟨isActive, less⟩)
          · exact least index later isActive
        · rcases attained with unchanged |
              ⟨index, member, isActive, same⟩
          · exact Or.inl unchanged
          · exact
              Or.inr
                ⟨index, List.mem_cons_of_mem _ member, isActive, same⟩

/-- No active bay has a deadline before the earliest. -/
theorem earliest_le
    (disks : DiskLeds)
    {index : DiskIndex}
    (counted : index.val < disks.slotCount)
    (active : (disks.slots index).active = true) :
    disks.earliest ≤ (disks.slots index).deadlineNs :=
  (foldl_earliest disks.slots disks.bays (-1)).2.1 index
    (mem_bays.mpr counted) active

/-- The earliest deadline is the maximum or that of an active bay. -/
theorem earliest_attained (disks : DiskLeds) :
    disks.earliest = -1 ∨
      ∃ index,
        (disks.slots index).active = true ∧
          disks.earliest = (disks.slots index).deadlineNs := by
  rcases (foldl_earliest disks.slots disks.bays (-1)).2.2 with
      unchanged | ⟨index, -, active, same⟩
  · exact Or.inl unchanged
  · exact Or.inr ⟨index, active, same⟩

end Earliest

/-- The deadlines of the active slots are those of times in range. -/
def DeadlinesInRange (disks : DiskLeds) : Prop :=
  ∀ index,
    (disks.slots index).active = true →
    0 < (disks.slots index).deadlineNs ∧
      (disks.slots index).deadlineNs < -1

/-- The timer is armed no later than the deadline of any active slot. -/
def TimerCovers (disks : DiskLeds) : Prop :=
  ∀ index,
    (disks.slots index).active = true →
    ∃ value,
      disks.timer = some value ∧
        ∀ other,
          (disks.slots other).active = true →
          value.toNs ≤ (disks.slots other).deadlineNs.toNat

/-- A timer that covers some active slots covers any selection of them. -/
theorem TimerCovers.of_fewer
    {before after : DiskLeds}
    (covers : before.TimerCovers)
    (sameTimer : after.timer = before.timer)
    (fewer :
      ∀ index,
        (after.slots index).active = true →
        after.slots index = before.slots index) :
    after.TimerCovers := by
  intro index active
  have same := fewer index active
  rw [same] at active
  obtain ⟨value, armed, least⟩ := covers index active
  refine ⟨value, sameTimer.trans armed, ?_⟩
  intro other otherActive
  have sameOther := fewer other otherActive
  rw [sameOther] at otherActive ⊢
  exact least other otherActive

section Arm

variable (disks : DiskLeds)

/-- Arming the timer makes it cover every active slot. -/
theorem armTimer_covers
    (counted :
      ∀ index,
        (disks.slots index).active = true →
        index.val < disks.slotCount)
    (inRange : disks.DeadlinesInRange) :
    (disks.armTimer none).2.TimerCovers := by
  intro index active
  rw [armTimer_slots] at active
  have atMost := disks.earliest_le (counted index active) active
  have notMaximal : disks.earliest ≠ -1 := by
    intro maximal
    rw [maximal] at atMost
    exact absurd (inRange index active).2 (UInt64.not_lt.mpr atMost)
  have positive : 0 < disks.earliest.toNat := by
    rcases disks.earliest_attained with maximal | ⟨first, firstActive, same⟩
    · exact (notMaximal maximal).elim
    · rw [same]
      exact UInt64.lt_iff_toNat_lt.mp (inRange first firstActive).1
  refine ⟨.ofNs disks.earliest.toNat, ?_, ?_⟩
  · simp only [armTimer, if_neg notMaximal,
      Timerfd.settime_ofNs _ positive]
  · intro other otherActive
    rw [armTimer_slots] at otherActive ⊢
    rw [Itimerspec.toNs_ofNs]
    exact
      UInt64.le_iff_toNat_le.mp
        (disks.earliest_le (counted other otherActive) otherActive)

end Arm

/--
The callback's system calls went well: the clock was read, the timer was armed,
and reading the timer succeeded or found nothing to read.
-/
def Event.Regular : Event → Prop
  | .activity _ clock settime =>
      clock.isSome ∧ settime = none
  | .timer clock read settime =>
      clock.isSome ∧ settime = none ∧
        ∀ error, read = some error → error = .eagain
  | .rescan _ =>
      True

/-- The time of the last activity event for a bay. -/
def lastActivity
    (events : List Event)
    (index : DiskIndex) : Option MonotonicTime :=
  events.foldl
    (fun last event =>
      match event with
      | .activity ledId clock _ =>
          if ledId = diskLedId index then clock else last
      | _ =>
          last)
    none

/-- The slot table, given the last activity of every bay. -/
structure SlotsTracked
    (last : DiskIndex → Option MonotonicTime)
    (disks : DiskLeds) : Prop extends WellFormed disks where
  deadline :
    ∀ index,
      (disks.slots index).active = true →
      ∃ time,
        last index = some time ∧
          (disks.slots index).deadlineNs =
            time.ns + disks.config.diskHoldNs

/-- What every callback preserves. -/
structure Tracked
    (last : DiskIndex → Option MonotonicTime)
    (disks : DiskLeds) : Prop extends SlotsTracked last disks where
  timer : disks.TimerCovers

/-- The hold time never carries a deadline past the end of the clock. -/
theorem deadline_toNat
    (time : MonotonicTime)
    (config : Config) :
    (time.ns + config.diskHoldNs).toNat =
      time.ns.toNat + config.diskHoldNs.toNat := by
  have inRange := time.inRange
  have bounded := config.diskHoldNs_le
  rw [UInt64.toNat_add]
  omega

/-- A deadline is neither zero nor maximal. -/
theorem deadline_inRange
    (time : MonotonicTime)
    (config : Config) :
    0 < time.ns + config.diskHoldNs ∧
      time.ns + config.diskHoldNs < -1 := by
  have inRange := time.inRange
  have positive := config.diskHoldNs_pos
  have bounded := config.diskHoldNs_le
  rw [UInt64.lt_iff_toNat_lt, UInt64.lt_iff_toNat_lt, deadline_toNat]
  have maximum : (-1 : UInt64).toNat = 2 ^ 64 - 1 := by decide
  have minimum : (0 : UInt64).toNat = 0 := rfl
  omega

/-- Arming the timer for a tracked table completes the invariant. -/
theorem SlotsTracked.armTimer
    {last : DiskIndex → Option MonotonicTime}
    {disks : DiskLeds}
    (tracked : disks.SlotsTracked last) :
    (disks.armTimer none).2.Tracked last where
  identified := tracked.identified
  occupied := tracked.occupied
  deadline := tracked.deadline
  timer := by
    apply armTimer_covers
    · intro index active
      exact (tracked.occupied index active).2
    · intro index active
      obtain ⟨time, -, same⟩ := tracked.deadline index active
      rw [same]
      exact deadline_inRange time disks.config

section Steps

variable
  (script : Script)
  {disks : DiskLeds}
  {last : DiskIndex → Option MonotonicTime}

/-- The last activities once an event has been recorded. -/
def recordActivity
    (last : DiskIndex → Option MonotonicTime)
    (ledId : UInt8)
    (clock : Option MonotonicTime) :
    DiskIndex → Option MonotonicTime :=
  fun index => if ledId = diskLedId index then clock else last index

/-- A table in which one bay's deadline has moved stays tracked. -/
theorem SlotsTracked.move
    (tracked : disks.SlotsTracked last)
    {index : DiskIndex}
    (counted : index.val < disks.slotCount)
    (present : (disks.slots index).present = true)
    (time : MonotonicTime)
    {moved : DiskLeds}
    (sameCount : moved.slotCount = disks.slotCount)
    (sameConfig : moved.config = disks.config)
    (active : Bool)
    (self :
      moved.slots index =
        { disks.slots index with
          active
          deadlineNs := time.ns + disks.config.diskHoldNs })
    (others :
      ∀ other, other ≠ index → moved.slots other = disks.slots other) :
    moved.SlotsTracked
      (recordActivity last (diskLedId index) (some time)) where
  toWellFormed :=
    tracked.toWellFormed.move counted present sameCount active _ self
      others
  deadline := by
    intro other isActive
    by_cases isIndex : other = index
    · subst isIndex
      refine ⟨time, by simp [recordActivity], ?_⟩
      rw [self, sameConfig]
    · have elsewhere : diskLedId index ≠ diskLedId other :=
        fun same => isIndex (diskLedId_injective same).symm
      rw [others other isIndex] at isActive ⊢
      rw [sameConfig, recordActivity, if_neg elsewhere]
      exact tracked.deadline other isActive

/-- An activity event keeps the slots and the timer tracked. -/
theorem Tracked.activity
    (tracked : disks.Tracked last)
    (ledId : UInt8)
    (time : MonotonicTime) :
    (handleActivity script disks ledId (some time) none).2.Tracked
      (recordActivity last ledId (some time)) := by
  rcases handleActivity_cases script disks ledId (some time) none with
      ⟨unchanged, ignored⟩ | ⟨index, same, counted, present, handled⟩
  · rw [unchanged]
    refine ⟨⟨tracked.toWellFormed, ?_⟩, tracked.timer⟩
    intro index active
    obtain ⟨present, counted⟩ := tracked.occupied index active
    have elsewhere : ledId ≠ diskLedId index := by
      intro same
      rw [ignored index same counted] at present
      cases present
    rw [recordActivity, if_neg elsewhere]
    exact tracked.deadline index active
  · subst same
    have others :
        ∀ other, other ≠ index →
          (disks.extend index (some time)).slots other =
            disks.slots other := by
      intro other different
      simp [extend, different]
    rcases handled with
        ⟨active, extended⟩ |
          ⟨inactive, error, controller, -, failed⟩ |
          ⟨inactive, controller, -, started⟩
    · rw [extended]
      apply SlotsTracked.armTimer
      refine
        tracked.toSlotsTracked.move counted present time rfl rfl true
          ?_ others
      simp [extend, monotonicNs, active]
    · rw [failed]
      refine
        ⟨tracked.toSlotsTracked.move counted present time rfl rfl false
          ?_ others, ?_⟩
      · simp [extend, monotonicNs, inactive]
      · refine tracked.timer.of_fewer rfl ?_
        intro other isActive
        have different : other ≠ index := by
          rintro rfl
          simp [extend, inactive] at isActive
        exact others other different
    · rw [started]
      apply SlotsTracked.armTimer
      refine
        tracked.toSlotsTracked.move counted present time rfl rfl true
          ?_ ?_
      · simp [extend, monotonicNs]
      · intro other different
        simp [extend, different]

/-- A table in which some bays have become idle stays tracked. -/
theorem SlotsTracked.of_fewer
    (tracked : disks.SlotsTracked last)
    {after : DiskLeds}
    (wellFormed : after.WellFormed)
    (sameConfig : after.config = disks.config)
    (fewer :
      ∀ index,
        (after.slots index).active = true →
        after.slots index = disks.slots index) :
    after.SlotsTracked last := by
  refine ⟨wellFormed, ?_⟩
  intro index active
  have same := fewer index active
  rw [same] at active ⊢
  rw [sameConfig]
  exact tracked.deadline index active

/-- After the timer's callback the timer covers what is still active. -/
theorem Tracked.expire
    (tracked : disks.Tracked last)
    (time : MonotonicTime)
    {read : Option Errno}
    (regular : ∀ error, read = some error → error = .eagain) :
    (handleTimer script disks (some time) read none).2.Tracked last := by
  obtain ⟨timer, same⟩ :=
    handleTimer_eq script disks (some time) regular none
  have unread :
      SlotsTracked last { disks with timer } :=
    ⟨⟨tracked.identified, tracked.occupied⟩, tracked.deadline⟩
  rw [same]
  exact
    (unread.of_fewer (unread.toWellFormed.expireAll script _)
      (expireAll_config ..)
      (expireAll_fewer script _ _)).armTimer

/-- A rescan only drops deadlines and leaves the timer alone. -/
theorem Tracked.rescan
    (tracked : disks.Tracked last)
    (discovery : Except Errno Discovery) :
    (DiskLeds.rescan script disks discovery).2.Tracked last := by
  cases discovery with
  | error error =>
      exact tracked
  | ok discovery =>
      have fewer := rescan_fewer script disks discovery
      exact
        ⟨tracked.toSlotsTracked.of_fewer
            (tracked.toWellFormed.rescan script _)
            (rescan_config ..) fewer,
          tracked.timer.of_fewer (rescan_timer ..) fewer⟩

/-- Every regular callback keeps the slots and the timer tracked. -/
theorem Tracked.handle
    {past : List Event}
    (tracked : disks.Tracked (lastActivity past))
    {event : Event}
    (regular : event.Regular) :
    (disks.handle script event).2.Tracked
      (lastActivity (past ++ [event])) := by
  cases event with
  | activity ledId clock settime =>
      obtain ⟨readable, armed⟩ := regular
      obtain ⟨time, rfl⟩ := Option.isSome_iff_exists.mp readable
      subst armed
      have recorded :
          lastActivity (past ++ [.activity ledId (some time) none]) =
            recordActivity (lastActivity past) ledId (some time) := by
        funext index
        simp [lastActivity, recordActivity]
      rw [recorded]
      exact tracked.activity script ledId time
  | timer clock read settime =>
      obtain ⟨readable, armed, again⟩ := regular
      obtain ⟨time, rfl⟩ := Option.isSome_iff_exists.mp readable
      subst armed
      have recorded :
          lastActivity (past ++ [.timer (some time) read none]) =
            lastActivity past := by
        funext index
        simp [lastActivity]
      rw [recorded]
      exact tracked.expire script time again
  | rescan discovery =>
      have recorded :
          lastActivity (past ++ [.rescan discovery]) =
            lastActivity past := by
        funext index
        simp [lastActivity]
      rw [recorded]
      exact tracked.rescan script discovery

/-- One more regular callback keeps a run of them tracked. -/
theorem extendTracked
    {past : List Event}
    {event : Event}
    {next : DiskLeds}
    (tracked :
      (∀ earlier ∈ past, earlier.Regular) →
        disks.Tracked (lastActivity past))
    (taken : disks.step script event = some next)
    (regular : ∀ made ∈ past ++ [event], made.Regular) :
    next.Tracked (lastActivity (past ++ [event])) := by
  simp only [step, Option.some.injEq] at taken
  subst taken
  refine (tracked fun earlier member => ?_).handle script ?_
  · exact regular earlier (List.mem_append_left _ member)
  · exact regular event (by simp)

/-- The table `disk_leds_init` leaves behind is tracked. -/
theorem init_tracked
    (controller : LedController)
    (config : Config)
    (productName : List UInt8)
    (discovery : Except Errno Discovery) :
    (init script controller config productName discovery).2.Tracked
      (lastActivity []) := by
  apply Tracked.rescan
  refine
    ⟨⟨zeroed_wellFormed controller config productName, ?_⟩, ?_⟩ <;>
    intro index active <;>
    cases active

end Steps

/--
The disk policy's state machine after the callbacks `events`: what holds of the
slots and the timer, and what the next callback can do to an active slot.
-/
structure StateMachine
    (script : Script)
    (events : List Event)
    (disks : DiskLeds) : Prop where
  occupied :
    ∀ index,
      (disks.slots index).active = true →
      (disks.slots index).present = true ∧
        index.val < disks.slotCount ∧
        (disks.slots index).ledId.toNat = 2 + index.val
  deadline :
    ∀ index,
      (disks.slots index).active = true →
      ∃ time,
        lastActivity events index = some time ∧
          (disks.slots index).deadlineNs.toNat =
            time.ns.toNat + disks.config.diskHoldMs.toNat * 1000000
  timer : disks.TimerCovers
  becomesIdle :
    ∀ event : Event,
      event.Regular →
      ∀ index,
        (disks.slots index).active = true →
        ((disks.handle script event).2.slots index).active = false →
        (∃ now read last,
          event = .timer (some now) read none ∧
            lastActivity events index = some last ∧
            last.ns.toNat + disks.config.diskHoldMs.toNat * 1000000 ≤
              now.ns.toNat) ∨
          ∃ discovery,
            event = .rescan (.ok discovery) ∧
              ((disks.slots index).present, (disks.slots index).dev) ≠
                ((discovery index).isSome, (discovery index).getD 0)
  expires :
    ∀ (now : MonotonicTime) (read : Option Errno),
      (∀ error, read = some error → error = .eagain) →
      ∀ index,
        ((disks.handle script
            (.timer (some now) read none)).2.slots index).active =
          true →
        now.ns <
          ((disks.handle script
            (.timer (some now) read none)).2.slots index).deadlineNs

/-- A tracked deadline in milliseconds. -/
theorem SlotsTracked.deadline_eq
    {last : DiskIndex → Option MonotonicTime}
    {disks : DiskLeds}
    (tracked : disks.SlotsTracked last)
    {index : DiskIndex}
    (active : (disks.slots index).active = true) :
    ∃ time,
      last index = some time ∧
        (disks.slots index).deadlineNs.toNat =
          time.ns.toNat + disks.config.diskHoldMs.toNat * 1000000 := by
  obtain ⟨time, recorded, same⟩ := tracked.deadline index active
  refine ⟨time, recorded, ?_⟩
  rw [same, deadline_toNat, Config.diskHoldNs_toNat]

/-- An active slot becomes idle only by expiry or by a changed device. -/
theorem Tracked.becomesIdle
    (script : Script)
    {disks : DiskLeds}
    {last : DiskIndex → Option MonotonicTime}
    (tracked : disks.Tracked last)
    {event : Event}
    (regular : event.Regular)
    {index : DiskIndex}
    (active : (disks.slots index).active = true)
    (idle : ((disks.handle script event).2.slots index).active = false) :
    (∃ now read time,
      event = .timer (some now) read none ∧
        last index = some time ∧
        time.ns.toNat + disks.config.diskHoldMs.toNat * 1000000 ≤
          now.ns.toNat) ∨
      ∃ discovery,
        event = .rescan (.ok discovery) ∧
          ((disks.slots index).present, (disks.slots index).dev) ≠
            ((discovery index).isSome, (discovery index).getD 0) := by
  cases event with
  | activity ledId clock settime =>
      have kept :=
        handleActivity_active script disks ledId clock settime active
      simp only [DiskLeds.handle] at idle
      rw [idle] at kept
      cases kept
  | timer clock read settime =>
      obtain ⟨readable, armed, again⟩ := regular
      obtain ⟨now, rfl⟩ := Option.isSome_iff_exists.mp readable
      subst armed
      obtain ⟨time, recorded, deadline⟩ :=
        tracked.toSlotsTracked.deadline_eq active
      have counted := (tracked.occupied index active).2
      simp only [DiskLeds.handle] at idle
      rw [handleTimer_slots script disks (some now) again,
        if_pos counted, expired] at idle
      refine Or.inl ⟨now, read, time, rfl, recorded, ?_⟩
      rw [← deadline, ← UInt64.le_iff_toNat_le, ← UInt64.not_lt]
      intro later
      have unexpired :
          (disks.slots index).deadlineNs > monotonicNs (some now) :=
        later
      rw [if_pos (Or.inr unexpired), active] at idle
      cases idle
  | rescan discovery =>
      have counted := (tracked.occupied index active).2
      cases discovery with
      | error error =>
          simp [DiskLeds.handle, DiskLeds.rescan, active] at idle
      | ok discovery =>
          refine Or.inr ⟨discovery, rfl, ?_⟩
          intro same
          obtain ⟨samePresent, sameDev⟩ := Prod.mk.inj same
          simp only [DiskLeds.handle] at idle
          rw [rescan_slots, if_pos counted, rescanned,
            if_pos ⟨samePresent, sameDev⟩, active] at idle
          cases idle

/--
After any sequence of regular callbacks, in any order and with any outcome of
every I2C transfer, the slots and the timer satisfy the state machine.  The
order of the clock's readings plays no part.
-/
theorem stateMachine_of_run
    {script : Script}
    {controller : LedController}
    {config : Config}
    {productName : List UInt8}
    {discovery : Except Errno Discovery}
    {events : List Event}
    (regular : ∀ event ∈ events, event.Regular)
    {disks : DiskLeds}
    (accepted :
      PartialRun.run? (step script)
          (init script controller config productName discovery).2
          events =
        some disks) :
    disks.StateMachine script events := by
  have tracked : disks.Tracked (lastActivity events) := by
    refine
      PartialRun.invariant_of_trace
        (fun past disks =>
          (∀ event ∈ past, event.Regular) →
            disks.Tracked (lastActivity past))
        (extendTracked script) ?_ accepted regular
    intro _
    exact init_tracked script controller config productName discovery
  constructor
  · intro index active
    obtain ⟨present, counted⟩ := tracked.occupied index active
    refine ⟨present, counted, ?_⟩
    rw [tracked.identified, diskLedId_toNat]
  · intro index active
    exact tracked.toSlotsTracked.deadline_eq active
  · exact tracked.timer
  · intro event isRegular index active idle
    exact tracked.becomesIdle script isRegular active idle
  · intro now read again index active
    simp only [handle] at active ⊢
    rw [handleTimer_slots script disks (some now) again] at active ⊢
    by_cases counted : index.val < disks.slotCount
    · rw [if_pos counted] at active ⊢
      obtain ⟨kept, later⟩ := expired_of_active active
      rw [kept]
      exact later
    · rw [if_neg counted] at active
      exact (counted (tracked.occupied index active).2).elim

/-- Two bursts of a disk, a spurious callback, and the expiry. -/
def burstEvents : List Event :=
  [.activity 2 (some ⟨1500, by decide⟩) none,
    .timer (some ⟨2000, by decide⟩) (some .eagain) none,
    .activity 2 (some ⟨150000000, by decide⟩) none,
    .rescan
      (.ok fun index => if index.val = 0 then some 8388608 else none),
    .timer (some ⟨450000000, by decide⟩) none none]

/-- The state machine after `burstEvents` on a two-bay chassis. -/
theorem stateMachine_after_bursts :
    ∃ disks,
      PartialRun.run? (step fun _ _ _ => .accepted)
          (init (fun _ _ _ => .accepted)
            (.initial fun _ => ⟨statusOff, 0, ⟨0, 0, 0⟩, 0, 0⟩)
            .defaults (ascii "DXP2800")
            (.ok fun index =>
              if index = 0 then some 8388608 else none)).2
          burstEvents =
        some disks ∧
      disks.StateMachine (fun _ _ _ => .accepted) burstEvents := by
  refine ⟨_, rfl, stateMachine_of_run ?_ rfl⟩
  simp [burstEvents, Event.Regular]

end DiskLeds

end UgreenLeds
