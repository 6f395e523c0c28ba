import UgreenLeds.Countdown
import UgreenLeds.DiskLedTimer
import UgreenLeds.DiskUevent
import UgreenLeds.NetworkLedPulse

/-!
# How far the policies are from rest

Each policy has a rank that an expiry of its timer lowers and that nothing raises
but traffic and activity.  A disk policy whose timer is set for the earliest
deadline loses a blinking bay with every expiry; one whose timer is early sets it
right.  A network policy loses what is pending, the light, or the timer.
-/

namespace UgreenLeds

namespace DiskLeds

/-- What `arm_timer` sets the timer to. -/
def due (disks : DiskLeds) : Timerfd :=
  (disks.armTimer none).2.timer

/-- The number of blinking bays. -/
def blinking (disks : DiskLeds) : Nat :=
  disks.bays.countP fun index => (disks.slots index).active

/-- How far the disk policy is from rest. -/
def unrest (disks : DiskLeds) : Nat :=
  disks.blinking + if disks.timer = disks.due then 0 else 1

section Due

variable (disks : DiskLeds)

/-- The bays of a chassis are a matter of its size. -/
theorem bays_congr
    {disks after : DiskLeds}
    (sameCount : after.slotCount = disks.slotCount) :
    after.bays = disks.bays := by
  simp only [bays, sameCount]

/-- What the timer is set to is a matter of the slots. -/
theorem due_congr
    {disks after : DiskLeds}
    (sameCount : after.slotCount = disks.slotCount)
    (sameSlots : after.slots = disks.slots) :
    after.due = disks.due := by
  have sameEarliest : after.earliest = disks.earliest := by
    simp only [earliest, bays_congr sameCount, sameSlots]
  simp only [due, armTimer, Timerfd.settime, sameEarliest]

/-- Once the timer has been armed, it is set as it should be. -/
theorem timer_of_armTimer
    {settime : Option Errno}
    (armed : (disks.armTimer settime).1 = .ok ()) :
    (disks.armTimer settime).2.timer = (disks.armTimer settime).2.due := by
  cases settime with
  | none =>
      rw [due_congr (armTimer_slotCount ..) (armTimer_slots ..)]
      rfl
  | some error =>
      cases armed

/-- A timer that is set as it should be is set for the deadline of a bay. -/
theorem exists_of_due
    {disks : DiskLeds}
    {value : Itimerspec}
    (due : disks.due = some value) :
    ∃ index ∈ disks.bays,
      (disks.slots index).active = true ∧
        (disks.slots index).deadlineNs.toNat = value.toNs := by
  have attained := (foldl_earliest disks.slots disks.bays (-1)).2.2
  have isEarliest :
      disks.bays.foldl
        (fun earliest index =>
          if (disks.slots index).active ∧
              (disks.slots index).deadlineNs < earliest then
            (disks.slots index).deadlineNs
          else
            earliest)
        (-1) = disks.earliest :=
    rfl
  rw [isEarliest] at attained
  simp only [DiskLeds.due, armTimer, Timerfd.settime] at due
  rcases attained with none | ⟨index, counted, active, same⟩
  · simp [none] at due
  · refine ⟨index, counted, active, ?_⟩
    split at due
    · simp at due
    · split at due
      · cases due
      · cases due
        rw [Itimerspec.toNs_ofNs, same]

end Due

section Timer

variable
  (script : Script)
  {disks : DiskLeds}
  {clock : Option MonotonicTime}
  {read settime : Option Errno}

/-- A timer callback that succeeds leaves the timer as it should be. -/
theorem unrest_handleTimer
    (succeeded :
      (handleTimer script disks clock read settime).1 = .ok ()) :
    (∀ error, read = some error → error = .eagain) ∧
      (handleTimer script disks clock read settime).2.unrest =
        (handleTimer script disks clock read settime).2.blinking := by
  have regular : ∀ error, read = some error → error = .eagain := by
    rintro error rfl
    by_contra fatal
    simp only [handleTimer, Timerfd.read, ne_eq, fatal,
      not_false_eq_true, ↓reduceIte] at succeeded
    cases succeeded
  obtain ⟨timer, same⟩ :=
    handleTimer_eq script disks clock regular settime
  rw [same] at succeeded ⊢
  refine ⟨regular, ?_⟩
  rw [unrest, if_pos (timer_of_armTimer _ succeeded), Nat.add_zero]

/-- The bays after the timer's callback that still blink did so before. -/
theorem active_of_handleTimer
    (regular : ∀ error, read = some error → error = .eagain)
    {index : DiskIndex}
    (active :
      ((handleTimer script disks clock read settime).2.slots
        index).active = true) :
    (disks.slots index).active = true := by
  rw [handleTimer_slots script disks clock regular] at active
  split at active
  · rw [(expired_of_active active).1] at active
    exact active
  · exact active

/-- The timer's callback keeps the size of the chassis. -/
theorem handleTimer_slotCount
    (regular : ∀ error, read = some error → error = .eagain) :
    (handleTimer script disks clock read settime).2.slotCount =
      disks.slotCount := by
  obtain ⟨timer, same⟩ :=
    handleTimer_eq script disks clock regular settime
  rw [same]
  exact expireAll_slotCount script { disks with timer } _

/-- The timer's callback makes no bay blink. -/
theorem blinking_handleTimer_le
    (regular : ∀ error, read = some error → error = .eagain) :
    (handleTimer script disks clock read settime).2.blinking ≤
      disks.blinking := by
  rw [blinking, bays_congr (handleTimer_slotCount script regular)]
  exact
    List.countP_mono_left fun index _ =>
      active_of_handleTimer script regular

/-- The timer's callback raises no unrest. -/
theorem unrest_handleTimer_le
    (succeeded :
      (handleTimer script disks clock read settime).1 = .ok ()) :
    (handleTimer script disks clock read settime).2.unrest ≤
      disks.unrest := by
  obtain ⟨regular, atRest⟩ := unrest_handleTimer script succeeded
  rw [atRest]
  exact
    (blinking_handleTimer_le script regular).trans (Nat.le_add_right _ _)

/-- An expiry of the timer lowers it. -/
theorem unrest_handleTimer_lt
    {time : MonotonicTime}
    {value : Itimerspec}
    (armed : disks.timer = some value)
    (due : value.toNs ≤ time.ns.toNat)
    (succeeded :
      (handleTimer script disks (some time) read settime).1 = .ok ()) :
    (handleTimer script disks (some time) read settime).2.unrest <
      disks.unrest := by
  obtain ⟨regular, atRest⟩ := unrest_handleTimer script succeeded
  rw [atRest, unrest]
  by_cases isDue : disks.timer = disks.due
  · -- The bay whose deadline this is stops blinking.
    obtain ⟨index, counted, active, deadline⟩ :=
      exists_of_due (isDue.symm.trans armed)
    have passed : ¬ (disks.slots index).deadlineNs > time.ns := by
      rw [gt_iff_lt, UInt64.lt_iff_toNat_lt]
      omega
    have expires :
        ((handleTimer script disks (some time) read settime).2.slots
          index).active = false := by
      rw [handleTimer_slots script disks (some time) regular,
        if_pos (mem_bays.mp counted)]
      simp only [expired, monotonicNs, active, passed, Bool.not_true,
        Bool.false_eq_true, or_self, ↓reduceIte]
    rw [if_pos isDue, Nat.add_zero, blinking, blinking,
      bays_congr (handleTimer_slotCount script regular)]
    exact
      Countdown.countP_lt_countP
        (fun index _ => active_of_handleTimer script regular)
        ⟨index, counted, active, expires⟩
  · -- The timer was early, and is set right.
    rw [if_neg isDue]
    exact
      Nat.lt_succ_of_le (blinking_handleTimer_le script regular)

/-- A policy with an armed timer is not at rest. -/
theorem unrest_pos
    {value : Itimerspec}
    (armed : disks.timer = some value) :
    0 < disks.unrest := by
  rw [unrest]
  by_cases isDue : disks.timer = disks.due
  · obtain ⟨index, counted, active, -⟩ :=
      exists_of_due (isDue.symm.trans armed)
    have blinks : 0 < disks.blinking :=
      List.countP_pos_iff.mpr ⟨index, counted, active⟩
    omega
  · rw [if_neg isDue]
    omega

/-- At most all bays and the timer keep the policy from rest. -/
theorem unrest_le (disks : DiskLeds) : disks.unrest ≤ diskCount + 1 := by
  have fewer : disks.blinking ≤ disks.bays.length :=
    List.countP_le_length
  have bounded := disks.bays_length_le
  rw [unrest]
  split <;> omega

end Timer

/-- Each blinking bay has its deadline, and the timer is armed for it. -/
def Timely (disks : DiskLeds) : Prop :=
  ∃ last, disks.Tracked last

section Timely

variable
  (script : Script)
  {disks : DiskLeds}
  (timely : disks.Timely)

include timely

/-- Blinking in time is a matter of the slots and the timer. -/
theorem Timely.frame (controller : LedController) :
    ({ disks with controller } : DiskLeds).Timely := by
  obtain ⟨last, tracked⟩ := timely
  exact
    ⟨last, ⟨⟨tracked.identified, tracked.occupied⟩, tracked.deadline⟩,
      tracked.timer⟩

/-- An activity event for which the timer is armed keeps the bays in time. -/
theorem Timely.activity
    (ledId : UInt8)
    (clock : Option MonotonicTime) :
    (handleActivity script disks ledId clock none).2.Timely := by
  obtain ⟨last, tracked⟩ := timely
  cases clock with
  | none =>
      -- A clock that cannot be read counts as zero.
      exact ⟨_, tracked.activity script ledId ⟨0, by decide⟩⟩
  | some time =>
      exact ⟨_, tracked.activity script ledId time⟩

/-- So does a timer callback that succeeds. -/
theorem Timely.timer
    {clock : Option MonotonicTime}
    {read settime : Option Errno}
    (succeeded :
      (handleTimer script disks clock read settime).1 = .ok ()) :
    (handleTimer script disks clock read settime).2.Timely := by
  obtain ⟨last, tracked⟩ := timely
  have regular := (unrest_handleTimer script succeeded).1
  cases settime with
  | some error =>
      obtain ⟨timer, same⟩ :=
        handleTimer_eq script disks clock regular (some error)
      rw [same] at succeeded
      cases succeeded
  | none =>
      cases clock with
      | none =>
          exact ⟨_, tracked.expire script ⟨0, by decide⟩ regular⟩
      | some time =>
          exact ⟨_, tracked.expire script time regular⟩

/-- A block-device event keeps the bays in time. -/
theorem Timely.uevent
    (runtime : BpfRuntime)
    (uevents : Uevents) :
    (handleUevent script disks runtime uevents).2.1.Timely := by
  obtain ⟨last, tracked⟩ := timely
  have rescanned := tracked.rescan script uevents.discovery
  simp only [handleUevent]
  split
  · exact ⟨last, tracked⟩
  · split
    · exact ⟨last, tracked⟩
    · split <;> exact ⟨last, rescanned⟩

/-- No bay blinks when the timer is idle. -/
theorem Timely.idle
    (disarmed : disks.timer = none)
    (index : DiskIndex) :
    (disks.slots index).active = false := by
  obtain ⟨last, tracked⟩ := timely
  by_contra blinks
  obtain ⟨value, armed, -⟩ :=
    tracked.timer index (by simpa using blinks)
  rw [disarmed] at armed
  cases armed

end Timely

end DiskLeds

namespace NetworkLed

variable
  {Credit : Type}

/-- How far the network policy is from rest. -/
def unrest (network : NetworkLed Credit) : Nat :=
  (if network.pendingRxBytes = 0 ∧ network.pendingTxBytes = 0 then 0
    else 2) +
    (if network.ledOn then 1 else 0) +
      if network.timer.isSome then 1 else 0

/-- Ending a pulse takes its light away. -/
theorem unrest_finishPulse
    (script : Script)
    {network : NetworkLed Credit}
    (lit : network.ledOn = true) :
    (network.finishPulse script).unrest + 1 = network.unrest := by
  obtain ⟨controller, same⟩ := finishPulse_eq script network
  rw [same]
  simp only [unrest, lit, Bool.false_eq_true, ↓reduceIte]
  omega

variable
  [NatCast Credit] [Add Credit] [Sub Credit] [Div Credit]
  [LE Credit] [DecidableLE Credit]
  (script : Script)
  {network : NetworkLed Credit}
  {read settime : Option Errno}

/-- A render that succeeds raises no unrest. -/
theorem unrest_render_le
    (succeeded : (network.render script settime).1 = .ok ()) :
    (network.render script settime).2.unrest ≤ network.unrest := by
  rcases render_cases script network settime with
      ⟨unchanged, -⟩ | ⟨dark, pending, rendered⟩
  · rw [unchanged]
  · rcases rendered with
        ⟨error, controller, -, dropped⟩ |
          ⟨controller, -, -, started⟩ |
            ⟨error, controller, -, -, failed⟩
    · rw [dropped]
      simp [unrest, takePending, dark]
    · rw [started]
      simp [unrest, takePending, pending, dark]
    · rw [failed] at succeeded
      cases succeeded

/-- What the timer's callback does once it has read the timer. -/
theorem handleTimer_eq
    (regular : ∀ error, read = some error → error = .eagain) :
    network.handleTimer script read settime =
      if network.ledOn then
        (finishPulse script
          { network with timer := (network.timer.read read).2 }).render
            script settime
      else
        (.ok (), { network with timer := (network.timer.read read).2 }) := by
  cases read with
  | none =>
      cases lit : network.ledOn <;>
        simp [handleTimer, Timerfd.read, lit]
  | some error =>
      have again : error = .eagain := regular error rfl
      cases lit : network.ledOn <;>
        simp [handleTimer, Timerfd.read, again, lit]

/-- A timer callback that succeeds has read the timer, or found it idle. -/
theorem regular_of_handleTimer
    (succeeded : (network.handleTimer script read settime).1 = .ok ()) :
    ∀ error, read = some error → error = .eagain := by
  rintro error rfl
  by_contra fatal
  simp [handleTimer, Timerfd.read, fatal] at succeeded

/-- The timer's callback raises no unrest above that of a read timer. -/
theorem unrest_handleTimer_read
    (succeeded : (network.handleTimer script read settime).1 = .ok ()) :
    (network.handleTimer script read settime).2.unrest ≤
      ({ network with timer := (network.timer.read read).2 } :
        NetworkLed Credit).unrest := by
  have regular := regular_of_handleTimer script succeeded
  rw [handleTimer_eq script regular] at succeeded ⊢
  split
  · rename_i lit
    rw [if_pos lit] at succeeded
    have finished :=
      @unrest_finishPulse Credit script
        { network with timer := (network.timer.read read).2 } lit
    have rendered := unrest_render_le script succeeded
    omega
  · exact Nat.le_refl _

/-- The timer's callback raises no unrest. -/
theorem unrest_handleTimer_le
    (succeeded : (network.handleTimer script read settime).1 = .ok ()) :
    (network.handleTimer script read settime).2.unrest ≤
      network.unrest := by
  refine le_trans (unrest_handleTimer_read script succeeded) ?_
  cases read with
  | none =>
      cases timer : network.timer <;>
        simp [unrest, Timerfd.read, timer]
  | some error =>
      exact Nat.le_refl _

/-- An expiry of the timer lowers it. -/
theorem unrest_handleTimer_lt
    (armed : network.timer.isSome)
    (succeeded : (network.handleTimer script none settime).1 = .ok ()) :
    (network.handleTimer script none settime).2.unrest <
      network.unrest := by
  refine lt_of_le_of_lt (unrest_handleTimer_read script succeeded) ?_
  simp [unrest, Timerfd.read, armed]

omit
  [NatCast Credit] [Add Credit] [Sub Credit] [Div Credit]
  [LE Credit] [DecidableLE Credit] in
/-- A policy with an armed timer is not at rest. -/
theorem unrest_pos (armed : network.timer.isSome) : 0 < network.unrest := by
  rw [unrest, if_pos armed]
  omega

omit
  [NatCast Credit] [Add Credit] [Sub Credit] [Div Credit]
  [LE Credit] [DecidableLE Credit] in
/-- What is pending, the light and the timer keep the policy from rest. -/
theorem unrest_le (network : NetworkLed Credit) : network.unrest ≤ 4 := by
  rw [unrest]
  split <;> split <;> split <;> omega

/-- A render that succeeds leaves a lit LED with its timer. -/
theorem timed_of_render
    (timed : network.ledOn = true → network.timer.isSome)
    (succeeded : (network.render script settime).1 = .ok ()) :
    (network.render script settime).2.ledOn = true →
    (network.render script settime).2.timer.isSome := by
  rcases render_cases script network settime with
      ⟨unchanged, -⟩ |
        ⟨-, -,
          ⟨error, controller, -, dropped⟩ |
            ⟨controller, -, -, started⟩ |
              ⟨error, controller, -, -, failed⟩⟩
  · rw [unchanged]
    exact timed
  · rw [dropped]
    exact nofun
  · rw [started]
    exact fun _ => rfl
  · rw [failed] at succeeded
    cases succeeded

/-- So does a timer callback that succeeds. -/
theorem timed_of_handleTimer
    (succeeded : (network.handleTimer script read settime).1 = .ok ()) :
    (network.handleTimer script read settime).2.ledOn = true →
    (network.handleTimer script read settime).2.timer.isSome := by
  have regular := regular_of_handleTimer script succeeded
  rw [handleTimer_eq script regular] at succeeded ⊢
  split
  · rename_i lit
    rw [if_pos lit] at succeeded
    obtain ⟨controller, finished⟩ :=
      finishPulse_eq script
        { network with timer := (network.timer.read read).2 }
    refine timed_of_render script ?_ succeeded
    rw [finished]
    exact nofun
  · rename_i dark
    exact fun lit => absurd lit dark

end NetworkLed

end UgreenLeds
