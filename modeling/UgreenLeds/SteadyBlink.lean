import UgreenLeds.ActivityCoverage
import UgreenLeds.Panel

/-!
# A busy disk's LED blinks without a break

The disk policy lets a blink end when it has heard nothing for the hold time.  An
invariant over the slot shows that each event that was delivered keeps the blink
going for that time.  With an event for each request it gives a condition on the
delays under which the blink never ends.
-/

namespace UgreenLeds

namespace ActivityPath

section Blinking

/--
Since a moment, the bay has been blinking and has heard each event delivered.
-/
structure Blinking
    (dev : UInt32)
    (index : DiskIndex)
    (since hold : Nat)
    (led : LedController.Slice)
    (path : ActivityPath) : Prop where
  begun : since ≤ path.now.ns.toNat
  active : (path.disks.slots index).active = true
  bounded :
    (path.disks.slots index).deadlineNs.toNat ≤
      path.now.ns.toNat + hold
  extended :
    since + hold ≤ (path.disks.slots index).deadlineNs.toNat
  heard :
    ∀ event ∈ path.collectors.eventsOf (.disk dev),
      path.Pending dev event ∨
        event.timestampNs.toNat + hold ≤
          (path.disks.slots index).deadlineNs.toNat
  led : path.disks.controller.slice (bayLed index) = led

variable
  {script : Script}
  {data : ConfigData}
  {accepted : data.Accepted}
  {diskTargets : UInt32 → Option UInt32}
  {dev : UInt32}
  {index : DiskIndex}
  {since interval gap delay hold : Nat}
  {led : LedController.Slice}
  {path : ActivityPath}

/-- The deadline of a busy bay lies ahead. -/
theorem Blinking.ahead
    (blinking : path.Blinking dev index since hold led)
    (covering : path.Covering dev since interval gap delay)
    (positive : 0 < interval)
    (fits : interval + gap + 3 * delay ≤ hold) :
    path.now.ns.toNat < (path.disks.slots index).deadlineNs.toNat := by
  by_cases late : since + hold ≤ path.now.ns.toNat
  · -- the request that was current two delays ago has an event that was heard
    obtain ⟨id, inRange, isDisk, before, close⟩ :=
      covering.dense (path.now.ns.toNat - 2 * delay) (by omega)
        (Nat.sub_le _ _)
    have recent : since < (path.calls id).2 := by omega
    have isThere :=
      List.getElem?_eq_getElem inRange
    have settled :=
      (covering.prompt.settles id _ isThere isDisk).resolve_right
        (by omega)
    obtain ⟨event, member, after, earlier⟩ :=
      covering.covered id _ isThere settled isDisk recent
    have delivered :=
      (blinking.heard event member).resolve_left fun pending => by
        have inTime := covering.prompt.delivers event pending
        omega
    omega
  · have extended := blinking.extended
    omega

/-- A turn keeps what is pending, and adds what it builds. -/
theorem heard_of_turn
    {collectors : Collectors}
    {clock : UInt64}
    {id : Nat}
    {handler following : Handler}
    {built output : List LedEvent}
    (found : path.collectors.handlers[id]? = some handler)
    (turn :
      path.collectors.Turn clock handler following built output)
    (handlers :
      collectors.handlers = path.collectors.handlers.set id following)
    (emitted :
      collectors.emitted =
        path.collectors.emitted ++ built.map (fun event => (id, event)))
    (ring : collectors.ring = path.collectors.ring ++ output)
    {deadline : Nat}
    (heard :
      ∀ event ∈ path.collectors.eventsOf (.disk dev),
        path.Pending dev event ∨
          event.timestampNs.toNat + hold ≤ deadline) :
    ∀ event ∈ collectors.eventsOf (.disk dev),
      Pending { path with collectors } dev event ∨
        event.timestampNs.toNat + hold ≤ deadline := by
  have inRange : id < path.collectors.handlers.length :=
    (List.getElem?_eq_some_iff.mp found).1
  have isNow : following ∈ collectors.handlers := by
    rw [handlers]
    exact List.mem_set inRange following
  intro event member
  rw [eventsOf_append emitted, List.mem_append] at member
  rcases member with earlier | isNew
  · refine (heard event earlier).imp_left ?_
    rintro ⟨owned, inRing | inHandlers⟩
    · refine ⟨owned, Or.inl ?_⟩
      change event ∈ collectors.ring
      rw [ring]
      exact List.mem_append_left _ inRing
    · obtain ⟨other, isThere⟩ := List.mem_iff_getElem?.mp inHandlers
      by_cases same : other = id
      · subst same
        rw [found, Option.some.injEq] at isThere
        subst isThere
        cases turn with
        | output =>
            refine ⟨owned, Or.inl ?_⟩
            change event ∈ collectors.ring
            rw [ring]
            exact List.mem_append_right _ List.mem_cons_self
      · have kept :
            collectors.handlers[other]? =
              some (Handler.emitting event) := by
          rw [handlers, List.getElem?_set_ne (Ne.symm same)]
          exact isThere
        exact ⟨owned, Or.inr (List.mem_of_getElem? kept)⟩
  · obtain ⟨isBuilt, owned⟩ := List.mem_filter.mp isNew
    rcases built_cases turn dev with
        silent | ⟨ledId, reading, oldDeadline, -, isFollowing, built⟩
    · rw [silent event isBuilt] at owned
      cases owned
    · rw [built, List.mem_singleton] at isBuilt
      refine Or.inl ⟨owned, Or.inr ?_⟩
      change Handler.emitting event ∈ collectors.handlers
      rw [isBuilt, ← isFollowing]
      exact isNow

/-- A call changes nothing for the bay. -/
theorem Blinking.call
    (blinking : path.Blinking dev index since hold led)
    {arrived : Handler}
    {collectors : Collectors}
    {calls : Nat → Source × Nat}
    (handlers :
      collectors.handlers = path.collectors.handlers ++ [arrived])
    (emitted : collectors.emitted = path.collectors.emitted)
    (ring : collectors.ring = path.collectors.ring) :
    Blinking dev index since hold led
      { path with collectors, calls } := by
  refine
    ⟨blinking.begun, blinking.active, blinking.bounded,
      blinking.extended, ?_, blinking.led⟩
  intro event member
  have same :
      collectors.eventsOf (.disk dev) =
        path.collectors.eventsOf (.disk dev) := by
    simp only [Collectors.eventsOf, emitted]
  rw [same] at member
  refine (blinking.heard event member).imp_left ?_
  rintro ⟨owned, waiting⟩
  refine ⟨owned, ?_⟩
  change
    event ∈ collectors.ring ∨
      Handler.emitting event ∈ collectors.handlers
  rw [ring, handlers]
  exact waiting.imp_right (List.mem_append_left _)

/-- The bay begins to blink when an activity event for it is handled. -/
theorem Blinking.begin
    (consistent : path.Consistent data accepted diskTargets dev)
    (active : (path.disks.slots index).active = true)
    (deadline :
      (path.disks.slots index).deadlineNs.toNat =
        path.now.ns.toNat + hold) :
    path.Blinking dev index path.now.ns.toNat hold
      (path.disks.controller.slice (bayLed index)) where
  begun := Nat.le_refl _
  active
  bounded := deadline.le
  extended := deadline.ge
  heard := by
    intro event member
    rw [deadline]
    exact
      Or.inr (Nat.add_le_add_right (consistent.past_of_mem member) hold)
  led := rfl

/-- The bay after an activity event has been delivered to it. -/
theorem Blinking.deliver_self
    (blinking : path.Blinking dev index since hold led)
    (isHold : path.disks.config.diskHoldNs.toNat = hold)
    (settime : Option Errno) :
    let next :=
      ((path.disks.extend index (some path.now)).armTimer settime).2
    (next.slots index).active = true ∧
      (next.slots index).deadlineNs.toNat =
        path.now.ns.toNat + hold ∧
      next.controller.slice (bayLed index) = led := by
  refine ⟨?_, ?_, blinking.led⟩
  · simp [DiskLeds.extend, blinking.active]
  · simp only [DiskLeds.armTimer_slots, DiskLeds.extend,
      DiskLeds.setSlot_self]
    rw [← isHold]
    exact DiskLeds.deadline_toNat path.now path.disks.config

/-- An activity event of another bay leaves the bay alone. -/
theorem bay_deliver_of_ne
    (script : Script)
    (disks : DiskLeds)
    {ledId : UInt8}
    (different : ledId ≠ diskLedId index)
    (clock : Option MonotonicTime)
    (settime : Option Errno) :
    ((disks.handleActivity script ledId clock settime).2.bay index) =
      disks.bay index := by
  rcases DiskLeds.handleActivity_cases script disks ledId clock
      settime with
      ⟨unchanged, -⟩ | ⟨moved, same, -, -, handled⟩
  · rw [unchanged]
  · have elsewhere : index ≠ moved := by
      intro isMoved
      exact different (isMoved ▸ same)
    rcases handled with
        ⟨-, extended⟩ |
          ⟨-, error, controller, started, failed⟩ |
          ⟨-, controller, started, begun⟩
    · rw [extended, DiskLeds.bay_armTimer]
      exact DiskLeds.bay_setSlot_of_ne elsewhere _
    · rw [failed]
      apply DiskLeds.bay_extend_of_ne elsewhere clock
      rw [same,
        LedController.slice_invalidate_of_ne controller
          (ledIndex?_diskLedId_ne elsewhere), started]
    · rw [begun, DiskLeds.bay_armTimer,
        DiskLeds.bay_setSlot_of_ne elsewhere]
      apply DiskLeds.bay_extend_of_ne elsewhere clock
      rw [started]

/-- What is delivered to the bay is heard, and nothing else matters to it. -/
theorem Blinking.deliver
    (blinking : path.Blinking dev index since hold led)
    (consistent : path.Consistent data accepted diskTargets dev)
    (isHold : (data.toConfig accepted).diskHoldNs.toNat = hold)
    (target : diskTargets dev = some (diskLedId index).toUInt32)
    {event : LedEvent}
    {rest : List LedEvent}
    (ring : path.collectors.ring = event :: rest)
    (settime : Option Errno) :
    Blinking dev index since hold led
      { path with
        collectors := { path.collectors with ring := rest }
        disks := path.deliver script event settime } := by
  have begun := blinking.begun
  have bounded := blinking.bounded
  have extended := blinking.extended
  have inTable := consistent.wellFormed.occupied index blinking.active
  by_cases isBay : event.kind = eventDisk ∧ event.ledId = diskLedId index
  · obtain ⟨isDisk, isLed⟩ := isBay
    have delivered :
        path.deliver script event settime =
          ((path.disks.extend index (some path.now)).armTimer
            settime).2 := by
      rw [ActivityPath.deliver, if_pos isDisk, isLed,
        DiskLeds.handleActivity_of_present script path.disks inTable.2
          inTable.1, if_pos blinking.active]
    obtain ⟨active, deadline, sliced⟩ :=
      blinking.deliver_self
        (by rw [consistent.configured]; exact isHold) settime
    rw [← delivered] at active deadline sliced
    refine ⟨begun, active, deadline.le, ?_, ?_, sliced⟩
    · change
        since + hold ≤
          ((path.deliver script event settime).slots
            index).deadlineNs.toNat
      omega
    · intro other member
      have past := consistent.past_of_mem member
      right
      change
        other.timestampNs.toNat + hold ≤
          ((path.deliver script event settime).slots
            index).deadlineNs.toNat
      omega
  · have same :
        (path.deliver script event settime).bay index =
          path.disks.bay index := by
      rw [ActivityPath.deliver]
      split
      · rename_i isDisk
        exact
          bay_deliver_of_ne script path.disks
            (fun isLed => isBay ⟨isDisk, isLed⟩) _ settime
      · rfl
    have sameSlot :
        (path.deliver script event settime).slots index =
          path.disks.slots index :=
      congrArg DiskLeds.Bay.slot same
    have sameLed :
        (path.deliver script event settime).controller.slice
            (bayLed index) =
          path.disks.controller.slice (bayLed index) :=
      congrArg DiskLeds.Bay.led same
    refine ⟨begun, ?_, ?_, ?_, ?_, sameLed.trans blinking.led⟩
    · change ((path.deliver script event settime).slots index).active = _
      rw [sameSlot]
      exact blinking.active
    · change
        ((path.deliver script event settime).slots
          index).deadlineNs.toNat ≤ _
      rw [sameSlot]
      exact bounded
    · change
        _ ≤ ((path.deliver script event settime).slots
          index).deadlineNs.toNat
      rw [sameSlot]
      exact extended
    · intro other member
      change
        Pending _ dev other ∨
          _ ≤ ((path.deliver script event settime).slots
            index).deadlineNs.toNat
      rw [sameSlot]
      refine (blinking.heard other member).imp_left ?_
      rintro ⟨owned, inRing | inHandlers⟩
      · rw [ring] at inRing
        rcases List.mem_cons.mp inRing with rfl | inRest
        · -- an event of the disk carries the bay's LED
          have isDisk : other.kind = eventDisk ∧ other.source = dev := by
            simpa [Source.owns] using owned
          obtain ⟨ledId, found, isLed⟩ :=
            consistent.labelled other
              (by rw [ring]; exact List.mem_cons_self) isDisk.1
          rw [isDisk.2, target, Option.some.injEq] at found
          subst found
          rw [UInt8.toUInt8_toUInt32] at isLed
          exact (isBay ⟨isDisk.1, isLed⟩).elim
        · exact ⟨owned, Or.inl inRest⟩
      · exact ⟨owned, Or.inr inHandlers⟩

/-- The timer's callback lets a bay whose deadline lies ahead blink on. -/
theorem Blinking.expire
    (blinking : path.Blinking dev index since hold led)
    (wellFormed : path.disks.WellFormed)
    (ahead :
      path.now.ns.toNat <
        (path.disks.slots index).deadlineNs.toNat)
    {read settime : Option Errno}
    {disks : DiskLeds}
    (handled :
      path.disks.handleTimer script (some path.now) read settime =
        (.ok (), disks)) :
    Blinking dev index since hold led { path with disks } := by
  have regular : ∀ error, read = some error → error = .eagain := by
    rintro error rfl
    by_contra fatal
    simp [DiskLeds.handleTimer, Timerfd.read, fatal] at handled
  obtain ⟨timer, same⟩ :=
    DiskLeds.handleTimer_eq script path.disks (some path.now) regular
      settime
  have timed : ({ path.disks with timer } : DiskLeds).WellFormed :=
    ⟨wellFormed.identified, wellFormed.occupied⟩
  have kept : disks.bay index = path.disks.bay index := by
    have result :
        disks =
          (path.disks.handleTimer script (some path.now) read
            settime).2 := by
      rw [handled]
    rw [result, same, DiskLeds.bay_armTimer,
      DiskLeds.expireAll_bay script _ timed]
    split
    · refine if_pos (Or.inr ?_)
      exact UInt64.lt_iff_toNat_lt.mpr ahead
    · rfl
  have sameSlot : disks.slots index = path.disks.slots index :=
    congrArg DiskLeds.Bay.slot kept
  have sameLed :
      disks.controller.slice (bayLed index) =
        path.disks.controller.slice (bayLed index) :=
    congrArg DiskLeds.Bay.led kept
  refine
    ⟨blinking.begun, ?_, ?_, ?_, ?_, sameLed.trans blinking.led⟩
  · change (disks.slots index).active = true
    rw [sameSlot]
    exact blinking.active
  · change (disks.slots index).deadlineNs.toNat ≤ _
    rw [sameSlot]
    exact blinking.bounded
  · change _ ≤ (disks.slots index).deadlineNs.toNat
    rw [sameSlot]
    exact blinking.extended
  · intro event member
    change _ ∨ _ ≤ (disks.slots index).deadlineNs.toNat
    rw [sameSlot]
    exact blinking.heard event member

/-- Every step that the schedule allows lets a busy bay blink on. -/
theorem Blinking.step
    (blinking : path.Blinking dev index since hold led)
    (consistent : path.Consistent data accepted diskTargets dev)
    (isHold : (data.toConfig accepted).diskHoldNs.toNat = hold)
    (target : diskTargets dev = some (diskLedId index).toUInt32)
    (ahead :
      path.now.ns.toNat <
        (path.disks.slots index).deadlineNs.toNat)
    {action : Action}
    {next : ActivityPath}
    (taken : path.step script action = some next) :
    next.Blinking dev index since hold led := by
  have begun := blinking.begun
  have bounded := blinking.bounded
  cases action with
  | wait later =>
      simp only [ActivityPath.step] at taken
      split at taken
      · rename_i after
        cases taken
        have forward : path.now.ns.toNat ≤ later.ns.toNat :=
          UInt64.le_iff_toNat_le.mp after
        refine
          ⟨begun.trans forward, blinking.active, ?_,
            blinking.extended, blinking.heard, blinking.led⟩
        exact bounded.trans (Nat.add_le_add_right forward hold)
      · cases taken
  | packet packet =>
      cases taken
      exact blinking.call rfl rfl rfl
  | request requested =>
      cases taken
      exact blinking.call rfl rfl rfl
  | advance id =>
      simp only [ActivityPath.step, collect, Option.map_eq_some_iff]
        at taken
      obtain ⟨collectors, advanced, rfl⟩ := taken
      obtain ⟨handler, following, built, output, found, turn, handlers,
        emitted, ring, -⟩ := Collectors.turn_of_advance advanced
      exact
        ⟨begun, blinking.active, bounded, blinking.extended,
          heard_of_turn found turn handlers emitted ring blinking.heard,
          blinking.led⟩
  | poll settime =>
      simp only [ActivityPath.step] at taken
      cases isRing : path.collectors.ring with
      | nil =>
          simp only [isRing, reduceCtorEq] at taken
      | cons event rest =>
          simp only [isRing, Option.some.injEq] at taken
          subst taken
          exact
            blinking.deliver consistent isHold target isRing settime
  | timer read settime =>
      simp only [ActivityPath.step] at taken
      split at taken
      · cases taken
      · rename_i disks handled
        cases taken
        exact blinking.expire consistent.wellFormed ahead handled

end Blinking

/-- The first bay. -/
def firstBay : DiskIndex :=
  ⟨0, by decide⟩

end ActivityPath

end UgreenLeds
