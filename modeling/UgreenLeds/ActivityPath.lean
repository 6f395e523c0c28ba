import UgreenLeds.BpfLifecycle
import UgreenLeds.CollectorRateLimit
import UgreenLeds.ConfigRanges
import UgreenLeds.DiskLedPanel
import UgreenLeds.DiskLedRescan
import UgreenLeds.DiskLedTimer

/-!
# From a disk request to the LED

The tracepoint program, the ring buffer and the disk policy on one monotonic
clock.  Time passes, requests and packets come in, a handler takes its next step,
and the event loop takes the oldest event from the ring or runs the timer's
callback, in any order.  There is no rescan: the maps and the slot table have been
made to agree before.

What is known of a handler rests on when and what for it was called, which the
programs do not record.
-/

namespace UgreenLeds

/-- The tracepoint program and the disk policy at one moment. -/
structure ActivityPath where
  now : MonotonicTime
  collectors : Collectors
  disks : DiskLeds
  /-- What each handler was called for, and when. -/
  calls : Nat → Source × Nat

namespace ActivityPath

/-- What can happen next. -/
inductive Action where
  | wait (later : MonotonicTime)
  | packet (packet : Packet)
  | request (dev : UInt32)
  | advance (handler : Nat)
  | poll (settime : Option Errno)
  | timer (read settime : Option Errno)

/-- The path once the collectors have taken a step. -/
def collect
    (path : ActivityPath)
    (action : Collectors.Action)
    (calls : Nat → Source × Nat) : Option ActivityPath :=
  (path.collectors.step action).map fun collectors =>
    { path with collectors, calls }

/-- The calls once a handler is called now. -/
def called
    (path : ActivityPath)
    (source : Source) : Nat → Source × Nat :=
  Function.update path.calls path.collectors.handlers.length
    (source, path.now.ns.toNat)

/-- What `handle_bpf_event` does with an event for the disk policy. -/
def deliver
    (script : Script)
    (path : ActivityPath)
    (event : LedEvent)
    (settime : Option Errno) : DiskLeds :=
  if event.kind = eventDisk then
    (path.disks.handleActivity script event.ledId (some path.now)
      settime).2
  else
    path.disks

/-- One action as a step of a run; the clock does not go back. -/
def step
    (script : Script)
    (path : ActivityPath) : Action → Option ActivityPath
  | .wait later =>
      if path.now.ns ≤ later.ns then
        some { path with now := later }
      else
        none
  | .packet packet =>
      path.collect (.packet packet) (path.called .network)
  | .request dev =>
      path.collect (.request dev) (path.called (.disk dev))
  | .advance handler =>
      path.collect (.advance handler path.now.ns) path.calls
  | .poll settime =>
      match path.collectors.ring with
      | [] =>
          none
      | event :: rest =>
          some
            { path with
              collectors := { path.collectors with ring := rest }
              disks := path.deliver script event settime }
  | .timer read settime =>
      match path.disks.handleTimer script (some path.now) read
          settime with
      | (.error _, _) =>
          none
      | (.ok (), disks) =>
          some { path with disks }

/-- The path when the daemon has started. -/
def start
    (script : Script)
    (controller : LedController)
    {data : ConfigData}
    (accepted : data.Accepted)
    (productName : List UInt8)
    (discovery : Except Errno Discovery)
    (diskTargets : UInt32 → Option UInt32)
    (tracked : UInt32 → Bool)
    (now : MonotonicTime) : ActivityPath where
  now
  collectors :=
    .fresh (some (bpfConfig data)) diskTargets tracked
  disks :=
    (DiskLeds.init script controller (data.toConfig accepted)
      productName discovery).2
  calls := fun _ => (.network, 0)

end ActivityPath

namespace Collectors

/-- A handler's step, with what it builds and what it puts into the ring. -/
inductive Turn
    (collectors : Collectors)
    (clock : UInt64) :
    Handler → Handler → List LedEvent → List LedEvent → Prop where
  | packetClocked (packet : Packet) :
      Turn collectors clock (.packetArrived packet)
        (.packetClocked packet clock) [] []
  | held (packet : Packet) (now : UInt64) :
      Turn collectors clock (.packetClocked packet now) .returned [] []
  | sent
      (packet : Packet)
      (now : UInt64)
      {event : LedEvent}
      (isNetwork : event.kind = eventNetwork)
      (sampled : event.timestampNs = now) :
      Turn collectors clock (.packetClocked packet now)
        (.emitting event) [event] []
  | mapped
      {dev ledId : UInt32}
      (target : collectors.diskTargets dev = some ledId) :
      Turn collectors clock (.requestIssued dev)
        (.requestMapped dev ledId) [] []
  | unmapped
      {dev : UInt32}
      (missing :
        collectors.diskTargets dev = none ∨
          collectors.diskStates dev = none) :
      Turn collectors clock (.requestIssued dev) .returned [] []
  | requestClocked (dev ledId : UInt32) :
      Turn collectors clock (.requestMapped dev ledId)
        (.requestClocked dev ledId clock) [] []
  | loaded
      {dev ledId : UInt32}
      {now oldDeadline : UInt64}
      (found : collectors.diskStates dev = some oldDeadline) :
      Turn collectors clock (.requestClocked dev ledId now)
        (.requestLoaded dev ledId now oldDeadline) [] []
  | refused
      {dev ledId : UInt32}
      {now oldDeadline : UInt64}
      (fails :
        ¬ ((oldDeadline = 0 ∨ now ≥ oldDeadline) ∧
          collectors.diskStates dev = some oldDeadline)) :
      Turn collectors clock (.requestLoaded dev ledId now oldDeadline)
        .returned [] []
  | passed (dev ledId : UInt32) (now oldDeadline : UInt64) :
      Turn collectors clock (.requestLoaded dev ledId now oldDeadline)
        (.emitting (diskEvent dev ledId now))
        [diskEvent dev ledId now] []
  | output (event : LedEvent) :
      Turn collectors clock (.emitting event) .returned [] [event]

/-- One handler takes its turn. -/
theorem turn_of_advance
    {collectors next : Collectors}
    {index : Nat}
    {clock : UInt64}
    (taken : collectors.advance index clock = some next) :
    ∃ handler following built output,
      collectors.handlers[index]? = some handler ∧
        collectors.Turn clock handler following built output ∧
        next.handlers = collectors.handlers.set index following ∧
        next.emitted =
          collectors.emitted ++ built.map (fun event => (index, event)) ∧
        next.ring = collectors.ring ++ output ∧
        next.diskTargets = collectors.diskTargets := by
  cases found : collectors.handlers[index]? with
  | none =>
      simp [advance, found] at taken
  | some handler =>
      cases handler with
      | returned =>
          simp [advance, found] at taken
      | packetArrived packet =>
          simp only [advance, found, Option.some.injEq] at taken
          subst taken
          exact
            ⟨_, _, _, _, rfl, .packetClocked packet, rfl,
              by simp [setHandler],
              by simp [setHandler], rfl⟩
      | packetClocked packet now =>
          simp only [advance, found, Option.some.injEq] at taken
          subst taken
          by_cases opens :
              (collectors.networkState.add packet).nextEmitNs = 0 ∨
                now ≥ (collectors.networkState.add packet).nextEmitNs
          · simp only [lock, lockedSection, if_pos opens]
            exact
              ⟨_, _, _, _, rfl, .sent packet now rfl rfl, rfl, rfl,
                by simp [setHandler], rfl⟩
          · simp only [lock, lockedSection, if_neg opens]
            exact
              ⟨_, _, _, _, rfl, .held packet now, rfl,
                by simp [setHandler], by simp [setHandler], rfl⟩
      | requestIssued dev =>
          simp only [advance, found] at taken
          split at taken
          · rename_i ledId deadline target isTracked
            cases taken
            exact
              ⟨_, _, _, _, rfl, .mapped target, rfl, by simp [setHandler],
                by simp [setHandler], rfl⟩
          · rename_i missing
            cases taken
            refine
              ⟨_, _, _, _, rfl, .unmapped ?_, rfl, by simp [setHandler],
                by simp [setHandler], rfl⟩
            cases target : collectors.diskTargets dev with
            | none =>
                exact Or.inl rfl
            | some ledId =>
                cases state : collectors.diskStates dev with
                | none =>
                    exact Or.inr rfl
                | some deadline =>
                    exact (missing ledId deadline target state).elim
      | requestMapped dev ledId =>
          simp only [advance, found, Option.some.injEq] at taken
          subst taken
          exact
            ⟨_, _, _, _, rfl, .requestClocked dev ledId, rfl,
              by simp [setHandler], by simp [setHandler], rfl⟩
      | requestClocked dev ledId now =>
          simp only [advance, found] at taken
          split at taken
          · cases taken
          · rename_i oldDeadline state
            cases taken
            exact
              ⟨_, _, _, _, rfl, .loaded state, rfl, by simp [setHandler],
                by simp [setHandler], rfl⟩
      | requestLoaded dev ledId now oldDeadline =>
          simp only [advance, found, Option.some.injEq] at taken
          subst taken
          by_cases passes :
              (oldDeadline = 0 ∨ now ≥ oldDeadline) ∧
                collectors.diskStates dev = some oldDeadline
          · simp only [swap, if_pos passes]
            exact
              ⟨_, _, _, _, rfl, .passed dev ledId now oldDeadline, rfl,
                rfl, by simp [setHandler], rfl⟩
          · simp only [swap, if_neg passes]
            exact
              ⟨_, _, _, _, rfl, .refused passes, rfl,
                by simp [setHandler], by simp [setHandler], rfl⟩
      | emitting event =>
          simp only [advance, found, Option.some.injEq] at taken
          subst taken
          exact
            ⟨_, _, _, _, rfl, .output event, rfl, by simp [setHandler],
              rfl, rfl⟩

end Collectors

/-- An event of a disk carries the LED of the disk. -/
def LedEvent.Labelled
    (diskTargets : UInt32 → Option UInt32)
    (event : LedEvent) : Prop :=
  event.kind = eventDisk →
    ∃ ledId,
      diskTargets event.source = some ledId ∧
        event.ledId = ledId.toUInt8

/-- What a handler does fits what it was called for, and when. -/
def Handler.Attends
    (diskTargets : UInt32 → Option UInt32)
    (now : Nat)
    (call : Source × Nat) : Handler → Prop
  | .packetArrived _ =>
      call.1 = .network
  | .packetClocked _ reading =>
      call.1 = .network ∧ reading.toNat ≤ now
  | .requestIssued dev =>
      call.1 = .disk dev
  | .requestMapped dev ledId =>
      call.1 = .disk dev ∧ diskTargets dev = some ledId
  | .requestClocked dev ledId reading
  | .requestLoaded dev ledId reading _ =>
      call.1 = .disk dev ∧
        diskTargets dev = some ledId ∧
        call.2 ≤ reading.toNat ∧
        reading.toNat ≤ now
  | .emitting event =>
      event.Labelled diskTargets
  | .returned =>
      True

section Attends

variable
  {diskTargets : UInt32 → Option UInt32}
  {now : Nat}
  {call : Source × Nat}
  {handler : Handler}

/-- What a handler does still fits later. -/
theorem Handler.Attends.mono
    (attends : handler.Attends diskTargets now call)
    {later : Nat}
    (after : now ≤ later) :
    handler.Attends diskTargets later call := by
  cases handler with
  | packetClocked packet reading =>
      exact ⟨attends.1, attends.2.trans after⟩
  | requestClocked dev ledId reading =>
      obtain ⟨isDisk, target, called, past⟩ := attends
      exact ⟨isDisk, target, called, past.trans after⟩
  | requestLoaded dev ledId reading oldDeadline =>
      obtain ⟨isDisk, target, called, past⟩ := attends
      exact ⟨isDisk, target, called, past.trans after⟩
  | _ =>
      exact attends

variable
  {collectors : Collectors}
  {clock : UInt64}
  {following : Handler}
  {built output : List LedEvent}
  (turn : collectors.Turn clock handler following built output)
  (fits : handler.Attends collectors.diskTargets clock.toNat call)

include turn fits

/-- What a handler does fits after its turn. -/
theorem Collectors.Turn.attends (called : call.2 ≤ clock.toNat) :
    following.Attends collectors.diskTargets clock.toNat call := by
  cases turn with
  | packetClocked packet =>
      exact ⟨fits, Nat.le_refl _⟩
  | held packet now =>
      trivial
  | sent packet now isNetwork sampled =>
      intro isDisk
      rw [isNetwork] at isDisk
      exact absurd isDisk (by decide)
  | mapped target =>
      exact ⟨fits, target⟩
  | unmapped missing =>
      trivial
  | requestClocked dev ledId =>
      exact ⟨fits.1, fits.2, called, Nat.le_refl _⟩
  | loaded found =>
      exact fits
  | refused fails =>
      trivial
  | passed dev ledId now oldDeadline =>
      intro _
      exact ⟨ledId, fits.2.1, rfl⟩
  | output event =>
      trivial

/-- What a handler puts into the ring is labelled. -/
theorem Collectors.Turn.labelled :
    ∀ event ∈ output, event.Labelled collectors.diskTargets := by
  intro event member
  cases turn with
  | output sent =>
      rw [List.mem_singleton.mp member]
      exact fits
  | _ =>
      cases member

/-- What a handler builds carries a reading of the past. -/
theorem Collectors.Turn.past :
    ∀ event ∈ built, event.timestampNs.toNat ≤ clock.toNat := by
  intro event member
  cases turn with
  | sent packet now isNetwork sampled =>
      rw [List.mem_singleton.mp member, sampled]
      exact fits.2
  | passed dev ledId now oldDeadline =>
      rw [List.mem_singleton.mp member]
      exact fits.2.2.2
  | _ =>
      cases member

end Attends

namespace ActivityPath

section Consistent

/-- What holds of every path, however its schedule. -/
structure Consistent
    (data : ConfigData)
    (accepted : data.Accepted)
    (diskTargets : UInt32 → Option UInt32)
    (dev : UInt32)
    (path : ActivityPath) : Prop where
  limited : path.collectors.Limited (some (bpfConfig data))
  targets : path.collectors.diskTargets = diskTargets
  tracked : (path.collectors.diskStates dev).isSome = true
  attends :
    ∀ (id : Nat) (handler : Handler),
      path.collectors.handlers[id]? = some handler →
      handler.Attends diskTargets path.now.ns.toNat (path.calls id)
  called : ∀ id, (path.calls id).2 ≤ path.now.ns.toNat
  past :
    ∀ entry ∈ path.collectors.emitted,
      entry.2.timestampNs.toNat ≤ path.now.ns.toNat
  labelled :
    ∀ event ∈ path.collectors.ring, event.Labelled diskTargets
  wellFormed : path.disks.WellFormed
  configured : path.disks.config = data.toConfig accepted

/-- A second at most does not overflow in nanoseconds. -/
theorem milliseconds_toNat
    {interval : UInt32}
    (short : interval ≤ 1000) :
    (interval.toUInt64 * 1000000).toNat =
      interval.toNat * 1000000 := by
  have below : interval.toNat ≤ 1000 :=
    UInt32.le_iff_toNat_le.mp short
  simp only [UInt64.toNat_mul, UInt32.toNat_toUInt64,
    UInt64.reduceToNat]
  omega

/-- The collectors' intervals are a second at most. -/
theorem sourceInterval_le
    {data : ConfigData}
    (accepted : data.Accepted)
    (source : Source) :
    (sourceInterval (some (bpfConfig data)) source).toNat ≤
      1000000000 := by
  have bounded :
      ∀ interval : UInt32,
        interval ≤ 1000 →
        (chosenInterval
            (some (interval.toUInt64 * 1000000))).toNat ≤
          1000000000 := by
    intro interval short
    have below : interval.toNat ≤ 1000 :=
      UInt32.le_iff_toNat_le.mp short
    simp only [chosenInterval]
    split
    · decide
    · rw [milliseconds_toNat short]
      omega
  cases source with
  | network =>
      exact bounded _ accepted.inRange.networkInterval.2
  | disk dev =>
      exact bounded _ accepted.inRange.diskInterval.2

variable
  {script : Script}
  {data : ConfigData}
  {accepted : data.Accepted}
  {diskTargets : UInt32 → Option UInt32}
  {dev : UInt32}
  {path : ActivityPath}

/-- The clock is far from its end. -/
theorem advance_inRange
    (accepted : data.Accepted)
    (handler : Nat)
    (now : MonotonicTime) :
    (Collectors.Action.advance handler now.ns).InRange
      (some (bpfConfig data)) := by
  intro source
  have below := now.inRange
  have short := sourceInterval_le accepted source
  omega

/-- The handlers after a call. -/
theorem handler_append_cases
    {handlers : List Handler}
    {arrived handler : Handler}
    {id : Nat}
    (found : (handlers ++ [arrived])[id]? = some handler) :
    id < handlers.length ∧ handlers[id]? = some handler ∨
      id = handlers.length ∧ handler = arrived := by
  rw [List.getElem?_append] at found
  split at found
  · rename_i below
    exact Or.inl ⟨below, found⟩
  · rename_i above
    obtain ⟨bound, same⟩ := List.getElem?_eq_some_iff.mp found
    rw [List.length_singleton] at bound
    refine Or.inr ⟨by omega, ?_⟩
    rw [← same]
    exact List.getElem_singleton _

/-- The handlers after a turn. -/
theorem handler_set_cases
    {handlers : List Handler}
    {following handler : Handler}
    {index id : Nat}
    (found : (handlers.set index following)[id]? = some handler) :
    id ≠ index ∧ handlers[id]? = some handler ∨
      id = index ∧ handler = following := by
  by_cases same : id = index
  · subst same
    rw [List.getElem?_set] at found
    simp only [if_true] at found
    split at found
    · exact Or.inr ⟨rfl, (Option.some.inj found).symm⟩
    · cases found
  · rw [List.getElem?_set_ne (Ne.symm same)] at found
    exact Or.inl ⟨same, found⟩

/-- A call leaves the calls before it alone. -/
theorem called_of_lt
    (source : Source)
    {id : Nat}
    (earlier : id < path.collectors.handlers.length) :
    path.called source id = path.calls id :=
  Function.update_of_ne (Nat.ne_of_lt earlier) _ _

theorem called_length (source : Source) :
    path.called source path.collectors.handlers.length =
      (source, path.now.ns.toNat) :=
  Function.update_self _ _ _

/-- A call keeps the path consistent. -/
theorem Consistent.call
    (consistent : path.Consistent data accepted diskTargets dev)
    {source : Source}
    {arrived : Handler}
    (attends :
      arrived.Attends diskTargets path.now.ns.toNat
        (source, path.now.ns.toNat))
    (limited :
      { path.collectors with
        handlers := path.collectors.handlers ++ [arrived] }.Limited
          (some (bpfConfig data))) :
    Consistent data accepted diskTargets dev
      { path with
        collectors :=
          { path.collectors with
            handlers := path.collectors.handlers ++ [arrived] }
        calls := path.called source } := by
  refine
    { consistent with
      limited
      attends := ?_
      called := ?_ }
  · intro id handler found
    change
      handler.Attends diskTargets path.now.ns.toNat
        (path.called source id)
    rcases handler_append_cases found with
        ⟨earlier, found⟩ | ⟨rfl, rfl⟩
    · rw [called_of_lt source earlier]
      exact consistent.attends id handler found
    · rw [called_length]
      exact attends
  · intro id
    change (path.called source id).2 ≤ path.now.ns.toNat
    by_cases isNew : id = path.collectors.handlers.length
    · rw [isNew, called_length]
    · simp only [ActivityPath.called, Function.update_of_ne isNew]
      exact consistent.called id

/-- Every step keeps the path consistent. -/
theorem Consistent.step
    (consistent : path.Consistent data accepted diskTargets dev)
    {action : Action}
    {next : ActivityPath}
    (taken : path.step script action = some next) :
    next.Consistent data accepted diskTargets dev := by
  cases action with
  | wait later =>
      simp only [ActivityPath.step] at taken
      split at taken
      · rename_i after
        cases taken
        have forward : path.now.ns.toNat ≤ later.ns.toNat :=
          UInt64.le_iff_toNat_le.mp after
        exact
          { consistent with
            attends := fun id handler found =>
              (consistent.attends id handler found).mono forward
            called := fun id => (consistent.called id).trans forward
            past := fun entry member =>
              (consistent.past entry member).trans forward }
      · cases taken
  | packet packet =>
      cases taken
      exact consistent.call rfl (consistent.limited.arrive rfl rfl)
  | request dev =>
      cases taken
      exact consistent.call rfl (consistent.limited.arrive rfl rfl)
  | advance index =>
      simp only [ActivityPath.step, collect, Option.map_eq_some_iff]
        at taken
      obtain ⟨collectors, advanced, rfl⟩ := taken
      obtain ⟨handler, following, built, output, found, turn, moved,
        emitted, ring, targets⟩ := Collectors.turn_of_advance advanced
      have attends := consistent.attends index handler found
      rw [← consistent.targets] at attends
      refine
        { consistent with
          limited :=
            consistent.limited.step
              (advance_inRange accepted index path.now) advanced
          targets := targets.trans consistent.targets
          tracked :=
            Collectors.diskStates_isSome_of_advance advanced
              consistent.tracked
          attends := ?_
          past := ?_
          labelled := ?_ }
      · intro id other isThere
        rw [moved] at isThere
        rcases handler_set_cases isThere with
            ⟨-, found⟩ | ⟨rfl, rfl⟩
        · exact consistent.attends id other found
        · rw [← consistent.targets]
          exact turn.attends attends (consistent.called id)
      · intro entry member
        rw [emitted] at member
        rcases List.mem_append.mp member with earlier | isNew
        · exact consistent.past entry earlier
        · obtain ⟨event, isBuilt, rfl⟩ := List.mem_map.mp isNew
          exact turn.past attends event isBuilt
      · intro event member
        rw [ring] at member
        rcases List.mem_append.mp member with earlier | isNew
        · exact consistent.labelled event earlier
        · rw [← consistent.targets]
          exact turn.labelled attends event isNew
  | poll settime =>
      simp only [ActivityPath.step] at taken
      cases isRing : path.collectors.ring with
      | nil =>
          simp only [isRing, reduceCtorEq] at taken
      | cons event rest =>
          simp only [isRing, Option.some.injEq] at taken
          subst taken
          refine
            { consistent with
              limited :=
                ⟨consistent.limited.configured,
                  consistent.limited.inRange,
                  consistent.limited.tracked,
                  consistent.limited.deadline,
                  consistent.limited.spaced⟩
              labelled := fun other member =>
                consistent.labelled other
                  (isRing ▸ List.mem_cons_of_mem event member)
              wellFormed := ?_
              configured := ?_ }
          · simp only [deliver]
            split
            · exact
                (DiskLeds.handleActivity_stays script
                  consistent.wellFormed event.ledId _ settime).wellFormed
            · exact consistent.wellFormed
          · simp only [deliver]
            split
            · exact
                (DiskLeds.handleActivity_config script path.disks
                  event.ledId _ settime).trans consistent.configured
            · exact consistent.configured
  | timer read settime =>
      simp only [ActivityPath.step] at taken
      split at taken
      · cases taken
      · rename_i disks handled
        cases taken
        have disksEq :
            disks =
              (path.disks.handleTimer script (some path.now) read
                settime).2 := by
          rw [handled]
        refine { consistent with wellFormed := ?_, configured := ?_ }
        · rw [disksEq]
          exact
            (DiskLeds.handleTimer_stays script consistent.wellFormed
              _ read settime).wellFormed
        · rw [disksEq]
          exact
            (DiskLeds.handleTimer_config script path.disks _ read
              settime).trans consistent.configured

/-- The events are of the past. -/
theorem Consistent.past_of_mem
    (consistent : path.Consistent data accepted diskTargets dev)
    {source : Source}
    {event : LedEvent}
    (member : event ∈ path.collectors.eventsOf source) :
    event.timestampNs.toNat ≤ path.now.ns.toNat := by
  obtain ⟨isEmitted, -⟩ := List.mem_filter.mp member
  obtain ⟨entry, isThere, rfl⟩ := List.mem_map.mp isEmitted
  exact consistent.past entry isThere

end Consistent

end ActivityPath

end UgreenLeds
