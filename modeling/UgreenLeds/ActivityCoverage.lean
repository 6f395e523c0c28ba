import UgreenLeds.ActivityPath

/-!
# Each request leaves an event behind

The tracepoint program drops most requests of a busy disk.  An invariant over the
handlers shows that each request that has been dealt with has an event that is
hardly older and hardly younger, however the handlers interleave, as long as none
of them takes longer than a delay.
-/

namespace UgreenLeds

namespace ActivityPath

section Schedule

/-- An event of the disk that has not been delivered yet. -/
def Pending
    (path : ActivityPath)
    (dev : UInt32)
    (event : LedEvent) : Prop :=
  (Source.disk dev).owns event = true ∧
    (event ∈ path.collectors.ring ∨
      Handler.emitting event ∈ path.collectors.handlers)

/-- Until a moment, the disk's handlers and its events take less than a delay. -/
structure Prompt
    (dev : UInt32)
    (delay moment : Nat)
    (path : ActivityPath) : Prop where
  settles :
    ∀ (id : Nat) (handler : Handler),
      path.collectors.handlers[id]? = some handler →
      (path.calls id).1 = .disk dev →
      handler.Settled ∨ moment < (path.calls id).2 + delay
  delivers :
    ∀ event,
      path.Pending dev event →
      moment < event.timestampNs.toNat + delay

/-- The event that a handler is about to put into the ring. -/
def emitting? : Handler → Option LedEvent
  | .emitting event =>
      some event
  | _ =>
      none

theorem emitting?_eq_some
    {handler : Handler}
    {event : LedEvent} :
    emitting? handler = some event ↔ handler = .emitting event := by
  cases handler <;> simp [emitting?]

instance (handler : Handler) : Decidable handler.Settled := by
  cases handler <;> unfold Handler.Settled <;> infer_instance

instance (dev : UInt32) (delay moment : Nat) (path : ActivityPath) :
    Decidable (path.Prompt dev delay moment) :=
  decidable_of_iff
    ((∀ id < path.collectors.handlers.length,
        ∀ handler ∈ path.collectors.handlers[id]?,
          (path.calls id).1 = .disk dev →
          handler.Settled ∨ moment < (path.calls id).2 + delay) ∧
      ∀ event ∈
          path.collectors.ring ++
            path.collectors.handlers.filterMap emitting?,
        (Source.disk dev).owns event = true →
        moment < event.timestampNs.toNat + delay)
    (by
      constructor
      · rintro ⟨settles, delivers⟩
        refine ⟨fun id handler found => ?_, fun event pending => ?_⟩
        · exact
            settles id (List.getElem?_eq_some_iff.mp found).1 handler
              found
        · refine delivers event ?_ pending.1
          simpa [emitting?_eq_some] using pending.2
      · rintro ⟨settles, delivers⟩
        refine ⟨fun id _ handler found => settles id handler found, ?_⟩
        intro event waiting owned
        refine delivers event ⟨owned, ?_⟩
        simpa [emitting?_eq_some] using waiting)

/-- The disk was asked for something shortly before a moment. -/
def Requested
    (dev : UInt32)
    (gap moment : Nat)
    (path : ActivityPath) : Prop :=
  ∃ id,
    id < path.collectors.handlers.length ∧
      (path.calls id).1 = .disk dev ∧
      (path.calls id).2 ≤ moment ∧
      moment ≤ (path.calls id).2 + gap

/-- Time passes only as long as nothing is late and the disk is busy. -/
def KeptBusy
    (dev : UInt32)
    (gap delay : Nat)
    (path : ActivityPath) : Action → Prop
  | .wait later =>
      path.Prompt dev delay later.ns.toNat ∧
        path.Requested dev gap later.ns.toNat
  | _ =>
      True

instance (dev : UInt32) (gap moment : Nat) (path : ActivityPath) :
    Decidable (path.Requested dev gap moment) :=
  inferInstanceAs (Decidable (∃ id, id < _ ∧ _))

instance (dev : UInt32) (gap delay : Nat) (path : ActivityPath) :
    ∀ action, Decidable (path.KeptBusy dev gap delay action)
  | .wait _ =>
      inferInstanceAs (Decidable (_ ∧ _))
  | .packet _ | .request _ | .advance _ | .poll _ | .timer _ _ =>
      isTrue trivial

/-- An event of the disk is close to the time of a call. -/
def Represented
    (dev : UInt32)
    (interval delay called : Nat)
    (path : ActivityPath) : Prop :=
  ∃ event ∈ path.collectors.eventsOf (.disk dev),
    called < event.timestampNs.toNat + (interval + delay) ∧
      event.timestampNs.toNat < called + delay

/--
Since a moment, each request that has been dealt with has an event close to it.
-/
structure Covering
    (dev : UInt32)
    (since interval gap delay : Nat)
    (path : ActivityPath) : Prop where
  prompt : path.Prompt dev delay path.now.ns.toNat
  loaded :
    ∀ (id : Nat) (ledId : UInt32) (reading oldDeadline : UInt64),
      path.collectors.handlers[id]? =
        some (.requestLoaded dev ledId reading oldDeadline) →
      since < (path.calls id).2 →
      oldDeadline.toNat =
          DeadlineGate.deadlineAfter interval
            (path.collectors.times (.disk dev)) ∨
        ∃ event ∈ path.collectors.eventsOf (.disk dev),
          reading.toNat < event.timestampNs.toNat + delay
  covered :
    ∀ (id : Nat) (handler : Handler),
      path.collectors.handlers[id]? = some handler →
      handler.Settled →
      (path.calls id).1 = .disk dev →
      since < (path.calls id).2 →
      path.Represented dev interval delay (path.calls id).2
  dense :
    ∀ moment,
      since < moment →
      moment ≤ path.now.ns.toNat →
      path.Requested dev gap moment

end Schedule

section Turn

variable
  {collectors : Collectors}
  {clock : UInt64}
  {handler following : Handler}
  {built output : List LedEvent}

/-- A turn builds an event of the disk only from a deadline that was loaded. -/
theorem built_cases
    (turn : collectors.Turn clock handler following built output)
    (dev : UInt32) :
    (∀ event ∈ built, (Source.disk dev).owns event = false) ∨
      ∃ ledId reading oldDeadline,
        handler = .requestLoaded dev ledId reading oldDeadline ∧
          following =
            .emitting (Collectors.diskEvent dev ledId reading) ∧
          built = [Collectors.diskEvent dev ledId reading] := by
  cases turn with
  | sent packet now isNetwork sampled =>
      left
      intro event member
      rw [List.mem_singleton.mp member]
      simp [Source.owns, isNetwork, eventNetwork, eventDisk]
  | passed other ledId now oldDeadline =>
      by_cases same : other = dev
      · subst same
        exact Or.inr ⟨ledId, now, oldDeadline, rfl, rfl, rfl⟩
      · left
        intro event member
        rw [List.mem_singleton.mp member]
        simp [Source.owns, Collectors.diskEvent, same]
  | _ =>
      left
      intro event member
      cases member

/-- A handler that is settled stays so. -/
theorem settled_of_turn
    (turn : collectors.Turn clock handler following built output)
    (settled : handler.Settled) :
    following.Settled := by
  cases turn <;> trivial

/-- What a turn adds to the events of a source. -/
theorem eventsOf_append
    {next : Collectors}
    {index : Nat}
    (emitted :
      next.emitted =
        collectors.emitted ++ built.map (fun event => (index, event)))
    (source : Source) :
    next.eventsOf source =
      collectors.eventsOf source ++ built.filter source.owns := by
  simp [Collectors.eventsOf, emitted, Function.comp_def]

end Turn

section Covering

variable
  {script : Script}
  {data : ConfigData}
  {accepted : data.Accepted}
  {diskTargets : UInt32 → Option UInt32}
  {dev : UInt32}
  {since gap delay : Nat}
  {path : ActivityPath}

/-- A call of the disk's tracepoint or of another handler. -/
theorem Covering.call
    {interval : Nat}
    (covering : path.Covering dev since interval gap delay)
    (positive : 0 < delay)
    (source : Source)
    {arrived : Handler}
    (unsettled : ¬ arrived.Settled)
    (notLoaded :
      ∀ ledId reading oldDeadline,
        arrived ≠ .requestLoaded dev ledId reading oldDeadline)
    {collectors : Collectors}
    (handlers :
      collectors.handlers = path.collectors.handlers ++ [arrived])
    (emitted : collectors.emitted = path.collectors.emitted)
    (ring : collectors.ring = path.collectors.ring) :
    Covering dev since interval gap delay
      { path with collectors, calls := path.called source } := by
  have events :
      collectors.eventsOf (.disk dev) =
        path.collectors.eventsOf (.disk dev) := by
    simp only [Collectors.eventsOf, emitted]
  have times :
      collectors.times (.disk dev) =
        path.collectors.times (.disk dev) := by
    simp only [Collectors.times, events]
  refine ⟨⟨?_, ?_⟩, ?_, ?_, ?_⟩
  · intro id handler found isDisk
    change collectors.handlers[id]? = some handler at found
    change (path.called source id).1 = .disk dev at isDisk
    change _ ∨ path.now.ns.toNat < (path.called source id).2 + delay
    rw [handlers] at found
    rcases handler_append_cases found with
        ⟨earlier, found⟩ | ⟨rfl, rfl⟩
    · rw [called_of_lt source earlier] at isDisk ⊢
      exact covering.prompt.settles id handler found isDisk
    · right
      rw [called_length]
      exact Nat.lt_add_of_pos_right positive
  · rintro event ⟨owned, waiting⟩
    change
      event ∈ collectors.ring ∨
        Handler.emitting event ∈ collectors.handlers at waiting
    rw [ring, handlers, List.mem_append, List.mem_singleton] at waiting
    refine covering.prompt.delivers event ⟨owned, ?_⟩
    rcases waiting with inRing | inHandlers | isNew
    · exact Or.inl inRing
    · exact Or.inr inHandlers
    · exact (unsettled (isNew ▸ trivial)).elim
  · intro id ledId reading oldDeadline found recent
    change
      collectors.handlers[id]? =
        some (.requestLoaded dev ledId reading oldDeadline) at found
    change since < (path.called source id).2 at recent
    change
      oldDeadline.toNat =
          DeadlineGate.deadlineAfter interval
            (collectors.times (.disk dev)) ∨
        ∃ event ∈ collectors.eventsOf (.disk dev), _
    rw [handlers] at found
    rw [times, events]
    rcases handler_append_cases found with
        ⟨earlier, found⟩ | ⟨-, isNew⟩
    · rw [called_of_lt source earlier] at recent
      exact covering.loaded id ledId reading oldDeadline found recent
    · exact
        (notLoaded ledId reading oldDeadline isNew.symm).elim
  · intro id handler found settled isDisk recent
    change collectors.handlers[id]? = some handler at found
    change (path.called source id).1 = .disk dev at isDisk
    change since < (path.called source id).2 at recent
    change
      ∃ event ∈ collectors.eventsOf (.disk dev),
        (path.called source id).2 < _ ∧
          _ < (path.called source id).2 + delay
    rw [handlers] at found
    rw [events]
    rcases handler_append_cases found with
        ⟨earlier, found⟩ | ⟨-, rfl⟩
    · rw [called_of_lt source earlier] at isDisk recent ⊢
      exact covering.covered id handler found settled isDisk recent
    · exact (unsettled settled).elim
  · intro moment after past
    obtain ⟨id, earlier, isDisk, before, close⟩ :=
      covering.dense moment after past
    refine ⟨id, ?_, ?_⟩
    · change id < collectors.handlers.length
      rw [handlers, List.length_append]
      exact Nat.lt_add_right _ earlier
    · change
        (path.called source id).1 = .disk dev ∧
          (path.called source id).2 ≤ moment ∧
          moment ≤ (path.called source id).2 + gap
      rw [called_of_lt source earlier]
      exact ⟨isDisk, before, close⟩

/-- Nothing is to be covered yet. -/
theorem Covering.begin
    {interval : Nat}
    (consistent : path.Consistent data accepted diskTargets dev)
    (prompt : path.Prompt dev delay path.now.ns.toNat) :
    path.Covering dev path.now.ns.toNat interval gap delay where
  prompt
  loaded := by
    intro id _ _ _ _ recent
    exact absurd (consistent.called id) (Nat.not_le.mpr recent)
  covered := by
    intro id _ _ _ _ recent
    exact absurd (consistent.called id) (Nat.not_le.mpr recent)
  dense := by
    intro moment after past
    exact absurd past (Nat.not_le.mpr after)

/-- Time passes as the schedule allows. -/
theorem Covering.wait
    {interval : Nat}
    (covering : path.Covering dev since interval gap delay)
    (consistent : path.Consistent data accepted diskTargets dev)
    {later : MonotonicTime}
    (busy : path.KeptBusy dev gap delay (.wait later)) :
    Covering dev since interval gap delay
      { path with now := later } := by
  obtain ⟨prompt, id, earlier, isDisk, -, close⟩ := busy
  refine
    ⟨⟨prompt.settles, prompt.delivers⟩, covering.loaded,
      covering.covered, ?_⟩
  intro moment after past
  by_cases seen : moment ≤ path.now.ns.toNat
  · exact covering.dense moment after seen
  · have called := consistent.called id
    change moment ≤ later.ns.toNat at past
    refine ⟨id, earlier, isDisk, ?_, ?_⟩
    · change (path.calls id).2 ≤ moment
      omega
    · change moment ≤ (path.calls id).2 + gap
      omega

section Advance

variable
  (covering :
    path.Covering dev since
      (diskInterval (some (bpfConfig data))).toNat gap delay)
  (consistent : path.Consistent data accepted diskTargets dev)
  {index : Nat}
  {clock : UInt64}
  {handler following : Handler}
  {built output : List LedEvent}
  (found : path.collectors.handlers[index]? = some handler)
  (turn :
    path.collectors.Turn path.now.ns handler following built output)

include covering consistent found turn

/-- A handler that builds an event of the disk was called a short time ago. -/
theorem Covering.recent_of_built
    {ledId : UInt32}
    {reading oldDeadline : UInt64}
    (isLoaded :
      handler = .requestLoaded dev ledId reading oldDeadline) :
    path.now.ns.toNat < reading.toNat + delay := by
  subst isLoaded
  obtain ⟨isDisk, -, after, -⟩ := consistent.attends index _ found
  rcases covering.prompt.settles index _ found isDisk with
      settled | short
  · exact settled.elim
  · omega

/-- The handlers and the events are in time after a turn. -/
theorem Covering.prompt_of_turn
    {collectors : Collectors}
    (handlers :
      collectors.handlers =
        path.collectors.handlers.set index following)
    (ring : collectors.ring = path.collectors.ring ++ output) :
    Prompt dev delay path.now.ns.toNat { path with collectors } := by
  constructor
  · intro id other isThere isDisk
    change collectors.handlers[id]? = some other at isThere
    change (path.calls id).1 = .disk dev at isDisk
    rw [handlers] at isThere
    rcases handler_set_cases isThere with
        ⟨-, isThere⟩ | ⟨rfl, rfl⟩
    · exact covering.prompt.settles id other isThere isDisk
    · rcases covering.prompt.settles id handler found isDisk with
          settled | short
      · exact Or.inl (settled_of_turn turn settled)
      · exact Or.inr short
  · rintro event ⟨owned, waiting⟩
    change
      event ∈ collectors.ring ∨
        Handler.emitting event ∈ collectors.handlers at waiting
    rw [ring, handlers] at waiting
    have wasPending :
        (event ∈ path.collectors.ring ∨
            Handler.emitting event ∈ path.collectors.handlers) →
          path.now.ns.toNat < event.timestampNs.toNat + delay :=
      fun pending => covering.prompt.delivers event ⟨owned, pending⟩
    rcases waiting with inRing | inHandlers
    · rcases List.mem_append.mp inRing with earlier | isNew
      · exact wasPending (Or.inl earlier)
      · cases turn with
        | output sent =>
            refine wasPending (Or.inr ?_)
            rw [List.mem_singleton.mp isNew]
            exact List.mem_of_getElem? found
        | _ =>
            cases isNew
    · rcases List.mem_or_eq_of_mem_set inHandlers with earlier | isNew
      · exact wasPending (Or.inr earlier)
      · cases turn with
        | sent packet now isNetwork sampled =>
            cases isNew
            simp [Source.owns, isNetwork, eventNetwork, eventDisk]
              at owned
        | passed other ledId now oldDeadline =>
            cases isNew
            have same : other = dev := by
              simpa [Source.owns, Collectors.diskEvent] using owned
            subst same
            exact
              covering.recent_of_built consistent found
                (.passed other ledId now oldDeadline) rfl
        | _ =>
            cases isNew

/-- The deadlines that were loaded are current or overtaken after a turn. -/
theorem Covering.loaded_of_turn
    {next : Collectors}
    (handlers :
      next.handlers = path.collectors.handlers.set index following)
    (emitted :
      next.emitted =
        path.collectors.emitted ++
          built.map (fun event => (index, event)))
    {id : Nat}
    {ledId : UInt32}
    {reading oldDeadline : UInt64}
    (isThere :
      next.handlers[id]? =
        some (.requestLoaded dev ledId reading oldDeadline))
    (recent : since < (path.calls id).2) :
    oldDeadline.toNat =
        DeadlineGate.deadlineAfter
          (diskInterval (some (bpfConfig data))).toNat
          (next.times (.disk dev)) ∨
      ∃ event ∈ next.eventsOf (.disk dev),
        reading.toNat < event.timestampNs.toNat + delay := by
  have events := eventsOf_append emitted (.disk dev)
  rw [handlers] at isThere
  rcases built_cases turn dev with silent | ⟨otherLed, other, old, built⟩
  · have same :
        next.eventsOf (.disk dev) =
          path.collectors.eventsOf (.disk dev) := by
      rw [events, List.filter_eq_nil_iff.mpr, List.append_nil]
      intro event member
      simp [silent event member]
    have sameTimes :
        next.times (.disk dev) = path.collectors.times (.disk dev) := by
      simp only [Collectors.times, same]
    rw [same, sameTimes]
    rcases handler_set_cases isThere with
        ⟨-, isThere⟩ | ⟨rfl, isFollowing⟩
    · exact
        covering.loaded id ledId reading oldDeadline isThere recent
    · subst isFollowing
      cases turn with
      | loaded state =>
          exact
            Or.inl
              (consistent.limited.deadline (.disk dev) oldDeadline
                state)
  · obtain ⟨isLoaded, isFollowing, rfl⟩ := built
    have short :=
      covering.recent_of_built consistent found turn isLoaded
    refine
      Or.inr
        ⟨Collectors.diskEvent dev otherLed other, ?_, ?_⟩
    · rw [events]
      simp [Source.owns, Collectors.diskEvent]
    · rcases handler_set_cases isThere with
          ⟨-, isThere⟩ | ⟨-, isNew⟩
      · have past := (consistent.attends id _ isThere).2.2.2
        exact Nat.lt_of_le_of_lt past short
      · rw [isFollowing] at isNew
        cases isNew

omit found turn in
/-- A request that is turned down has been overtaken by an event. -/
theorem Covering.event_of_refused
    {ledId : UInt32}
    {reading oldDeadline : UInt64}
    (isThere :
      path.collectors.handlers[index]? =
        some (.requestLoaded dev ledId reading oldDeadline))
    (recent : since < (path.calls index).2)
    (fails :
      ¬ ((oldDeadline = 0 ∨ reading ≥ oldDeadline) ∧
        path.collectors.diskStates dev = some oldDeadline)) :
    ∃ event ∈ path.collectors.eventsOf (.disk dev),
      reading.toNat <
        event.timestampNs.toNat +
          ((diskInterval (some (bpfConfig data))).toNat + delay) := by
  rcases covering.loaded index ledId reading oldDeadline isThere
      recent with current | ⟨event, member, close⟩
  · obtain ⟨deadline, isSet⟩ :=
      Option.isSome_iff_exists.mp consistent.tracked
    have tracks :=
      consistent.limited.deadline (.disk dev) deadline isSet
    have same : deadline = oldDeadline :=
      UInt64.toNat_inj.mp (tracks.trans current.symm)
    have closed :
        ¬ DeadlineGate.Opens
            (DeadlineGate.deadlineAfter
              (diskInterval (some (bpfConfig data))).toNat
              (path.collectors.times (.disk dev)))
            reading.toNat := by
      rw [← current]
      intro opens
      refine fails ⟨?_, same ▸ isSet⟩
      rcases opens with unset | reached
      · exact Or.inl (UInt64.toNat_inj.mp unset)
      · exact Or.inr (UInt64.le_iff_toNat_le.mpr reached)
    obtain ⟨last, isLast, short⟩ :=
      DeadlineGate.recent_of_not_opens closed
    obtain ⟨event, member, rfl⟩ :=
      List.mem_map.mp (List.mem_of_getLast? isLast)
    exact ⟨event, member, by omega⟩
  · exact ⟨event, member, by omega⟩

/-- What has been dealt with has an event after a turn. -/
theorem Covering.covered_of_turn
    {ledId : UInt32}
    (target : diskTargets dev = some ledId)
    (positive : 0 < delay)
    {next : Collectors}
    (handlers :
      next.handlers = path.collectors.handlers.set index following)
    (emitted :
      next.emitted =
        path.collectors.emitted ++
          built.map (fun event => (index, event)))
    {id : Nat}
    {other : Handler}
    (isThere : next.handlers[id]? = some other)
    (settled : other.Settled)
    (isDisk : (path.calls id).1 = .disk dev)
    (recent : since < (path.calls id).2) :
    Represented dev (diskInterval (some (bpfConfig data))).toNat delay
      (path.calls id).2 { path with collectors := next } := by
  have events := eventsOf_append emitted (.disk dev)
  have persists :
      ∀ event ∈ path.collectors.eventsOf (.disk dev),
        event ∈ next.eventsOf (.disk dev) := by
    intro event member
    rw [events]
    exact List.mem_append_left _ member
  have interval := sourceInterval_pos (some (bpfConfig data)) (.disk dev)
  change 0 < (diskInterval (some (bpfConfig data))).toNat at interval
  have fits := consistent.attends
  rw [handlers] at isThere
  rcases handler_set_cases isThere with
      ⟨-, isThere⟩ | ⟨rfl, isFollowing⟩
  · obtain ⟨event, member, close⟩ :=
      covering.covered id other isThere settled isDisk recent
    exact ⟨event, persists event member, close⟩
  · subst isFollowing
    have attends := fits id handler found
    cases turn with
    | held packet now | sent packet now =>
        have isNetwork := attends.1
        rw [isDisk] at isNetwork
        cases isNetwork
    | @unmapped request missing =>
        have same : request = dev := by
          have isRequest := attends
          simp only [Handler.Attends, isDisk, Source.disk.injEq]
            at isRequest
          exact isRequest.symm
        subst same
        have tracked := consistent.tracked
        rw [consistent.targets, target] at missing
        rcases missing with noTarget | noState
        · cases noTarget
        · rw [noState] at tracked
          cases tracked
    | @refused request led now oldDeadline fails =>
        obtain ⟨isRequest, -, after, past⟩ := attends
        rw [isDisk, Source.disk.injEq] at isRequest
        subst isRequest
        have short :=
          (covering.prompt.settles id _ found isDisk).resolve_left
            fun settled => settled
        obtain ⟨event, member, close⟩ :=
          covering.event_of_refused consistent found recent fails
        have earlier := consistent.past_of_mem member
        exact
          ⟨event, persists event member,
            (Nat.lt_of_le_of_lt after close).trans_le (by omega),
            by omega⟩
    | passed request led now oldDeadline =>
        obtain ⟨isRequest, -, after, past⟩ := attends
        rw [isDisk, Source.disk.injEq] at isRequest
        subst isRequest
        have short :=
          (covering.prompt.settles id _ found isDisk).resolve_left
            fun settled => settled
        refine ⟨Collectors.diskEvent dev led now, ?_, ?_, ?_⟩
        · change _ ∈ next.eventsOf (.disk dev)
          rw [events]
          simp [Source.owns, Collectors.diskEvent]
        · change (path.calls id).2 < now.toNat + _
          omega
        · change now.toNat < (path.calls id).2 + delay
          omega
    | output event =>
        obtain ⟨event, member, close⟩ :=
          covering.covered id _ found trivial isDisk recent
        exact ⟨event, persists event member, close⟩
    | _ =>
        exact settled.elim

end Advance

/-- Handlers and events that are in time stay so when the ring is polled. -/
theorem Covering.poll
    {interval : Nat}
    (covering : path.Covering dev since interval gap delay)
    {event : LedEvent}
    {rest : List LedEvent}
    (ring : path.collectors.ring = event :: rest)
    (disks : DiskLeds) :
    Covering dev since interval gap delay
      { path with
        collectors := { path.collectors with ring := rest }
        disks } := by
  refine
    ⟨⟨covering.prompt.settles, ?_⟩, covering.loaded,
      covering.covered, covering.dense⟩
  rintro other ⟨owned, waiting⟩
  refine covering.prompt.delivers other ⟨owned, ?_⟩
  rcases waiting with inRing | inHandlers
  · rw [ring]
    exact Or.inl (List.mem_cons_of_mem event inRing)
  · exact Or.inr inHandlers

/-- Every step that the schedule allows leaves the requests covered. -/
theorem Covering.step
    (covering :
      path.Covering dev since
        (diskInterval (some (bpfConfig data))).toNat gap delay)
    (consistent : path.Consistent data accepted diskTargets dev)
    {ledId : UInt32}
    (target : diskTargets dev = some ledId)
    (positive : 0 < delay)
    {action : Action}
    (busy : path.KeptBusy dev gap delay action)
    {next : ActivityPath}
    (taken : path.step script action = some next) :
    next.Covering dev since
      (diskInterval (some (bpfConfig data))).toNat gap delay := by
  cases action with
  | wait later =>
      simp only [ActivityPath.step] at taken
      split at taken
      · cases taken
        exact covering.wait consistent busy
      · cases taken
  | packet packet =>
      cases taken
      refine covering.call positive .network ?_ ?_ rfl rfl rfl
      · exact fun settled => settled
      · intro _ _ _ same
        cases same
  | request requested =>
      cases taken
      refine covering.call positive (.disk requested) ?_ ?_ rfl rfl rfl
      · exact fun settled => settled
      · intro _ _ _ same
        cases same
  | advance index =>
      simp only [ActivityPath.step, collect, Option.map_eq_some_iff]
        at taken
      obtain ⟨collectors, advanced, rfl⟩ := taken
      obtain ⟨handler, following, built, output, found, turn, handlers,
        emitted, ring, -⟩ := Collectors.turn_of_advance advanced
      refine
        ⟨covering.prompt_of_turn consistent found turn handlers ring,
          ?_, ?_, ?_⟩
      · intro id led reading oldDeadline isThere recent
        exact
          covering.loaded_of_turn consistent found turn handlers emitted
            isThere recent
      · intro id other isThere settled isDisk recent
        exact
          covering.covered_of_turn consistent found turn target positive
            handlers emitted isThere settled isDisk recent
      · intro moment after past
        obtain ⟨id, earlier, close⟩ := covering.dense moment after past
        refine ⟨id, ?_, close⟩
        change id < collectors.handlers.length
        rw [handlers, List.length_set]
        exact earlier
  | poll settime =>
      simp only [ActivityPath.step] at taken
      cases isRing : path.collectors.ring with
      | nil =>
          simp only [isRing, reduceCtorEq] at taken
      | cons event rest =>
          simp only [isRing, Option.some.injEq] at taken
          subst taken
          exact covering.poll isRing _
  | timer read settime =>
      simp only [ActivityPath.step] at taken
      split at taken
      · cases taken
      · cases taken
        exact
          ⟨⟨covering.prompt.settles, covering.prompt.delivers⟩,
            covering.loaded, covering.covered, covering.dense⟩

end Covering

end ActivityPath

end UgreenLeds
