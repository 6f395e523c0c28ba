import UgreenLeds.CollectorSteps
import UgreenLeds.DeadlineGate
import UgreenLeds.PartialRun

/-!
# The collectors' rate limit

Both programs let an event pass a deadline as a gate does, although a handler
may hold its clock reading for as long as it likes.  An invariant over all
handlers and deadlines gives the spacing of every source's events, and comparing
the states at a load and at the swap that follows it shows that no request of a
tracked disk goes unrepresented.
-/

namespace UgreenLeds

namespace Collectors

/-- No clock reading comes within an interval of the end of the clock. -/
def Action.InRange (config : Option BpfConfig) : Action → Prop
  | .advance _ clock =>
      ∀ source,
        clock.toNat + (sourceInterval config source).toNat < 2 ^ 64
  | _ =>
      True

/--
Every handler's reading is in range and its disk tracked, every source's
deadline is the one its events have set, and its events are an interval apart.
-/
structure Limited
    (config : Option BpfConfig)
    (collectors : Collectors) : Prop where
  configured :
    collectors.config = config
  inRange :
    ∀ handler ∈ collectors.handlers,
      ∀ source now,
        handler.sample? = some (source, now) →
        now.toNat + (sourceInterval config source).toNat < 2 ^ 64
  tracked :
    ∀ handler ∈ collectors.handlers,
      ∀ dev,
        handler.mapped? = some dev →
        (collectors.diskStates dev).isSome = true
  deadline :
    ∀ source deadline,
      collectors.deadline? source = some deadline →
      deadline.toNat =
        DeadlineGate.deadlineAfter
          (sourceInterval config source).toNat
          (collectors.times source)
  spaced :
    ∀ source,
      DeadlineGate.Spaced (sourceInterval config source).toNat
        (collectors.times source)

/-- Without an event the timestamps stay. -/
theorem Quiet.times_eq
    {collectors next : Collectors}
    (quiet : collectors.Quiet next)
    (source : Source) :
    next.times source = collectors.times source := by
  simp only [times, eventsOf, quiet.emitted]

/-- An event adds its timestamp to those of its source and to no other. -/
theorem Emits.times_eq
    {collectors next : Collectors}
    {index : Nat}
    {source : Source}
    {event : LedEvent}
    (emits : collectors.Emits next index source event)
    (other : Source) :
    next.times other =
      if other = source then
        collectors.times other ++ [event.timestampNs.toNat]
      else
        collectors.times other := by
  by_cases same : other = source
  · simp [times, eventsOf, emits.emitted, emits.owned, same]
  · simp [times, eventsOf, emits.emitted, emits.owned, same]

/-- A deadline that lets a time pass opens the gate. -/
theorem Limited.opens
    {config : Option BpfConfig}
    {collectors next : Collectors}
    (limited : collectors.Limited config)
    {index : Nat}
    {source : Source}
    {event : LedEvent}
    (emits : collectors.Emits next index source event) :
    DeadlineGate.Opens
      (DeadlineGate.deadlineAfter
        (sourceInterval config source).toNat
        (collectors.times source))
      event.timestampNs.toNat := by
  obtain ⟨deadline, found, opens⟩ := emits.opens
  rw [← limited.deadline source deadline found]
  rcases opens with unset | reached
  · exact Or.inl (by rw [unset]; rfl)
  · exact Or.inr (UInt64.le_iff_toNat_le.mp reached)

/-- The deadlines of tracked disks never disappear. -/
theorem diskStates_isSome_of_advance
    {collectors next : Collectors}
    {index : Nat}
    {clock : UInt64}
    (taken : collectors.advance index clock = some next)
    {dev : UInt32}
    (tracked : (collectors.diskStates dev).isSome = true) :
    (next.diskStates dev).isSome = true := by
  rcases advance_cases taken with quiet | ⟨source, event, emits⟩
  · have same := quiet.deadline (.disk dev)
    simp only [deadline?] at same
    rw [same]
    exact tracked
  · have rearmed := emits.rearmed (.disk dev)
    simp only [deadline?] at rearmed
    rw [rearmed]
    split
    · rfl
    · exact tracked

/-- A handler that has just arrived carries no reading and knows no disk. -/
theorem Limited.arrive
    {config : Option BpfConfig}
    {collectors : Collectors}
    (limited : collectors.Limited config)
    {handler : Handler}
    (unsampled : handler.sample? = none)
    (unmapped : handler.mapped? = none) :
    { collectors with
      handlers := collectors.handlers ++ [handler] }.Limited config := by
  refine ⟨limited.configured, ?_, ?_, limited.deadline, limited.spaced⟩
  · intro other member source now carries
    rcases List.mem_append.mp member with earlier | latest
    · exact limited.inRange other earlier source now carries
    · rw [List.mem_singleton.mp latest, unsampled] at carries
      cases carries
  · intro other member dev finds
    rcases List.mem_append.mp member with earlier | latest
    · exact limited.tracked other earlier dev finds
    · rw [List.mem_singleton.mp latest, unmapped] at finds
      cases finds

section Advance

variable
  {config : Option BpfConfig}
  {collectors next : Collectors}
  (limited : collectors.Limited config)
  {index : Nat}
  {clock : UInt64}
  (taken : collectors.advance index clock = some next)

include limited taken

/-- Readings stay in range when a handler in range moves on. -/
theorem Limited.inRange_of_advance
    (inRange :
      ∀ source,
        clock.toNat + (sourceInterval config source).toNat < 2 ^ 64) :
    ∀ handler ∈ next.handlers,
      ∀ source now,
        handler.sample? = some (source, now) →
        now.toNat + (sourceInterval config source).toNat < 2 ^ 64 := by
  obtain ⟨-, handler, following, found, moves, moved⟩ :=
    advance_moves taken
  intro other member source now carries
  rw [moved] at member
  rcases List.mem_or_eq_of_mem_set member with earlier | isNew
  · exact limited.inRange other earlier source now carries
  · rw [isNew] at carries
    rcases moves.sample carries with carried | isClock
    · exact
        limited.inRange handler (List.mem_of_getElem? found) source now
          carried
    · rw [isClock]
      exact inRange source

/-- The disks that handlers have found stay tracked. -/
theorem Limited.tracked_of_advance :
    ∀ handler ∈ next.handlers,
      ∀ dev,
        handler.mapped? = some dev →
        (next.diskStates dev).isSome = true := by
  obtain ⟨-, handler, following, found, moves, moved⟩ :=
    advance_moves taken
  intro other member dev finds
  apply diskStates_isSome_of_advance taken
  rw [moved] at member
  rcases List.mem_or_eq_of_mem_set member with earlier | isNew
  · exact limited.tracked other earlier dev finds
  · rw [isNew] at finds
    rcases moves.mapped_tracked finds with known | isTracked
    · exact
        limited.tracked handler (List.mem_of_getElem? found) dev known
    · exact isTracked

end Advance

section Emit

variable
  {config : Option BpfConfig}
  {collectors next : Collectors}
  (limited : collectors.Limited config)
  {index : Nat}
  {source : Source}
  {event : LedEvent}
  (emits : collectors.Emits next index source event)

include limited emits

/-- An event's timestamp is its handler's reading, so its deadline fits. -/
theorem Limited.timestamp_inRange :
    event.timestampNs.toNat + (sourceInterval config source).toNat <
      2 ^ 64 := by
  obtain ⟨handler, isThere, carries⟩ := emits.sampled
  exact
    limited.inRange handler (List.mem_of_getElem? isThere) source
      event.timestampNs carries

/-- After an event, every deadline is the one the events have set. -/
theorem Limited.deadline_of_emits
    {other : Source}
    {deadline : UInt64}
    (isSet : next.deadline? other = some deadline) :
    deadline.toNat =
      DeadlineGate.deadlineAfter (sourceInterval config other).toNat
        (next.times other) := by
  rw [emits.rearmed, limited.configured] at isSet
  rw [emits.times_eq]
  by_cases same : other = source
  · rw [if_pos same, Option.some.injEq] at isSet
    rw [if_pos same, same, DeadlineGate.deadlineAfter_concat, ← isSet,
      UInt64.toNat_add,
      Nat.mod_eq_of_lt (limited.timestamp_inRange emits)]
  · rw [if_neg same] at isSet ⊢
    exact limited.deadline other deadline isSet

/-- After an event, the events of every source are an interval apart. -/
theorem Limited.spaced_of_emits (other : Source) :
    DeadlineGate.Spaced (sourceInterval config other).toNat
      (next.times other) := by
  rw [emits.times_eq]
  by_cases same : other = source
  · rw [if_pos same, same]
    exact
      (limited.spaced source).concat (sourceInterval_pos config source)
        (limited.opens emits)
  · rw [if_neg same]
    exact limited.spaced other

end Emit

/-- Every action keeps the rate limit. -/
theorem Limited.step
    {config : Option BpfConfig}
    {collectors next : Collectors}
    (limited : collectors.Limited config)
    {action : Action}
    (inRange : action.InRange config)
    (taken : collectors.step action = some next) :
    next.Limited config := by
  cases action with
  | packet packet =>
      cases taken
      exact limited.arrive rfl rfl
  | request dev =>
      cases taken
      exact limited.arrive rfl rfl
  | advance index clock =>
      have configured : next.config = config :=
        (advance_moves taken).1.trans limited.configured
      have stillInRange := limited.inRange_of_advance taken inRange
      have stillTracked := limited.tracked_of_advance taken
      rcases advance_cases taken with quiet | ⟨source, event, emits⟩
      · refine ⟨configured, stillInRange, stillTracked, ?_, ?_⟩
        · intro source deadline isSet
          rw [quiet.deadline] at isSet
          rw [quiet.times_eq]
          exact limited.deadline source deadline isSet
        · intro source
          rw [quiet.times_eq]
          exact limited.spaced source
      · exact
          ⟨configured, stillInRange, stillTracked,
            fun _ _ isSet => limited.deadline_of_emits emits isSet,
            limited.spaced_of_emits emits⟩

/-- The fresh maps meet the rate limit. -/
theorem fresh_limited
    (config : Option BpfConfig)
    (diskTargets : UInt32 → Option UInt32)
    (tracked : UInt32 → Bool) :
    (fresh config diskTargets tracked).Limited config := by
  refine ⟨rfl, ?_, ?_, ?_, fun _ => DeadlineGate.spaced_nil _⟩
  · intro handler member
    cases member
  · intro handler member
    cases member
  · intro source deadline isSet
    have empty :
        (fresh config diskTargets tracked).times source = [] := rfl
    rw [empty]
    cases source with
    | network =>
        cases isSet
        rfl
    | disk dev =>
        simp only [deadline?, fresh] at isSet
        split at isSet
        · cases isSet
          rfl
        · cases isSet

/--
Since a handler loaded its deadline, it has not swapped yet and only others have
built events, or it has settled.
-/
def SinceLoad
    (before : Collectors)
    (id : Nat)
    (handler : Handler)
    (collectors : Collectors) : Prop :=
  (collectors.handlers[id]? = some handler ∧
      ∃ later,
        collectors.emitted = before.emitted ++ later ∧
          ∀ entry ∈ later, entry.1 ≠ id) ∨
    ∃ settled,
      collectors.handlers[id]? = some settled ∧ settled.Settled

/-- Every step keeps what holds since a load. -/
theorem SinceLoad.step
    {before collectors next : Collectors}
    {id : Nat}
    {dev ledId : UInt32}
    {now oldDeadline : UInt64}
    (since :
      SinceLoad before id (.requestLoaded dev ledId now oldDeadline)
        collectors)
    {action : Action}
    (taken : collectors.step action = some next) :
    SinceLoad before id (.requestLoaded dev ledId now oldDeadline)
      next := by
  by_cases own : ∃ clock, action = .advance id clock
  · obtain ⟨clock, rfl⟩ := own
    obtain ⟨-, handler, following, found, moves, moved⟩ :=
      advance_moves taken
    have inRange : id < collectors.handlers.length :=
      (List.getElem?_eq_some_iff.mp found).1
    refine Or.inr ⟨following, ?_, ?_⟩
    · rw [moved, List.getElem?_set_self inRange]
    · rcases since with ⟨loaded, -⟩ | ⟨settled, isThere, isSettled⟩
      · rw [found, Option.some.injEq] at loaded
        subst loaded
        cases moves with
        | proceeds step =>
            cases step
        | swapped dev ledId now oldDeadline settled =>
            exact settled
      · rw [found, Option.some.injEq] at isThere
        exact moves.settled (isThere ▸ isSettled)
  · have foreign : ∀ clock, action ≠ .advance id clock :=
      fun clock same => own ⟨clock, same⟩
    rcases since with
        ⟨loaded, later, appended, others⟩ |
          ⟨settled, isThere, isSettled⟩
    · obtain ⟨fresh, extended, makers⟩ := step_emitted taken
      refine
        Or.inl
          ⟨handler_of_step taken foreign loaded, later ++ fresh, ?_, ?_⟩
      · rw [extended, appended, List.append_assoc]
      · intro entry member
        rcases List.mem_append.mp member with earlier | latest
        · exact others entry earlier
        · obtain ⟨clock, made⟩ := makers entry latest
          intro same
          exact foreign clock (same ▸ made)
    · exact
        Or.inr
          ⟨settled, handler_of_step taken foreign isThere, isSettled⟩

/--
What a request of a disk has to show for itself: its handler builds an event, or
the last event before its load is too recent, or another handler has built one
between its load and its swap.
-/
def Covered
    (before atSwap after : Collectors)
    (id : Nat)
    (dev : UInt32)
    (now : UInt64) : Prop :=
  (∃ event,
      (Source.disk dev).owns event = true ∧
        event.timestampNs = now ∧
        after.emitted = atSwap.emitted ++ [(id, event)]) ∨
    (∃ last,
      (before.eventsOf (.disk dev)).getLast? = some last ∧
        now.toNat <
          last.timestampNs.toNat +
            (diskInterval before.config).toNat) ∨
    ∃ other event,
      other ≠ id ∧
        (Source.disk dev).owns event = true ∧
        (other, event) ∈
          atSwap.emitted.drop before.emitted.length

/-- A deadline that has changed was changed by an event. -/
theorem Limited.event_of_deadline_ne
    {config : Option BpfConfig}
    {before atSwap : Collectors}
    (limitedBefore : before.Limited config)
    (limitedAtSwap : atSwap.Limited config)
    {later : List (Nat × LedEvent)}
    (appended : atSwap.emitted = before.emitted ++ later)
    {source : Source}
    {deadline oldDeadline : UInt64}
    (found : atSwap.deadline? source = some deadline)
    (loaded : before.deadline? source = some oldDeadline)
    (differs : deadline ≠ oldDeadline) :
    ∃ entry ∈ later, source.owns entry.2 = true := by
  have split :
      atSwap.times source =
        before.times source ++
          ((later.map Prod.snd).filter source.owns).map
            fun event => event.timestampNs.toNat := by
    simp [times, eventsOf, appended]
  have deadlinesDiffer :
      DeadlineGate.deadlineAfter (sourceInterval config source).toNat
          (before.times source ++
            ((later.map Prod.snd).filter source.owns).map
              fun event => event.timestampNs.toNat) ≠
        DeadlineGate.deadlineAfter (sourceInterval config source).toNat
          (before.times source) := by
    rw [← split, ← limitedAtSwap.deadline source deadline found,
      ← limitedBefore.deadline source oldDeadline loaded]
    intro same
    exact differs (UInt64.toNat_inj.mp same)
  have moved := DeadlineGate.passed_of_deadline_ne deadlinesDiffer
  obtain ⟨event, member⟩ :=
    List.exists_mem_of_ne_nil _ (mt List.map_eq_nil_iff.mpr moved)
  obtain ⟨inLater, owned⟩ := List.mem_filter.mp member
  obtain ⟨entry, isThere, rfl⟩ := List.mem_map.mp inLater
  exact ⟨entry, isThere, owned⟩

/-- A swap with the events of its run so far. -/
theorem Limited.covered
    {config : Option BpfConfig}
    {before atSwap : Collectors}
    (limitedBefore : before.Limited config)
    (limitedAtSwap : atSwap.Limited config)
    {later : List (Nat × LedEvent)}
    (appended : atSwap.emitted = before.emitted ++ later)
    {id : Nat}
    (others : ∀ entry ∈ later, entry.1 ≠ id)
    {dev ledId : UInt32}
    {now oldDeadline deadline : UInt64}
    (loaded : before.diskStates dev = some oldDeadline)
    (found : atSwap.diskStates dev = some deadline) :
    Covered before atSwap (atSwap.swap id dev ledId now oldDeadline)
      id dev now := by
  by_cases opens : oldDeadline = 0 ∨ now ≥ oldDeadline
  · by_cases unchanged : deadline = oldDeadline
    · subst unchanged
      refine
        Or.inl
          ⟨diskEvent dev ledId now, by simp [Source.owns, diskEvent],
            rfl, ?_⟩
      simp only [swap, if_pos (And.intro opens found)]
      rfl
    · have foundDeadline :
          atSwap.deadline? (.disk dev) = some deadline :=
        found
      obtain ⟨⟨other, event⟩, member, owned⟩ :=
        limitedBefore.event_of_deadline_ne limitedAtSwap appended
          foundDeadline loaded unchanged
      refine
        Or.inr
          (Or.inr
            ⟨other, event, others (other, event) member, owned, ?_⟩)
      rw [appended, List.drop_left]
      exact member
  · have closed :
        ¬ DeadlineGate.Opens
            (DeadlineGate.deadlineAfter
              (sourceInterval config (.disk dev)).toNat
              (before.times (.disk dev)))
            now.toNat := by
      rw [← limitedBefore.deadline (.disk dev) oldDeadline loaded]
      rintro (unset | reached)
      · exact opens (Or.inl (UInt64.toNat_inj.mp unset))
      · exact opens (Or.inr (UInt64.le_iff_toNat_le.mpr reached))
    obtain ⟨lastTime, isLast, recent⟩ :=
      DeadlineGate.recent_of_not_opens closed
    simp only [times, List.getLast?_map, Option.map_eq_some_iff]
      at isLast
    obtain ⟨last, isLastEvent, rfl⟩ := isLast
    refine Or.inr (Or.inl ⟨last, isLastEvent, ?_⟩)
    rw [limitedBefore.configured]
    exact recent

/-- The swap of a handler that loaded its deadline earlier in the run. -/
theorem Limited.swap_covered
    {config : Option BpfConfig}
    {before atSwap after : Collectors}
    (limited : before.Limited config)
    {id : Nat}
    {dev ledId : UInt32}
    {now oldDeadline loadClock swapClock : UInt64}
    (clocked :
      before.handlers[id]? = some (.requestClocked dev ledId now))
    {between : List Action}
    (loadInRange : (Action.advance id loadClock).InRange config)
    (inRange : ∀ action ∈ between, action.InRange config)
    (ran :
      PartialRun.run? Collectors.step before
          (.advance id loadClock :: between) =
        some atSwap)
    (loaded :
      atSwap.handlers[id]? =
        some (.requestLoaded dev ledId now oldDeadline))
    (swapped : atSwap.step (.advance id swapClock) = some after) :
    Covered before atSwap after id dev now := by
  obtain ⟨afterLoad, load, rest⟩ := PartialRun.run?_cons_eq_some.mp ran
  have isThere : id < before.handlers.length :=
    (List.getElem?_eq_some_iff.mp clocked).1
  obtain ⟨firstDeadline, found⟩ :=
    Option.isSome_iff_exists.mp
      (limited.tracked _ (List.mem_of_getElem? clocked) dev rfl)
  have afterLoadEq :
      afterLoad =
        before.setHandler id
          (.requestLoaded dev ledId now firstDeadline) := by
    simp only [Collectors.step, advance, clocked, found,
      Option.some.injEq] at load
    exact load.symm
  have start :
      SinceLoad before id (.requestLoaded dev ledId now firstDeadline)
        afterLoad := by
    refine Or.inl ⟨?_, [], ?_, by simp⟩
    · simp [afterLoadEq, setHandler, isThere]
    · simp [afterLoadEq, setHandler]
  have since :=
    PartialRun.invariant_of_step
      (fun holds taken => SinceLoad.step holds taken) start rest
  have limitedAtSwap : atSwap.Limited config :=
    PartialRun.invariant_of_allowed
      (fun holds allowed taken => Limited.step holds allowed taken)
      (limited.step loadInRange load) inRange rest
  rcases since with
      ⟨stillLoaded, later, appended, others⟩ |
        ⟨settled, isSettledThere, isSettled⟩
  · rw [loaded, Option.some.injEq, Handler.requestLoaded.injEq]
      at stillLoaded
    obtain ⟨-, -, -, rfl⟩ := stillLoaded
    obtain ⟨deadline, current⟩ :=
      Option.isSome_iff_exists.mp
        (limitedAtSwap.tracked _ (List.mem_of_getElem? loaded) dev rfl)
    have afterEq :
        after = atSwap.swap id dev ledId now oldDeadline := by
      simp only [Collectors.step, advance, loaded, Option.some.injEq]
        at swapped
      exact swapped.symm
    rw [afterEq]
    exact
      limited.covered limitedAtSwap appended others found current
  · rw [loaded, Option.some.injEq] at isSettledThere
    exact (isSettledThere ▸ isSettled).elim

/--
In every reachable state the timestamps of each source's events are an interval
apart in the order of building.  A handler that has found its disk in the maps
and read the clock can load the deadline, and however long it then stalls, when
it has swapped its request is covered.
-/
theorem rate_limited
    {config : Option BpfConfig}
    {diskTargets : UInt32 → Option UInt32}
    {tracked : UInt32 → Bool}
    {actions : List Action}
    (inRange : ∀ action ∈ actions, action.InRange config)
    {before : Collectors}
    (reached :
      PartialRun.run? step (fresh config diskTargets tracked) actions =
        some before) :
    (∀ source,
      (before.eventsOf source).IsChain fun earlier later =>
        earlier.timestampNs.toNat +
            (sourceInterval config source).toNat ≤
          later.timestampNs.toNat) ∧
      ∀ id dev ledId now,
        before.handlers[id]? = some (.requestClocked dev ledId now) →
        (before.diskStates dev).isSome = true ∧
          ∀ loadClock between atSwap oldDeadline swapClock after,
            (Action.advance id loadClock).InRange config →
            (∀ action ∈ between, action.InRange config) →
            PartialRun.run? step before
                (.advance id loadClock :: between) =
              some atSwap →
            atSwap.handlers[id]? =
              some (.requestLoaded dev ledId now oldDeadline) →
            atSwap.step (.advance id swapClock) = some after →
            Covered before atSwap after id dev now := by
  have limited : before.Limited config :=
    PartialRun.invariant_of_allowed
      (fun holds allowed taken => Limited.step holds allowed taken)
      (fresh_limited config diskTargets tracked) inRange reached
  constructor
  · intro source
    have spaced := limited.spaced source
    simp only [DeadlineGate.Spaced, times, List.isChain_map] at spaced
    exact spaced
  · intro id dev ledId now clocked
    refine
      ⟨limited.tracked _ (List.mem_of_getElem? clocked) dev rfl, ?_⟩
    intro loadClock between atSwap oldDeadline swapClock after
      loadInRange betweenInRange ran loaded swapped
    exact
      limited.swap_covered clocked loadInRange betweenInRange ran loaded
        swapped

/-- A disk interval of 100 ns and the default network interval. -/
def racingConfig : Option BpfConfig :=
  some ⟨0, 100⟩

/-- Two requests of one disk have read the clock 50 ns apart. -/
def twoRequests : List Action :=
  [.request 8, .request 8, .advance 0 0, .advance 1 0,
    .advance 0 1000, .advance 1 1050]

/-- The maps with one disk. -/
def oneDisk : Collectors :=
  fresh racingConfig (fun dev => if dev = 8 then some 2 else none)
    fun dev => dev = 8

/-- Readings within the first microseconds are in range. -/
theorem racing_inRange
    (handler : Nat)
    {clock : UInt64}
    (early : clock ≤ 2000) :
    (Action.advance handler clock).InRange racingConfig := by
  have bounded : clock.toNat ≤ 2000 := UInt64.le_iff_toNat_le.mp early
  have short :
      ∀ source,
        (sourceInterval racingConfig source).toNat ≤ 100000000 := by
    intro source
    cases source with
    | network =>
        have networkShort :
            (networkInterval racingConfig).toNat ≤ 100000000 := by
          decide
        exact networkShort
    | disk dev =>
        have diskShort :
            (diskInterval racingConfig).toNat ≤ 100000000 := by
          decide
        exact diskShort
  intro source
  have := short source
  omega

/-- The second request loses its swap to the first and is covered by it. -/
theorem rate_limited_two_requests :
    ∃ before atSwap after,
      PartialRun.run? step oneDisk twoRequests = some before ∧
      (∀ source,
        (before.eventsOf source).IsChain fun earlier later =>
          earlier.timestampNs.toNat +
              (sourceInterval racingConfig source).toNat ≤
            later.timestampNs.toNat) ∧
      PartialRun.run? step before
          [.advance 1 0, .advance 0 0, .advance 0 0] =
        some atSwap ∧
      atSwap.step (.advance 1 0) = some after ∧
      Covered before atSwap after 1 8 1050 := by
  obtain ⟨before, reached, clocked, atSwap, ran, loaded, after, swapped⟩ :
      ∃ before,
        PartialRun.run? step oneDisk twoRequests = some before ∧
          before.handlers[1]? = some (.requestClocked 8 2 1050) ∧
          ∃ atSwap,
            PartialRun.run? step before
                [.advance 1 0, .advance 0 0, .advance 0 0] =
              some atSwap ∧
            atSwap.handlers[1]? = some (.requestLoaded 8 2 1050 0) ∧
            ∃ after, atSwap.step (.advance 1 0) = some after :=
    ⟨_, rfl, rfl, _, rfl, rfl, _, rfl⟩
  have inRange :
      ∀ action ∈ twoRequests, action.InRange racingConfig := by
    intro action member
    cases action with
    | packet packet =>
        trivial
    | request dev =>
        trivial
    | advance handler clock =>
        refine racing_inRange handler ?_
        simp only [twoRequests, List.mem_cons, reduceCtorEq,
          Action.advance.injEq, List.not_mem_nil, or_false,
          false_or] at member
        rcases member with
            ⟨-, rfl⟩ | ⟨-, rfl⟩ | ⟨-, rfl⟩ | ⟨-, rfl⟩ <;>
          decide
  have betweenInRange :
      ∀ action ∈ [Action.advance 0 0, .advance 0 0],
        action.InRange racingConfig := by
    intro action member
    simp only [List.mem_cons, List.not_mem_nil, or_false, or_self]
      at member
    rw [member]
    exact racing_inRange 0 (by decide)
  have limited := rate_limited inRange reached
  exact
    ⟨before, atSwap, after, reached, limited.1, ran, swapped,
      (limited.2 1 8 2 1050 clocked).2 0 _ atSwap 0 0 after
        (racing_inRange 1 (by decide)) betweenInRange ran loaded
        swapped⟩

end Collectors

end UgreenLeds
