import UgreenLeds.Collectors

/-!
# What a step of a collector does

The network state and each tracked disk own a deadline.  Inversion lemmas say
what a step can do to the handlers, to the deadlines and to the events: it moves
one handler on, and it builds at most one event, which the deadline of its source
lets pass.  Later modules cite these lemmas and never unfold a handler.
-/

namespace UgreenLeds

/-- What owns a deadline. -/
inductive Source where
  | network
  | disk (dev : UInt32)
  deriving DecidableEq, Repr

/-- The events of a source. -/
def Source.owns (source : Source) (event : LedEvent) : Bool :=
  match source with
  | .network =>
      event.kind = eventNetwork
  | .disk dev =>
      event.kind = eventDisk ∧ event.source = dev

/-- The interval between two events of a source. -/
def sourceInterval (config : Option BpfConfig) : Source → UInt64
  | .network =>
      networkInterval config
  | .disk _ =>
      diskInterval config

/-- No interval is zero. -/
theorem sourceInterval_pos
    (config : Option BpfConfig)
    (source : Source) :
    0 < (sourceInterval config source).toNat := by
  have chosen :
      ∀ configured, 0 < (chosenInterval configured).toNat := by
    intro configured
    cases configured with
    | none =>
        decide
    | some interval =>
        simp only [chosenInterval]
        split
        · decide
        · rename_i nonzero
          rw [Nat.pos_iff_ne_zero]
          intro zero
          exact nonzero (UInt64.toNat_inj.mp zero)
  cases source with
  | network =>
      exact chosen _
  | disk dev =>
      exact chosen _

/-- The clock reading a handler carries to its deadline. -/
def Handler.sample? : Handler → Option (Source × UInt64)
  | .packetClocked _ now =>
      some (.network, now)
  | .requestClocked dev _ now | .requestLoaded dev _ now _ =>
      some (.disk dev, now)
  | _ =>
      none

/-- The tracked disk a handler has found in the maps. -/
def Handler.mapped? : Handler → Option UInt32
  | .requestMapped dev _ | .requestClocked dev _ _
  | .requestLoaded dev _ _ _ =>
      some dev
  | _ =>
      none

/-- A handler past its lock section or swap. -/
def Handler.Settled : Handler → Prop
  | .emitting _ | .returned =>
      True
  | _ =>
      False

/-- A settled handler needs its reading no longer. -/
theorem Handler.Settled.sample?_eq_none
    {handler : Handler}
    (settled : handler.Settled) :
    handler.sample? = none := by
  cases handler with
  | emitting event =>
      rfl
  | returned =>
      rfl
  | _ =>
      exact settled.elim

/-- A settled handler needs its disk no longer. -/
theorem Handler.Settled.mapped?_eq_none
    {handler : Handler}
    (settled : handler.Settled) :
    handler.mapped? = none := by
  cases handler with
  | emitting event =>
      rfl
  | returned =>
      rfl
  | _ =>
      exact settled.elim

/-- A step between a handler's arrival and its lock section or swap. -/
inductive Handler.Proceeds
    (tracked : UInt32 → Prop)
    (clock : UInt64) :
    Handler → Handler → Prop where
  | readClock (packet : Packet) :
      Proceeds tracked clock (.packetArrived packet)
        (.packetClocked packet clock)
  | mapped (dev ledId : UInt32) (isTracked : tracked dev) :
      Proceeds tracked clock (.requestIssued dev)
        (.requestMapped dev ledId)
  | unmapped (dev : UInt32) :
      Proceeds tracked clock (.requestIssued dev) .returned
  | sampled (dev ledId : UInt32) :
      Proceeds tracked clock (.requestMapped dev ledId)
        (.requestClocked dev ledId clock)
  | loaded (dev ledId : UInt32) (now oldDeadline : UInt64) :
      Proceeds tracked clock (.requestClocked dev ledId now)
        (.requestLoaded dev ledId now oldDeadline)

/-- How one handler moves from step to step. -/
inductive Handler.Moves
    (tracked : UInt32 → Prop)
    (clock : UInt64) :
    Handler → Handler → Prop where
  | proceeds
      {handler following : Handler}
      (step : handler.Proceeds tracked clock following) :
      Moves tracked clock handler following
  | locked
      (packet : Packet)
      (now : UInt64)
      {following : Handler}
      (settled : following.Settled) :
      Moves tracked clock (.packetClocked packet now) following
  | swapped
      (dev ledId : UInt32)
      (now oldDeadline : UInt64)
      {following : Handler}
      (settled : following.Settled) :
      Moves tracked clock (.requestLoaded dev ledId now oldDeadline)
        following
  | output (event : LedEvent) :
      Moves tracked clock (.emitting event) .returned

/-- A handler carries its own reading of the clock and no other. -/
theorem Handler.Moves.sample
    {tracked : UInt32 → Prop}
    {clock : UInt64}
    {handler following : Handler}
    (moves : handler.Moves tracked clock following)
    {source : Source}
    {now : UInt64}
    (carries : following.sample? = some (source, now)) :
    handler.sample? = some (source, now) ∨ now = clock := by
  cases moves with
  | proceeds step =>
      cases step with
      | readClock packet =>
          cases carries
          exact Or.inr rfl
      | mapped dev ledId isTracked =>
          cases carries
      | unmapped dev =>
          cases carries
      | sampled dev ledId =>
          cases carries
          exact Or.inr rfl
      | loaded dev ledId now oldDeadline =>
          exact Or.inl carries
  | locked packet now settled =>
      rw [settled.sample?_eq_none] at carries
      cases carries
  | swapped dev ledId now oldDeadline settled =>
      rw [settled.sample?_eq_none] at carries
      cases carries
  | output event =>
      cases carries

/-- A handler finds a disk in the maps only if it is tracked. -/
theorem Handler.Moves.mapped_tracked
    {tracked : UInt32 → Prop}
    {clock : UInt64}
    {handler following : Handler}
    (moves : handler.Moves tracked clock following)
    {dev : UInt32}
    (finds : following.mapped? = some dev) :
    handler.mapped? = some dev ∨ tracked dev := by
  cases moves with
  | proceeds step =>
      cases step with
      | readClock packet =>
          cases finds
      | mapped dev ledId isTracked =>
          cases finds
          exact Or.inr isTracked
      | unmapped dev =>
          cases finds
      | sampled dev ledId =>
          exact Or.inl finds
      | loaded dev ledId now oldDeadline =>
          exact Or.inl finds
  | locked packet now settled =>
      rw [settled.mapped?_eq_none] at finds
      cases finds
  | swapped dev ledId now oldDeadline settled =>
      rw [settled.mapped?_eq_none] at finds
      cases finds
  | output event =>
      cases finds

/-- A settled handler stays settled. -/
theorem Handler.Moves.settled
    {tracked : UInt32 → Prop}
    {clock : UInt64}
    {handler following : Handler}
    (moves : handler.Moves tracked clock following)
    (settled : handler.Settled) :
    following.Settled := by
  cases moves with
  | proceeds step =>
      cases step <;> trivial
  | locked packet now settles =>
      exact settles
  | swapped dev ledId now oldDeadline settles =>
      exact settles
  | output event =>
      trivial

namespace Collectors

/-- The deadline of a source; a disk may have none. -/
def deadline?
    (collectors : Collectors) :
    Source → Option UInt64
  | .network =>
      some collectors.networkState.nextEmitNs
  | .disk dev =>
      collectors.diskStates dev

/-- The events of a source, in the order of building. -/
def eventsOf
    (collectors : Collectors)
    (source : Source) : List LedEvent :=
  (collectors.emitted.map Prod.snd).filter source.owns

/-- The timestamps of a source's events. -/
def times
    (collectors : Collectors)
    (source : Source) : List Nat :=
  (collectors.eventsOf source).map fun event => event.timestampNs.toNat

/-- A step that builds an event, which the source's deadline lets pass. -/
structure Emits
    (collectors next : Collectors)
    (index : Nat)
    (source : Source)
    (event : LedEvent) : Prop where
  sampled :
    ∃ handler,
      collectors.handlers[index]? = some handler ∧
        handler.sample? = some (source, event.timestampNs)
  owned :
    ∀ other, other.owns event = decide (other = source)
  opens :
    ∃ deadline,
      collectors.deadline? source = some deadline ∧
        (deadline = 0 ∨ event.timestampNs ≥ deadline)
  emitted :
    next.emitted = collectors.emitted ++ [(index, event)]
  rearmed :
    ∀ other,
      next.deadline? other =
        if other = source then
          some
            (event.timestampNs +
              sourceInterval collectors.config source)
        else
          collectors.deadline? other

/-- A step that builds no event. -/
structure Quiet (collectors next : Collectors) : Prop where
  emitted :
    next.emitted = collectors.emitted
  deadline :
    ∀ source, next.deadline? source = collectors.deadline? source

/-- The locked section builds an event exactly if it lets the time pass. -/
theorem lock_cases
    {collectors : Collectors}
    {index : Nat}
    {packet : Packet}
    {now : UInt64}
    (clocked :
      collectors.handlers[index]? = some (.packetClocked packet now)) :
    collectors.Quiet (collectors.lock index packet now) ∨
      ∃ event,
        collectors.Emits (collectors.lock index packet now) index
          .network event := by
  have sameDeadline :
      (collectors.networkState.add packet).nextEmitNs =
        collectors.networkState.nextEmitNs := by
    cases direction : packet.direction with
    | rx =>
        simp [NetworkState.add, direction]
    | tx =>
        simp [NetworkState.add, direction]
  by_cases opens :
      collectors.networkState.nextEmitNs = 0 ∨
        now ≥ collectors.networkState.nextEmitNs
  · right
    simp only [lock, lockedSection, sameDeadline, if_pos opens]
    refine ⟨_, ⟨_, clocked, rfl⟩, ?_, ⟨_, rfl, opens⟩, rfl, ?_⟩
    · intro other
      cases other with
      | network =>
          rfl
      | disk dev =>
          simp [Source.owns, eventNetwork, eventDisk]
    · intro other
      cases other with
      | network =>
          rfl
      | disk dev =>
          rfl
  · left
    simp only [lock, lockedSection, sameDeadline, if_neg opens]
    refine ⟨rfl, ?_⟩
    intro source
    cases source with
    | network =>
        exact congrArg some sameDeadline
    | disk dev =>
        rfl

/-- The swap builds an event exactly if it finds the loaded deadline. -/
theorem swap_cases
    {collectors : Collectors}
    {index : Nat}
    {dev ledId : UInt32}
    {now oldDeadline : UInt64}
    (loaded :
      collectors.handlers[index]? =
        some (.requestLoaded dev ledId now oldDeadline)) :
    collectors.Quiet
        (collectors.swap index dev ledId now oldDeadline) ∨
      ∃ event,
        collectors.Emits
          (collectors.swap index dev ledId now oldDeadline) index
          (.disk dev) event := by
  by_cases passes :
      (oldDeadline = 0 ∨ now ≥ oldDeadline) ∧
        collectors.diskStates dev = some oldDeadline
  · right
    obtain ⟨opens, found⟩ := passes
    refine ⟨diskEvent dev ledId now, ⟨_, loaded, rfl⟩, ?_,
      ⟨oldDeadline, found, opens⟩, ?_, ?_⟩
    · intro other
      cases other with
      | network =>
          simp [Source.owns, diskEvent, eventNetwork, eventDisk]
      | disk otherDev =>
          simp [Source.owns, diskEvent, eq_comm]
    · simp only [swap, if_pos (And.intro opens found)]
      rfl
    · intro other
      simp only [swap, if_pos (And.intro opens found)]
      cases other with
      | network =>
          rfl
      | disk otherDev =>
          by_cases same : otherDev = dev
          · subst same
            simp [deadline?, setHandler, sourceInterval, diskEvent]
          · simp [deadline?, setHandler, same]
  · left
    simp only [swap, if_neg passes]
    exact ⟨rfl, fun _ => rfl⟩

/-- Everything the step of a handler can do. -/
inductive Advances
    (collectors : Collectors)
    (index : Nat)
    (clock : UInt64) :
    Collectors → Prop where
  | proceeds
      {handler following : Handler}
      (found : collectors.handlers[index]? = some handler)
      (step :
        handler.Proceeds
          (fun dev => (collectors.diskStates dev).isSome = true)
          clock following) :
      Advances collectors index clock
        (collectors.setHandler index following)
  | locks
      {packet : Packet}
      {now : UInt64}
      (clocked :
        collectors.handlers[index]? =
          some (.packetClocked packet now)) :
      Advances collectors index clock
        (collectors.lock index packet now)
  | swaps
      {dev ledId : UInt32}
      {now oldDeadline : UInt64}
      (loaded :
        collectors.handlers[index]? =
          some (.requestLoaded dev ledId now oldDeadline)) :
      Advances collectors index clock
        (collectors.swap index dev ledId now oldDeadline)
  | outputs
      {event : LedEvent}
      (emitting :
        collectors.handlers[index]? = some (.emitting event)) :
      Advances collectors index clock
        ({ collectors with ring := collectors.ring ++ [event] }.setHandler
          index .returned)

/-- A handler's step does one of these things. -/
theorem advances_of_advance
    {collectors next : Collectors}
    {index : Nat}
    {clock : UInt64}
    (taken : collectors.advance index clock = some next) :
    collectors.Advances index clock next := by
  cases found : collectors.handlers[index]? with
  | none =>
      simp [advance, found] at taken
  | some handler =>
      cases handler with
      | returned =>
          simp [advance, found] at taken
      | packetArrived packet =>
          simp only [advance, found, Option.some.injEq] at taken
          exact taken ▸ .proceeds found (.readClock packet)
      | packetClocked packet now =>
          simp only [advance, found, Option.some.injEq] at taken
          exact taken ▸ .locks found
      | requestIssued dev =>
          simp only [advance, found] at taken
          split at taken
          · rename_i ledId deadline mapped isTracked
            cases taken
            exact .proceeds found (.mapped dev ledId (by simp [isTracked]))
          · cases taken
            exact .proceeds found (.unmapped dev)
      | requestMapped dev ledId =>
          simp only [advance, found, Option.some.injEq] at taken
          exact taken ▸ .proceeds found (.sampled dev ledId)
      | requestClocked dev ledId now =>
          simp only [advance, found] at taken
          split at taken
          · cases taken
          · cases taken
            exact .proceeds found (.loaded dev ledId now _)
      | requestLoaded dev ledId now oldDeadline =>
          simp only [advance, found, Option.some.injEq] at taken
          exact taken ▸ .swaps found
      | emitting event =>
          simp only [advance, found, Option.some.injEq] at taken
          exact taken ▸ .outputs found

/-- One handler moves, and the configuration stays. -/
theorem advance_moves
    {collectors next : Collectors}
    {index : Nat}
    {clock : UInt64}
    (taken : collectors.advance index clock = some next) :
    next.config = collectors.config ∧
      ∃ handler following,
        collectors.handlers[index]? = some handler ∧
          handler.Moves
            (fun dev => (collectors.diskStates dev).isSome = true)
            clock following ∧
          next.handlers = collectors.handlers.set index following := by
  cases advances_of_advance taken with
  | proceeds found step =>
      exact ⟨rfl, _, _, found, .proceeds step, rfl⟩
  | @locks packet now clocked =>
      simp only [lock]
      rcases lockedSection (networkInterval collectors.config)
          collectors.networkState packet now with
        ⟨networkState, _ | event⟩
      · exact
          ⟨rfl, _, .returned, clocked, .locked packet now trivial, rfl⟩
      · exact
          ⟨rfl, _, .emitting event, clocked,
            .locked packet now trivial, rfl⟩
  | @swaps dev ledId now oldDeadline loaded =>
      simp only [swap]
      split
      · exact
          ⟨rfl, _, .emitting (diskEvent dev ledId now), loaded,
            .swapped dev ledId now oldDeadline trivial, rfl⟩
      · exact
          ⟨rfl, _, .returned, loaded,
            .swapped dev ledId now oldDeadline trivial, rfl⟩
  | outputs emitting =>
      exact ⟨rfl, _, _, emitting, .output _, rfl⟩

/-- What a handler's step does to the deadlines and the events. -/
theorem advance_cases
    {collectors next : Collectors}
    {index : Nat}
    {clock : UInt64}
    (taken : collectors.advance index clock = some next) :
    collectors.Quiet next ∨
      ∃ source event, collectors.Emits next index source event := by
  cases advances_of_advance taken with
  | proceeds found step =>
      exact Or.inl ⟨rfl, fun source => by cases source <;> rfl⟩
  | locks clocked =>
      rcases lock_cases clocked with silent | ⟨event, emits⟩
      · exact Or.inl silent
      · exact Or.inr ⟨.network, event, emits⟩
  | swaps loaded =>
      rcases swap_cases loaded with silent | ⟨event, emits⟩
      · exact Or.inl silent
      · exact Or.inr ⟨_, event, emits⟩
  | outputs emitting =>
      exact Or.inl ⟨rfl, fun source => by cases source <;> rfl⟩

/-- A step appends events only of the handler that takes it. -/
theorem step_emitted
    {collectors next : Collectors}
    {action : Action}
    (taken : collectors.step action = some next) :
    ∃ later,
      next.emitted = collectors.emitted ++ later ∧
        ∀ entry ∈ later, ∃ clock, action = .advance entry.1 clock := by
  cases action with
  | packet packet =>
      cases taken
      exact ⟨[], by simp, by simp⟩
  | request dev =>
      cases taken
      exact ⟨[], by simp, by simp⟩
  | advance index clock =>
      rcases advance_cases taken with quiet | ⟨source, event, emits⟩
      · exact ⟨[], by simp [quiet.emitted], by simp⟩
      · exact ⟨[(index, event)], emits.emitted, by simp⟩

/-- The step of one handler leaves the others where they are. -/
theorem handler_of_step
    {collectors next : Collectors}
    {action : Action}
    (taken : collectors.step action = some next)
    {id : Nat}
    (foreign : ∀ clock, action ≠ .advance id clock)
    {handler : Handler}
    (found : collectors.handlers[id]? = some handler) :
    next.handlers[id]? = some handler := by
  have exists_ : id < collectors.handlers.length :=
    (List.getElem?_eq_some_iff.mp found).1
  cases action with
  | packet packet =>
      cases taken
      simp only [List.getElem?_append_left exists_]
      exact found
  | request dev =>
      cases taken
      simp only [List.getElem?_append_left exists_]
      exact found
  | advance index clock =>
      obtain ⟨-, -, following, -, -, moved⟩ := advance_moves taken
      have different : index ≠ id := by
        intro same
        exact foreign clock (same ▸ rfl)
      rw [moved, List.getElem?_set_ne different]
      exact found

end Collectors

end UgreenLeds
