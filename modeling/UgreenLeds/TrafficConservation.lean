import UgreenLeds.CollectorSteps
import UgreenLeds.LedControllerCoherence
import UgreenLeds.NetworkLedPulse

/-!
# Conservation of network traffic

A byte is counted in the network state, travels in an event that its handler
builds, outputs and the daemon consumes, waits in the network policy and is at
last passed to the scheduler.  Each of these places is emptied by a different
party at its own time.  One lemma for each party says that it moves bytes and
neither makes nor loses any; together they balance every direction's account in
every state of every run.
-/

namespace UgreenLeds

/-- The sum of a list in which one entry has been replaced. -/
theorem sum_map_set
    {α : Type}
    (weight : α → Nat)
    {list : List α}
    {index : Nat}
    {old : α}
    (found : list[index]? = some old)
    (new : α) :
    ((list.set index new).map weight).sum + weight old =
      (list.map weight).sum + weight new := by
  induction list generalizing index with
  | nil =>
      cases found
  | cons first rest inductionHypothesis =>
      cases index with
      | zero =>
          simp only [List.getElem?_cons_zero, Option.some.injEq] at found
          subst found
          simp only [List.set_cons_zero, List.map_cons, List.sum_cons]
          omega
      | succ index =>
          simp only [List.getElem?_cons_succ] at found
          have later := inductionHypothesis found
          simp only [List.set_cons_succ, List.map_cons, List.sum_cons]
          omega

/-- Adding without overflow does not saturate. -/
theorem saturatingAdd_toNat
    {a b : UInt64}
    (fits : a.toNat + b.toNat < 2 ^ 64) :
    (saturatingAdd a b).toNat = a.toNat + b.toNat := by
  have unsaturated : ¬ UInt64.size - 1 - a.toNat < b.toNat := by
    have size : UInt64.size = 2 ^ 64 := rfl
    omega
  rw [saturatingAdd, if_neg unsaturated, UInt64.toNat_add,
    Nat.mod_eq_of_lt fits]

/-- One direction's length of a packet. -/
def Packet.bytes (packet : Packet) (direction : Direction) : Nat :=
  if packet.direction = direction then packet.len.toNat else 0

/-- One direction's count in the network state. -/
def NetworkState.bytes
    (state : NetworkState)
    (direction : Direction) : Nat :=
  match direction with
  | .rx =>
      state.rxBytes.toNat
  | .tx =>
      state.txBytes.toNat

/-- One direction's count in an event; disk events count nothing. -/
def LedEvent.bytes
    (event : LedEvent)
    (direction : Direction) : Nat :=
  if event.kind = eventNetwork then
    match direction with
    | .rx =>
        event.firstBytes.toNat
    | .tx =>
        event.secondBytes.toNat
  else
    0

/-- One direction's count in the event a handler is about to output. -/
def Handler.bytes
    (handler : Handler)
    (direction : Direction) : Nat :=
  match handler with
  | .emitting event =>
      event.bytes direction
  | _ =>
      0

/-- One direction's count in a call of the scheduler. -/
def callBytes
    (direction : Direction)
    (call : PulseScheduler.Call) : Nat :=
  match direction with
  | .rx =>
      call.1.toNat
  | .tx =>
      call.2.toNat

@[simp] theorem Handler.bytes_emitting
    (event : LedEvent)
    (direction : Direction) :
    (Handler.emitting event).bytes direction = event.bytes direction :=
  rfl

@[simp] theorem Handler.bytes_returned (direction : Direction) :
    Handler.returned.bytes direction = 0 :=
  rfl

@[simp] theorem Handler.bytes_packetClocked
    (packet : Packet)
    (now : UInt64)
    (direction : Direction) :
    (Handler.packetClocked packet now).bytes direction = 0 :=
  rfl

namespace Collectors

/-- The bytes of events that are built but not yet consumed. -/
def inFlight
    (collectors : Collectors)
    (direction : Direction) : Nat :=
  (collectors.handlers.map fun handler => handler.bytes direction).sum +
    (collectors.ring.map fun event => event.bytes direction).sum

/-- The bytes the kernel side holds. -/
def held
    (collectors : Collectors)
    (direction : Direction) : Nat :=
  collectors.networkState.bytes direction +
    collectors.inFlight direction

/-- Moving a handler on moves its bytes. -/
theorem setHandler_inFlight
    {collectors : Collectors}
    {index : Nat}
    {handler : Handler}
    (found : collectors.handlers[index]? = some handler)
    (following : Handler)
    (direction : Direction) :
    (collectors.setHandler index following).inFlight direction +
        handler.bytes direction =
      collectors.inFlight direction + following.bytes direction := by
  have moved :=
    sum_map_set (fun handler => handler.bytes direction) found following
  simp only [inFlight, setHandler]
  omega

/-- The bytes of a packet are added to its own direction. -/
theorem add_bytes
    {state : NetworkState}
    {packet : Packet}
    {direction : Direction}
    (fits :
      state.bytes direction + packet.bytes direction < 2 ^ 64) :
    (state.add packet).bytes direction =
      state.bytes direction + packet.bytes direction := by
  cases direction <;>
    cases goes : packet.direction <;>
    simp only [NetworkState.bytes, NetworkState.add, Packet.bytes, goes,
      reduceCtorEq, ↓reduceIte, Nat.add_zero, UInt64.toNat_add,
      UInt32.toNat_toUInt64] at fits ⊢
  · exact Nat.mod_eq_of_lt fits
  · exact Nat.mod_eq_of_lt fits

/-- The locked section moves bytes from the state to its event. -/
theorem lockedSection_bytes
    (interval now : UInt64)
    {state : NetworkState}
    {packet : Packet}
    {direction : Direction}
    (fits :
      state.bytes direction + packet.bytes direction < 2 ^ 64) :
    (lockedSection interval state packet now).1.bytes direction +
        ((lockedSection interval state packet now).2.map
          fun event => event.bytes direction).getD 0 =
      state.bytes direction + packet.bytes direction := by
  rw [← add_bytes fits]
  simp only [lockedSection]
  split
  · cases direction <;> simp [NetworkState.bytes, LedEvent.bytes]
  · simp

/-- The locked step accounts its packet and moves bytes. -/
theorem lock_bytes
    {collectors : Collectors}
    {index : Nat}
    {packet : Packet}
    {now : UInt64}
    (clocked :
      collectors.handlers[index]? = some (.packetClocked packet now))
    {direction : Direction}
    (fits :
      collectors.networkState.bytes direction +
          packet.bytes direction <
        2 ^ 64) :
    (collectors.lock index packet now).held direction =
      collectors.held direction + packet.bytes direction := by
  have moved :=
    lockedSection_bytes (networkInterval collectors.config) now fits
  simp only [lock]
  generalize
    lockedSection (networkInterval collectors.config)
      collectors.networkState packet now = result at moved ⊢
  rcases result with ⟨networkState, _ | event⟩
  · have handlers :=
      sum_map_set (fun handler => handler.bytes direction) clocked
        .returned
    simp only [Handler.bytes_packetClocked, Handler.bytes_returned,
      Option.map_none, Option.getD_none] at handlers moved
    simp only [held, inFlight, setHandler]
    omega
  · have handlers :=
      sum_map_set (fun handler => handler.bytes direction) clocked
        (.emitting event)
    simp only [Handler.bytes_packetClocked, Handler.bytes_emitting,
      Option.map_some, Option.getD_some] at handlers moved
    simp only [held, inFlight, setHandler]
    omega

/-- The locked step accounts its packet in the packet's direction. -/
theorem lock_accounted
    (collectors : Collectors)
    (index : Nat)
    (packet : Packet)
    (now : UInt64)
    (direction : Direction) :
    (collectors.lock index packet now).accounted direction =
      collectors.accounted direction + packet.bytes direction := by
  have updated :
      Function.update collectors.accounted packet.direction
          (collectors.accounted packet.direction + packet.len.toNat)
          direction =
        collectors.accounted direction + packet.bytes direction := by
    by_cases same : direction = packet.direction
    · subst same
      simp [Packet.bytes]
    · simp [Packet.bytes, same, eq_comm]
  simp only [lock]
  rcases lockedSection (networkInterval collectors.config)
      collectors.networkState packet now with
    ⟨networkState, _ | event⟩
  · exact updated
  · exact updated

/-- A step that accounts nothing and moves no byte out of the kernel side. -/
structure Still (collectors next : Collectors) : Prop where
  accounted :
    next.accounted = collectors.accounted
  networkState :
    next.networkState = collectors.networkState
  inFlight :
    ∀ direction,
      next.inFlight direction = collectors.inFlight direction

/-- Moving a handler between steps without an event leaves the bytes. -/
theorem setHandler_still
    {collectors : Collectors}
    {index : Nat}
    {handler : Handler}
    (found : collectors.handlers[index]? = some handler)
    {following : Handler}
    (same :
      ∀ direction,
        following.bytes direction = handler.bytes direction) :
    collectors.Still (collectors.setHandler index following) := by
  refine ⟨rfl, rfl, ?_⟩
  intro direction
  have moved := setHandler_inFlight found following direction
  rw [same] at moved
  omega

/-- A disk's event carries no bytes of the network. -/
theorem diskEvent_bytes
    (dev ledId : UInt32)
    (now : UInt64)
    (direction : Direction) :
    (diskEvent dev ledId now).bytes direction = 0 := by
  simp [LedEvent.bytes, diskEvent, eventDisk, eventNetwork]

/-- A swap that builds an event builds one without bytes. -/
theorem swap_still
    {collectors : Collectors}
    {index : Nat}
    {dev ledId : UInt32}
    {now oldDeadline : UInt64}
    (loaded :
      collectors.handlers[index]? =
        some (.requestLoaded dev ledId now oldDeadline)) :
    collectors.Still
      (collectors.swap index dev ledId now oldDeadline) := by
  simp only [swap]
  split
  · refine ⟨rfl, rfl, ?_⟩
    intro direction
    have moved :=
      setHandler_inFlight loaded
        (.emitting (diskEvent dev ledId now)) direction
    rw [Handler.bytes_emitting, diskEvent_bytes] at moved
    exact moved
  · exact setHandler_still loaded fun _ => rfl

/-- The output hands an event's bytes to the ring buffer. -/
theorem output_still
    {collectors : Collectors}
    {index : Nat}
    {event : LedEvent}
    (emitting :
      collectors.handlers[index]? = some (.emitting event)) :
    collectors.Still
      ({ collectors with ring := collectors.ring ++ [event] }.setHandler
        index .returned) := by
  refine ⟨rfl, rfl, ?_⟩
  intro direction
  have moved := setHandler_inFlight emitting .returned direction
  rw [Handler.bytes_emitting, Handler.bytes_returned] at moved
  simp only [inFlight, setHandler, List.map_append, List.sum_append,
    List.map_cons, List.map_nil, List.sum_singleton] at moved ⊢
  omega

/-- A step is the locked section of a packet or moves no byte. -/
theorem advance_traffic
    {collectors next : Collectors}
    {index : Nat}
    {clock : UInt64}
    (taken : collectors.advance index clock = some next) :
    (∃ packet now,
        collectors.handlers[index]? =
            some (.packetClocked packet now) ∧
          next = collectors.lock index packet now) ∨
      collectors.Still next := by
  cases advances_of_advance taken with
  | proceeds found step =>
      right
      apply setHandler_still found
      intro direction
      cases step <;> rfl
  | locks clocked =>
      exact Or.inl ⟨_, _, clocked, rfl⟩
  | swaps loaded =>
      exact Or.inr (swap_still loaded)
  | outputs emitting =>
      exact Or.inr (output_still emitting)

/-- A started handler carries no bytes. -/
theorem start_still
    (collectors : Collectors)
    {handler : Handler}
    (empty : ∀ direction, handler.bytes direction = 0) :
    collectors.Still
      { collectors with
        handlers := collectors.handlers ++ [handler] } := by
  refine ⟨rfl, rfl, ?_⟩
  intro direction
  simp [inFlight, empty]

/--
A step accounts some bytes, which the kernel side then holds, as long as the
state's count does not overflow.
-/
theorem step_traffic
    {collectors next : Collectors}
    {action : Action}
    (taken : collectors.step action = some next)
    (direction : Direction) :
    ∃ bytes,
      next.accounted direction =
          collectors.accounted direction + bytes ∧
        (collectors.networkState.bytes direction + bytes < 2 ^ 64 →
          next.held direction = collectors.held direction + bytes) := by
  have still :
      collectors.Still next →
      next.accounted direction =
          collectors.accounted direction + 0 ∧
        (collectors.networkState.bytes direction + 0 < 2 ^ 64 →
          next.held direction = collectors.held direction + 0) := by
    rintro ⟨accounted, networkState, inFlight⟩
    refine ⟨by rw [accounted, Nat.add_zero], fun _ => ?_⟩
    rw [held, held, networkState, inFlight, Nat.add_zero]
  cases action with
  | packet packet =>
      cases taken
      exact ⟨0, still (start_still collectors fun _ => rfl)⟩
  | request dev =>
      cases taken
      exact ⟨0, still (start_still collectors fun _ => rfl)⟩
  | advance index clock =>
      rcases advance_traffic taken with
          ⟨packet, now, clocked, rfl⟩ | isStill
      · exact
          ⟨packet.bytes direction,
            lock_accounted collectors index packet now direction,
            fun fits => lock_bytes clocked fits⟩
      · exact ⟨0, still isStill⟩

end Collectors

namespace NetworkLed

section Bytes

variable {Credit : Type}

/-- One direction's pending count. -/
def pending
    (network : NetworkLed Credit)
    (direction : Direction) : Nat :=
  match direction with
  | .rx =>
      network.pendingRxBytes.toNat
  | .tx =>
      network.pendingTxBytes.toNat

/-- The bytes that are pending or have been passed to the scheduler. -/
def received
    (network : NetworkLed Credit)
    (direction : Direction) : Nat :=
  network.pending direction +
    (network.scheduled.map (callBytes direction)).sum

/-- The part of `handle_bpf_event` that concerns the network policy. -/
def handleBpfEvent
    (network : NetworkLed Credit)
    (event : LedEvent) : NetworkLed Credit :=
  if event.kind = eventNetwork then
    network.addSample event.firstBytes event.secondBytes
  else
    network

/-- An event's bytes become pending, unless the count saturates. -/
theorem handleBpfEvent_received
    (network : NetworkLed Credit)
    (event : LedEvent)
    {direction : Direction}
    (fits :
      network.pending direction + event.bytes direction < 2 ^ 64) :
    (network.handleBpfEvent event).received direction =
      network.received direction + event.bytes direction := by
  by_cases isNetwork : event.kind = eventNetwork
  · simp only [handleBpfEvent, if_pos isNetwork, received]
    cases direction with
    | rx =>
        have counted : event.bytes .rx = event.firstBytes.toNat := by
          simp [LedEvent.bytes, isNetwork]
        rw [counted] at fits ⊢
        simp only [pending, addSample] at fits ⊢
        rw [saturatingAdd_toNat fits]
        omega
    | tx =>
        have counted : event.bytes .tx = event.secondBytes.toNat := by
          simp [LedEvent.bytes, isNetwork]
        rw [counted] at fits ⊢
        simp only [pending, addSample] at fits ⊢
        rw [saturatingAdd_toNat fits]
        omega
  · simp [handleBpfEvent, LedEvent.bytes, isNetwork]

end Bytes

variable
  {Credit : Type}
  [NatCast Credit] [Add Credit] [Sub Credit] [Div Credit]
  [LE Credit] [DecidableLE Credit]

/-- Taking what is pending passes it to the scheduler. -/
theorem takePending_received
    (network : NetworkLed Credit)
    (direction : Direction) :
    network.takePending.received direction =
      network.received direction := by
  cases direction with
  | rx =>
      simp [received, pending, takePending, callBytes]
      omega
  | tx =>
      simp [received, pending, takePending, callBytes]
      omega

/-- A render moves bytes and loses none, even when it drops its pulse. -/
theorem render_received
    (script : Script)
    (network : NetworkLed Credit)
    (settime : Option Errno)
    (direction : Direction) :
    (network.render script settime).2.received direction =
      network.received direction := by
  have taken := takePending_received network direction
  rcases render_cases script network settime with
      ⟨unchanged, -⟩ | ⟨-, -, outcome⟩
  · rw [unchanged]
  · rcases outcome with
        ⟨error, controller, -, dropped⟩ |
          ⟨controller, -, -, lit⟩ |
          ⟨error, controller, -, -, failed⟩
    · rw [dropped]
      exact taken
    · rw [lit]
      exact taken
    · rw [failed]
      exact taken

/-- A timer callback moves bytes and loses none. -/
theorem handleTimer_received
    (script : Script)
    (network : NetworkLed Credit)
    (read settime : Option Errno)
    (direction : Direction) :
    (network.handleTimer script read settime).2.received direction =
      network.received direction := by
  rcases handleTimer_cases script network read settime with
      ⟨error, -, -, failed⟩ |
        ⟨-, timer, ⟨-, unchanged⟩ | ⟨-, finished⟩⟩
  · rw [failed]
  · rw [unchanged]
    rfl
  · obtain ⟨controller, ended⟩ :=
      finishPulse_eq script { network with timer }
    rw [finished, ended, render_received]
    rfl

end NetworkLed

/-- The collectors and the policy that consumes their events. -/
structure TrafficPath (Credit : Type) where
  collectors : Collectors
  network : NetworkLed Credit

namespace TrafficPath

variable
  {Credit : Type}
  [NatCast Credit] [Add Credit] [Sub Credit] [Div Credit]
  [LE Credit] [DecidableLE Credit]

/-- A step of the kernel side, or one of the daemon. -/
inductive Action where
  | kernel (action : Collectors.Action)
  | consume
  | render (settime : Option Errno)
  | timer (read settime : Option Errno)
  | disk (call : LedController.Call)

/-- One action as a step of a run. -/
def step
    (script : Script)
    (path : TrafficPath Credit) :
    Action → Option (TrafficPath Credit)
  | .kernel action =>
      match path.collectors.step action with
      | none =>
          none
      | some collectors =>
          some { path with collectors }
  | .consume =>
      match path.collectors.ring with
      | [] =>
          none
      | event :: ring =>
          some
            { collectors := { path.collectors with ring }
              network := path.network.handleBpfEvent event }
  | .render settime =>
      some
        { path with
          network := (path.network.render script settime).2 }
  | .timer read settime =>
      some
        { path with
          network := (path.network.handleTimer script read settime).2 }
  | .disk call =>
      some
        { path with
          network :=
            { path.network with
              controller :=
                (path.network.controller.call script call).2 } }

/-- Whatever has been accounted is still somewhere on the path. -/
def Balanced (path : TrafficPath Credit) : Prop :=
  ∀ direction,
    path.collectors.accounted direction < 2 ^ 64 →
    path.collectors.accounted direction =
      path.collectors.held direction +
        path.network.received direction

/-- Every action keeps every direction's account balanced. -/
theorem Balanced.step
    {script : Script}
    {path next : TrafficPath Credit}
    (balanced : path.Balanced)
    {action : Action}
    (taken : path.step script action = some next) :
    next.Balanced := by
  intro direction bounded
  cases action with
  | kernel action =>
      simp only [TrafficPath.step] at taken
      cases stepped : path.collectors.step action with
      | none =>
          simp [stepped] at taken
      | some collectors =>
          rw [stepped, Option.some.injEq] at taken
          subst taken
          obtain ⟨bytes, accounted, moves⟩ :=
            Collectors.step_traffic stepped direction
          simp only [accounted] at bounded ⊢
          have before := balanced direction (by omega)
          have partOf :
              path.collectors.networkState.bytes direction ≤
                path.collectors.held direction :=
            Nat.le_add_right _ _
          rw [moves (by omega)]
          omega
  | consume =>
      simp only [TrafficPath.step] at taken
      cases queued : path.collectors.ring with
      | nil =>
          simp [queued] at taken
      | cons event ring =>
          rw [queued, Option.some.injEq] at taken
          subst taken
          have before := balanced direction bounded
          simp only [Collectors.held, Collectors.inFlight, queued,
            List.map_cons, List.sum_cons] at before ⊢
          have partOf :
              path.network.pending direction ≤
                path.network.received direction :=
            Nat.le_add_right _ _
          simp only at bounded
          rw [path.network.handleBpfEvent_received event (by omega)]
          omega
  | render settime =>
      cases taken
      rw [NetworkLed.render_received]
      exact balanced direction bounded
  | timer read settime =>
      cases taken
      rw [NetworkLed.handleTimer_received]
      exact balanced direction bounded
  | disk call =>
      cases taken
      exact balanced direction bounded

/-- The path when `network_led_init` has returned and no packet has passed. -/
def start
    (config : Option BpfConfig)
    (diskTargets : UInt32 → Option UInt32)
    (tracked : UInt32 → Bool)
    (network : NetworkLed Credit) : TrafficPath Credit where
  collectors := .fresh config diskTargets tracked
  network

/--
As long as a direction's total stays below 2^64, the bytes accounted for it are
in every reachable state exactly those in the network state, in events built but
not consumed, pending in the policy, and passed to the scheduler.
-/
theorem traffic_conserved
    {script : Script}
    {bpfConfig : Option BpfConfig}
    {diskTargets : UInt32 → Option UInt32}
    {tracked : UInt32 → Bool}
    {controller : LedController}
    {config : Config}
    {actions : List Action}
    {path : TrafficPath Credit}
    (accepted :
      PartialRun.run? (step script)
          (start bpfConfig diskTargets tracked
            (NetworkLed.init script controller config).2)
          actions =
        some path)
    {direction : Direction}
    (bounded : path.collectors.accounted direction < 2 ^ 64) :
    path.collectors.accounted direction =
      path.collectors.networkState.bytes direction +
        path.collectors.inFlight direction +
        path.network.pending direction +
        (path.network.scheduled.map (callBytes direction)).sum := by
  have initial :
      (start bpfConfig diskTargets tracked
        (NetworkLed.init script controller config :
          Status × NetworkLed Credit).2).Balanced := by
    obtain ⟨after, started⟩ :
        ∃ after,
          (NetworkLed.init script controller config :
              Status × NetworkLed Credit).2 =
            NetworkLed.zeroed after config :=
      NetworkLed.init_eq script controller config
    intro direction _
    rw [started]
    cases direction <;> rfl
  have balanced : path.Balanced :=
    PartialRun.invariant_of_step
      (fun holds taken => Balanced.step holds taken) initial accepted
  rw [balanced direction bounded, Collectors.held, NetworkLed.received,
    Nat.add_assoc _ _ (List.sum _)]

/-- A received packet is shown while a sent one waits in the kernel. -/
def twoPackets : List Action :=
  [.kernel (.packet ⟨.rx, 1500, 2⟩), .kernel (.packet ⟨.tx, 40, 2⟩),
    .kernel (.advance 0 1000), .kernel (.advance 1 1001),
    .kernel (.advance 0 0), .kernel (.advance 1 0),
    .kernel (.advance 0 0), .consume, .render none, .timer none none]

/-- The accounts of both directions after `twoPackets`. -/
theorem traffic_conserved_two_packets :
    ∃ path : TrafficPath ℚ,
      PartialRun.run? (step fun _ _ _ => .accepted)
          (start none (fun _ => none) (fun _ => false)
            (NetworkLed.init (fun _ _ _ => .accepted)
              (.initial fun _ => ⟨statusOff, 0, ⟨0, 0, 0⟩, 0, 0⟩)
              .defaults).2)
          twoPackets =
        some path ∧
      ∀ direction,
        path.collectors.accounted direction =
          path.collectors.networkState.bytes direction +
            path.collectors.inFlight direction +
            path.network.pending direction +
            (path.network.scheduled.map (callBytes direction)).sum := by
  obtain ⟨path, accepted, received, sent⟩ :
      ∃ path : TrafficPath ℚ,
        PartialRun.run? (step fun _ _ _ => .accepted)
            (start none (fun _ => none) (fun _ => false)
              (NetworkLed.init (fun _ _ _ => .accepted)
                (.initial fun _ => ⟨statusOff, 0, ⟨0, 0, 0⟩, 0, 0⟩)
                .defaults).2)
            twoPackets =
          some path ∧
        path.collectors.accounted .rx = 1500 ∧
        path.collectors.accounted .tx = 40 :=
    ⟨_, rfl, rfl, rfl⟩
  refine ⟨path, accepted, ?_⟩
  intro direction
  apply traffic_conserved accepted
  cases direction with
  | rx =>
      rw [received]
      decide
  | tx =>
      rw [sent]
      decide

end TrafficPath

end UgreenLeds
