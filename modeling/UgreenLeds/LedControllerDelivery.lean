import UgreenLeds.LedControllerCoherence

/-!
# When the controller's commands arrive

The retry loop of `change_status` succeeds exactly if one of its attempts goes
through, and reaches the MCU exactly if one of them is executed.  The policies
send several requests to one LED and stop at the first error; this module says
from the outcomes of the transfers alone when such a list ends with the LED in
the mode its last request asks for.
-/

namespace UgreenLeds

namespace LedController

/-- What decides how the next requests to one LED end. -/
structure Line where
  cache : LedCache
  served : Nat

/-- One LED's line. -/
def Slice.line (slice : Slice) : Line where
  cache := slice.cache
  served := slice.served

namespace Line

/-- A request is elided, or its command goes through. -/
def Acks
    (exchanges : Nat → Exchange)
    (line : Line)
    (request : Request) : Prop :=
  request.cached line.cache = true ∨
    GoesThrough (exchanges line.served) commandRetryCount

/-- A request is elided, or the MCU executes its command. -/
def Reaches
    (exchanges : Nat → Exchange)
    (line : Line)
    (request : Request) : Prop :=
  line.Acks exchanges request ∨
    ¬ NeverApplied (exchanges line.served) commandRetryCount

/-- The line that a request leaves when it is elided or goes through. -/
def acked
    (line : Line)
    (request : Request) : Line :=
  if request.cached line.cache then
    line
  else
    { cache := request.record line.cache, served := line.served + 1 }

/-- The line that a command leaves when all its attempts fail. -/
def missed (line : Line) : Line :=
  { cache := .zero, served := line.served + 1 }

end Line

namespace Slice

section Command

variable
  {exchanges : Nat → Exchange}
  (sleeps : SleepsOnlyInterrupted exchanges)

include sleeps

/-- One pass through the retry loop when sleeps are at most interrupted. -/
theorem answers_eq
    (slice : Slice)
    (attempt : Nat) :
    let made := exchanges slice.served attempt
    (made.write = none ∧ made.reply = .ok 1 ∧
        slice.answers exchanges attempt = ⟨.success, true, true⟩) ∨
      ¬ (made.write = none ∧ made.reply = .ok 1) ∧
        ∃ error,
          slice.answers exchanges attempt =
            ⟨.retry error, true, made.applied⟩ := by
  obtain ⟨delay, settle⟩ := sleeps slice.served attempt
  simp only [answers, answer, delay, settle]
  cases written : (exchanges slice.served attempt).write with
  | some error =>
      exact Or.inr ⟨by simp, error, rfl⟩
  | none =>
      cases reply : (exchanges slice.served attempt).reply with
      | error error =>
          exact Or.inr ⟨by simp, error, rfl⟩
      | ok accepted =>
          by_cases isOne : accepted = 1
          · subst isOne
            exact Or.inl ⟨rfl, rfl, rfl⟩
          · refine Or.inr ⟨by simp [isOne], .eremoteio, ?_⟩
            simp [isOne]

/-- A command is acknowledged exactly if one of its attempts goes through. -/
theorem acknowledged_iff (slice : Slice) :
    slice.Acknowledged exchanges ↔
      GoesThrough (exchanges slice.served) commandRetryCount := by
  have ended :=
    RetryLoop.outcome_eq_acknowledged_iff
      (neverAborts exchanges sleeps slice) commandRetryCount 0 .eio
  refine ended.trans ?_
  simp only [Nat.zero_add, GoesThrough]
  constructor
  · rintro ⟨attempt, inRange, success⟩
    rcases answers_eq sleeps slice attempt with
        ⟨written, answered, -⟩ | ⟨-, error, retried⟩
    · exact ⟨attempt, inRange, written, answered⟩
    · rw [retried] at success
      cases success
  · rintro ⟨attempt, inRange, goesThrough⟩
    rcases answers_eq sleeps slice attempt with
        ⟨-, -, success⟩ | ⟨fails, -⟩
    · exact ⟨attempt, inRange, by rw [success]⟩
    · exact (fails goesThrough).elim

/-- A lost command whose attempts are never applied misses the MCU. -/
theorem executes_eq_false
    {slice : Slice}
    (lost : ¬ slice.Acknowledged exchanges)
    (never :
      NeverApplied (exchanges slice.served) commandRetryCount) :
    slice.executes exchanges = false := by
  apply RetryLoop.executes_eq_false
  intro attempt inRange
  rw [Nat.zero_add]
  rcases answers_eq sleeps slice attempt with
      ⟨written, answered, -⟩ | ⟨-, error, retried⟩
  · exact
      (lost
        ((acknowledged_iff sleeps slice).mpr
          ⟨attempt, inRange, written, answered⟩)).elim
  · rw [retried]
    exact never attempt inRange

/-- A command one of whose attempts is applied reaches the MCU. -/
theorem executes_eq_true
    {slice : Slice}
    (applied :
      ¬ NeverApplied (exchanges slice.served) commandRetryCount) :
    slice.executes exchanges = true := by
  by_cases acknowledged : slice.Acknowledged exchanges
  · exact executes_of_acknowledged exchanges acknowledged
  · simp only [NeverApplied, not_forall, Bool.not_eq_false] at applied
    obtain ⟨attempt, inRange, isApplied⟩ := applied
    have unanswered :
        ∀ offset < commandRetryCount,
          (slice.answers exchanges (0 + offset)).verdict ≠ .success := by
      intro offset below success
      apply acknowledged
      have ended :=
        RetryLoop.outcome_eq_acknowledged_iff
          (neverAborts exchanges sleeps slice) commandRetryCount 0 .eio
      exact ended.mpr ⟨offset, below, success⟩
    refine
      RetryLoop.executes_eq_true (neverAborts exchanges sleeps slice)
        commandRetryCount 0 unanswered inRange ?_
    rw [Nat.zero_add]
    rcases answers_eq sleeps slice attempt with
        ⟨-, -, success⟩ | ⟨-, error, retried⟩
    · rw [success]
      exact ⟨rfl, rfl⟩
    · rw [retried]
      exact ⟨rfl, isApplied⟩

/-- What a setter does when its request is elided or goes through. -/
theorem set_of_acks
    {slice : Slice}
    {request : Request}
    (acks : slice.line.Acks exchanges request) :
    ∃ after,
      slice.set exchanges request = (.ok (), after) ∧
        after.line = slice.line.acked request := by
  cases cached : request.cached slice.cache with
  | true =>
      exact
        ⟨slice, by simp [set, cached],
          by simp [Line.acked, line, cached]⟩
  | false =>
      have goesThrough :=
        acks.resolve_left (by simp [line, cached])
      refine
        ⟨_, set_of_acknowledged exchanges cached
          ((acknowledged_iff sleeps slice).mpr goesThrough), ?_⟩
      simp [Line.acked, line, cached]

/-- What a setter does when its command does not go through. -/
theorem set_of_not_acks
    {slice : Slice}
    {request : Request}
    (fails : ¬ slice.line.Acks exchanges request) :
    ∃ error after,
      slice.set exchanges request = (.error error, after) ∧
        after.line = slice.line.missed ∧
        (after.device = slice.device ∨
          after.device = request.command.execute slice.device) ∧
        (NeverApplied (exchanges slice.served) commandRetryCount →
          after.device = slice.device) := by
  obtain ⟨notCached, notThrough⟩ := not_or.mp fails
  have lost := mt (acknowledged_iff sleeps slice).mp notThrough
  obtain ⟨error, after⟩ :=
    set_of_lost exchanges sleeps
      (Bool.eq_false_of_not_eq_true notCached) lost
  refine ⟨error, _, after, rfl, ?_, ?_⟩
  · cases slice.executes exchanges with
    | true =>
        exact Or.inr rfl
    | false =>
        exact Or.inl rfl
  · intro never
    rw [executes_eq_false sleeps lost never]
    rfl

end Command

end Slice

/-- Send requests to one LED until one of them fails. -/
def setAll
    (script : Script)
    (controller : LedController)
    (ledId : UInt8) :
    List Request → Status × LedController
  | [] =>
      (.ok (), controller)
  | request :: rest =>
      match controller.set script ledId request with
      | (.error error, sent) =>
          (.error error, sent)
      | (.ok (), sent) =>
          setAll script sent ledId rest

/-- Send requests until one of them fails, on one LED's slice. -/
def Slice.setAll
    (exchanges : Nat → Exchange)
    (slice : Slice) :
    List Request → Status × Slice
  | [] =>
      (.ok (), slice)
  | request :: rest =>
      match slice.set exchanges request with
      | (.error error, sent) =>
          (.error error, sent)
      | (.ok (), sent) =>
          Slice.setAll exchanges sent rest

section SetAll

variable
  (script : Script)
  (controller : LedController)
  {ledId : UInt8}

/-- A list of accepted requests computes its slice meaning. -/
theorem setAll_slice
    {led : LedIndex}
    (addressed : ledIndex? ledId = some led)
    {requests : List Request}
    (fit : ∀ request ∈ requests, request.Fits) :
    ((controller.setAll script ledId requests).1,
        (controller.setAll script ledId requests).2.slice led) =
      (controller.slice led).setAll (script led) requests := by
  induction requests generalizing controller with
  | nil =>
      rfl
  | cons request rest inductionHypothesis =>
      have first :=
        set_slice script controller addressed
          (fit request List.mem_cons_self)
      have later :=
        fun sent =>
          inductionHypothesis sent fun other member =>
            fit other (List.mem_cons_of_mem _ member)
      simp only [setAll, Slice.setAll, ← first]
      rcases controller.set script ledId request with
        ⟨error | done, sent⟩
      · rfl
      · exact later sent

/-- A list of requests leaves the slices of the other LEDs unchanged. -/
theorem setAll_other
    {other : LedIndex}
    (different : ledIndex? ledId ≠ some other)
    (requests : List Request) :
    (controller.setAll script ledId requests).2.slice other =
      controller.slice other := by
  induction requests generalizing controller with
  | nil =>
      rfl
  | cons request rest inductionHypothesis =>
      have first :=
        set_other script controller different request
      simp only [setAll]
      generalize controller.set script ledId request = result at first ⊢
      rcases result with ⟨error | done, sent⟩
      · exact first
      · exact (inductionHypothesis sent).trans first

end SetAll

namespace Slice

section SetAll

variable
  {exchanges : Nat → Exchange}
  (sleeps : SleepsOnlyInterrupted exchanges)

include sleeps

/-- A list of requests keeps a slice coherent. -/
theorem setAll_coherent
    {requests : List Request}
    (fit : ∀ request ∈ requests, request.Fits)
    {slice : Slice}
    (coherent : slice.Coherent) :
    (slice.setAll exchanges requests).2.Coherent := by
  induction requests generalizing slice with
  | nil =>
      exact coherent
  | cons request rest inductionHypothesis =>
      have first :=
        set_coherent sleeps (fit request List.mem_cons_self) coherent
      simp only [setAll]
      generalize slice.set exchanges request = result at first ⊢
      rcases result with ⟨error | done, sent⟩
      · exact first
      · exact
          inductionHypothesis
            (fun other member =>
              fit other (List.mem_cons_of_mem _ member))
            first

/-- What one request can do to the MCU. -/
theorem set_device_cases
    (request : Request)
    (slice : Slice) :
    (slice.set exchanges request).2.device = slice.device ∨
      (slice.set exchanges request).2.device =
        request.command.execute slice.device := by
  cases cached : request.cached slice.cache with
  | true =>
      exact Or.inl (by simp [set, cached])
  | false =>
      by_cases acknowledged : slice.Acknowledged exchanges
      · rw [set_of_acknowledged exchanges cached acknowledged]
        exact Or.inr rfl
      · obtain ⟨error, after⟩ :=
          set_of_lost exchanges sleeps cached acknowledged
        rw [after]
        cases slice.executes exchanges with
        | true =>
            exact Or.inr rfl
        | false =>
            exact Or.inl rfl

omit sleeps in
/-- Executing the command of a request attains the request. -/
theorem attained_execute
    {request : Request}
    (fits : request.Fits)
    (device : McuLed) :
    request.Attained (request.command.execute device) := by
  apply Request.attained_of_registers fits
  rw [Command.registers_execute]
  exact Function.update_self _ _ _

/-- A request that succeeds has been attained. -/
theorem set_attained
    {request : Request}
    (fits : request.Fits)
    {slice : Slice}
    (coherent : slice.Coherent)
    (succeeds : (slice.set exchanges request).1 = .ok ()) :
    request.Attained (slice.set exchanges request).2.device :=
  Request.attained_of_registers fits
    (set_device sleeps fits coherent succeeds)

/-- A request that is elided or reaches the MCU has been attained. -/
theorem set_attained_of_executes
    {request : Request}
    (fits : request.Fits)
    {slice : Slice}
    (coherent : slice.Coherent)
    (arrives :
      request.cached slice.cache = true ∨
        slice.executes exchanges = true) :
    request.Attained (slice.set exchanges request).2.device := by
  by_cases succeeds : (slice.set exchanges request).1 = .ok ()
  · exact set_attained sleeps fits coherent succeeds
  · have failed := mt (set_ok_iff exchanges sleeps request slice).mpr succeeds
    obtain ⟨notCached, lost⟩ := not_or.mp failed
    have executed := arrives.resolve_left notCached
    obtain ⟨error, after⟩ :=
      set_of_lost exchanges sleeps (by simpa using notCached) lost
    rw [after, executed]
    exact attained_execute fits slice.device

/-- A failing request that is delivered in full or not at all is not. -/
theorem set_device_of_failed
    {request : Request}
    {slice : Slice}
    (allOrNothing :
      request.cached slice.cache = true ∨
        GoesThrough (exchanges slice.served) commandRetryCount ∨
        NeverApplied (exchanges slice.served) commandRetryCount)
    (failed : (slice.set exchanges request).1 ≠ .ok ()) :
    (slice.set exchanges request).2.device = slice.device := by
  obtain ⟨notCached, lost⟩ :=
    not_or.mp (mt (set_ok_iff exchanges sleeps request slice).mpr failed)
  obtain ⟨error, after⟩ :=
    set_of_lost exchanges sleeps (by simpa using notCached) lost
  have never :
      NeverApplied (exchanges slice.served) commandRetryCount := by
    rcases allOrNothing with cached | goesThrough | never
    · exact (notCached cached).elim
    · exact (lost ((acknowledged_iff sleeps slice).mpr goesThrough)).elim
    · exact never
  rw [after, executes_eq_false sleeps lost never]
  rfl

/-- A list of requests that succeeds attains its last request. -/
theorem setAll_attained
    {leading : List Request}
    {last : Request}
    (fit : ∀ request ∈ leading ++ [last], request.Fits)
    {slice : Slice}
    (coherent : slice.Coherent)
    (succeeds :
      (slice.setAll exchanges (leading ++ [last])).1 = .ok ()) :
    last.Attained
      (slice.setAll exchanges (leading ++ [last])).2.device := by
  induction leading generalizing slice with
  | nil =>
      have fits := fit last (by simp)
      have attained := set_attained sleeps fits coherent
      simp only [List.nil_append, setAll] at succeeds ⊢
      generalize slice.set exchanges last = result at *
      rcases result with ⟨error | done, sent⟩
      · cases succeeds
      · exact attained rfl
  | cons request rest inductionHypothesis =>
      have first :=
        set_coherent sleeps (fit request List.mem_cons_self) coherent
      simp only [List.cons_append, setAll] at succeeds ⊢
      generalize slice.set exchanges request = result at *
      rcases result with ⟨error | done, sent⟩
      · cases succeeds
      · exact
          inductionHypothesis
            (fun other member =>
              fit other (List.mem_cons_of_mem _ member))
            first succeeds

/-- A list that switches an LED at most one way leaves it so or as it was. -/
theorem setAll_status_cases
    {requests : List Request}
    {lit : Bool}
    (switches :
      ∀ request ∈ requests,
        request.command.register ≠ .display ∨
          request = .onOff lit)
    (slice : Slice) :
    (slice.setAll exchanges requests).2.device.status =
        slice.device.status ∨
      (slice.setAll exchanges requests).2.device.status =
        (if lit then statusOn else statusOff) := by
  induction requests generalizing slice with
  | nil =>
      exact Or.inl rfl
  | cons request rest inductionHypothesis =>
      have first :
          (slice.set exchanges request).2.device.status =
              slice.device.status ∨
            (slice.set exchanges request).2.device.status =
              (if lit then statusOn else statusOff) := by
        rcases set_device_cases sleeps request slice with
            unchanged | executed
        · exact Or.inl (congrArg McuLed.status unchanged)
        · rw [executed]
          rcases switches request List.mem_cons_self with
              elsewhere | rfl
          · left
            cases request with
            | color rgb =>
                rfl
            | brightness level =>
                rfl
            | onOff on =>
                exact (elsewhere rfl).elim
            | blink onMs offMs breath =>
                cases breath <;> exact (elsewhere rfl).elim
          · exact Or.inr rfl
      simp only [setAll]
      generalize slice.set exchanges request = result at first ⊢
      rcases result with ⟨error | done, sent⟩
      · exact first
      · have later :=
          inductionHypothesis
            (fun other member =>
              switches other (List.mem_cons_of_mem _ member)) sent
        rcases later with unchanged | switched
        · simp only [unchanged]
          exact first
        · exact Or.inr switched

end SetAll

/--
A list of requests arrives at an LED whose cache entry and script position are
given: each request but the last is elided or has an attempt that goes through,
and the last is elided or has an attempt that the MCU executes.
-/
def Arrives
    (exchanges : Nat → Exchange) :
    LedCache → Nat → List Request → Prop
  | _, _, [] =>
      True
  | cache, position, [last] =>
      last.cached cache = true ∨
        GoesThrough (exchanges position) commandRetryCount ∨
        ¬ NeverApplied (exchanges position) commandRetryCount
  | cache, position, request :: next :: rest =>
      (request.cached cache = true ∧
          Arrives exchanges cache position (next :: rest)) ∨
        (request.cached cache = false ∧
          GoesThrough (exchanges position) commandRetryCount ∧
          Arrives exchanges (request.record cache) (position + 1)
            (next :: rest))

/-- Requests arrive at an LED to which every command goes through. -/
theorem Arrives.of_goesThrough
    {exchanges : Nat → Exchange}
    (through :
      ∀ position, GoesThrough (exchanges position) commandRetryCount)
    (cache : LedCache)
    (position : Nat)
    (requests : List Request) :
    Arrives exchanges cache position requests := by
  induction requests generalizing cache position with
  | nil =>
      trivial
  | cons request rest inductionHypothesis =>
      cases rest with
      | nil =>
          exact Or.inr (Or.inl (through position))
      | cons next rest =>
          cases cached : request.cached cache with
          | true =>
              exact Or.inl ⟨cached, inductionHypothesis cache position⟩
          | false =>
              exact
                Or.inr
                  ⟨cached, through position,
                    inductionHypothesis (request.record cache)
                      (position + 1)⟩

/-- A list of requests that arrives attains its last request. -/
theorem setAll_attained_of_arrives
    {exchanges : Nat → Exchange}
    (sleeps : SleepsOnlyInterrupted exchanges)
    {leading : List Request}
    {last : Request}
    (fit : ∀ request ∈ leading ++ [last], request.Fits)
    {slice : Slice}
    (coherent : slice.Coherent)
    (arrives :
      Arrives exchanges slice.cache slice.served
        (leading ++ [last])) :
    last.Attained
      (slice.setAll exchanges (leading ++ [last])).2.device := by
  induction leading generalizing slice with
  | nil =>
      have fits := fit last (by simp)
      have reaches :
          last.cached slice.cache = true ∨
            slice.executes exchanges = true := by
        rcases arrives with cached | goesThrough | applied
        · exact Or.inl cached
        · refine
            Or.inr
              (executes_of_acknowledged exchanges
                ((acknowledged_iff sleeps slice).mpr goesThrough))
        · exact Or.inr (executes_eq_true sleeps applied)
      have attained :=
        set_attained_of_executes sleeps fits coherent reaches
      simp only [List.nil_append, setAll]
      generalize slice.set exchanges last = result at attained ⊢
      rcases result with ⟨error | done, sent⟩
      · exact attained
      · exact attained
  | cons request rest inductionHypothesis =>
      obtain ⟨second, others, shape⟩ :
          ∃ second others, rest ++ [last] = second :: others := by
        cases rest <;> simp
      have fits := fit request List.mem_cons_self
      have restFit : ∀ other ∈ rest ++ [last], other.Fits :=
        fun other member => fit other (List.mem_cons_of_mem _ member)
      rw [List.cons_append, shape, Arrives, ← shape] at arrives
      rw [List.cons_append, setAll]
      rcases arrives with
          ⟨cached, arrivesLater⟩ | ⟨notCached, goesThrough, arrivesLater⟩
      · have elided : slice.set exchanges request = (.ok (), slice) := by
          simp [set, cached]
        rw [elided]
        exact inductionHypothesis restFit coherent arrivesLater
      · have acknowledged :=
          (acknowledged_iff sleeps slice).mpr goesThrough
        have stillCoherent := set_coherent sleeps fits coherent
        rw [set_of_acknowledged exchanges notCached acknowledged]
          at stillCoherent ⊢
        exact inductionHypothesis restFit stillCoherent arrivesLater

end Slice

/-- Every command of this script is lost twice before it goes through. -/
def retriedScript : Script :=
  fun _ _ attempt =>
    if attempt < 2 then .unanswered (attempt = 1) else .accepted

/-- Under `retriedScript` every command goes through. -/
theorem retriedScript_goesThrough
    (led : LedIndex)
    (position : Nat) :
    GoesThrough (retriedScript led position) commandRetryCount :=
  ⟨2, by decide, rfl, rfl⟩

/-- Under `retriedScript` no sleep fails. -/
theorem retriedScript_sleeps (led : LedIndex) :
    SleepsOnlyInterrupted (retriedScript led) := by
  intro command attempt
  unfold retriedScript
  split <;> exact ⟨rfl, rfl⟩

end LedController

end UgreenLeds
