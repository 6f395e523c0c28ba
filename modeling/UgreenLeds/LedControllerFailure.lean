import UgreenLeds.LedFootprint

/-!
# What a failed command leaves behind

A setter that fails after a frame went out does not know what the MCU did with
it, so its cache entry must not be trusted afterwards.  `change_status` forgets
the entry when its attempts run out, but returns at once when a sleep fails.
The module says which answers of the environment end the loop in which way, and
when exactly a failing call leaves an entry behind that is still trusted.

A frame counts as transmitted once its block write has been issued, since a
write that is reported as failed may have reached the MCU.
-/

namespace UgreenLeds

open LedController (sleepFailure answer)
open RetryLoop (RetriedBefore RetriesTransmit)

namespace Attempt

/-- The frame of an attempt is acknowledged. -/
def Acknowledged (attempt : Attempt) : Prop :=
  sleepFailure attempt.delay = none ∧
    attempt.write = none ∧
    sleepFailure attempt.settle = none ∧
    attempt.reply = .ok 1

/-- The frame of an attempt is not acknowledged, but no sleep fails. -/
def Retried (attempt : Attempt) : Prop :=
  sleepFailure attempt.delay = none ∧
    (attempt.write ≠ none ∨
      sleepFailure attempt.settle = none ∧ attempt.reply ≠ .ok 1)

/-- The sleep before the frame of an attempt fails. -/
def FailsBefore (attempt : Attempt) : Prop :=
  sleepFailure attempt.delay ≠ none

/-- The sleep after the frame of an attempt fails. -/
def FailsAfter (attempt : Attempt) : Prop :=
  sleepFailure attempt.delay = none ∧
    attempt.write = none ∧
    sleepFailure attempt.settle ≠ none

end Attempt

/-- Some sleep after the first frame of a command fails. -/
def SleepFailsAfterFrame (exchange : Exchange) : Prop :=
  ∃ attempt < commandRetryCount,
    (∀ earlier < attempt, (exchange earlier).Retried) ∧
      (0 < attempt ∧ (exchange attempt).FailsBefore ∨
        (exchange attempt).FailsAfter)

/-- No setter elides a command because of this entry. -/
def LedCache.Forgotten (entry : LedCache) : Prop :=
  entry.colorValid = false ∧
    entry.brightnessValid = false ∧
    entry.mode = .unknown

instance (entry : LedCache) : Decidable entry.Forgotten :=
  inferInstanceAs (Decidable (_ ∧ _))

namespace LedController

/-- A forgotten entry shows no request at all. -/
theorem not_cached_of_forgotten
    {entry : LedCache}
    (forgotten : entry.Forgotten)
    (request : Request) :
    request.cached entry = false := by
  obtain ⟨noColor, noBrightness, noMode⟩ := forgotten
  cases request with
  | color rgb =>
      simp [Request.cached, noColor]
  | brightness level =>
      simp [Request.cached, noBrightness]
  | onOff lit =>
      cases lit <;> simp [Request.cached, noMode]
  | blink onMs offMs breath =>
      cases breath <;> simp [Request.cached, noMode]

/-- What a setter that has transmitted leaves behind and returns. -/
structure LeavesNothingTrusted
    (script : Script)
    (controller : LedController)
    (ledId : UInt8)
    (request : Request) : Prop where
  /-- After a failure the entry is forgotten and no other one has changed. -/
  failed :
    ∀ error,
      (controller.set script ledId request).1 = .error error →
      (controller.set script ledId request).2.bus.sent ≠
        controller.bus.sent →
      ∃ led,
        ledIndex? ledId = some led ∧
          ((controller.set script ledId request).2.cache led).Forgotten ∧
          (∀ later : Request,
            later.cached
                ((controller.set script ledId request).2.cache led) =
              false) ∧
          (∀ other ≠ led,
            (controller.set script ledId request).2.cache other =
              controller.cache other) ∧
          ∃ frame, ∃ count ≤ 5,
            (controller.set script ledId request).2.bus.sent =
              controller.bus.sent ++ List.replicate count frame
  /-- After a success the last frame is the acknowledged one. -/
  succeeded :
    (controller.set script ledId request).1 = .ok () →
    (controller.set script ledId request).2.bus.sent ≠
      controller.bus.sent →
    ∃ led,
      ledIndex? ledId = some led ∧
        ∃ attempt < 5,
          (∀ earlier < attempt,
            (script led (controller.bus.served led) earlier).Retried) ∧
          (script led (controller.bus.served led) attempt).Acknowledged ∧
          ∃ frame,
            (controller.set script ledId request).2.bus.sent =
              controller.bus.sent ++ List.replicate (attempt + 1) frame

/--
The call sends a command for an entry that is trusted, and a sleep fails after
the first frame.
-/
def StaysTrusted
    (script : Script)
    (controller : LedController)
    (ledId : UInt8)
    (request : Request) : Prop :=
  ∃ led,
    ledIndex? ledId = some led ∧
      request.Fits ∧
      request.cached (controller.cache led) = false ∧
      ¬ (controller.cache led).Forgotten ∧
      SleepFailsAfterFrame (script led (controller.bus.served led))

section Answer

variable (attempt : Attempt)

/-- What the loop is told about one attempt. -/
theorem answer_cases :
    attempt.Acknowledged ∧
        answer attempt = ⟨.success, true, true⟩ ∨
      attempt.Retried ∧
        (∃ error,
          answer attempt = ⟨.retry error, true, attempt.applied⟩) ∨
      attempt.FailsBefore ∧
        (∃ error, answer attempt = ⟨.abort error, false, false⟩) ∨
      attempt.FailsAfter ∧
        ∃ error,
          answer attempt = ⟨.abort error, true, attempt.applied⟩ := by
  simp only [answer, Attempt.Acknowledged, Attempt.Retried,
    Attempt.FailsBefore, Attempt.FailsAfter]
  cases sleepFailure attempt.delay with
  | some error =>
      exact Or.inr (Or.inr (Or.inl ⟨by simp, error, rfl⟩))
  | none =>
      cases attempt.write with
      | some error =>
          exact Or.inr (Or.inl ⟨by simp, error, rfl⟩)
      | none =>
          cases sleepFailure attempt.settle with
          | some error =>
              exact Or.inr (Or.inr (Or.inr ⟨by simp, error, rfl⟩))
          | none =>
              cases attempt.reply with
              | error error =>
                  exact Or.inr (Or.inl ⟨by simp, error, rfl⟩)
              | ok accepted =>
                  by_cases isOne : accepted = 1
                  · subst isOne
                    exact Or.inl ⟨by simp, rfl⟩
                  · refine
                      Or.inr (Or.inl ⟨by simp [isOne], .eremoteio, ?_⟩)
                    simp only [isOne, ↓reduceIte]

/-- An attempt is retried if the loop goes on. -/
theorem retried_iff :
    (∃ error, (answer attempt).verdict = .retry error) ↔
      attempt.Retried := by
  constructor
  · rintro ⟨error, retried⟩
    rcases answer_cases attempt with
        ⟨-, same⟩ | ⟨isRetried, -⟩ | ⟨-, _, same⟩ | ⟨-, _, same⟩
    · rw [same] at retried
      cases retried
    · exact isRetried
    · rw [same] at retried
      cases retried
    · rw [same] at retried
      cases retried
  · rintro ⟨noDelay, notAcknowledged⟩
    rcases answer_cases attempt with
        ⟨acknowledged, -⟩ | ⟨-, error, same⟩ | ⟨fails, -⟩ | ⟨fails, -⟩
    · obtain ⟨-, written, -, replied⟩ := acknowledged
      simp [written, replied] at notAcknowledged
    · exact ⟨error, by rw [same]⟩
    · exact (fails noDelay).elim
    · obtain ⟨-, written, notSettled⟩ := fails
      simp [written, notSettled] at notAcknowledged

end Answer

section Command

variable
  (exchanges : Nat → Exchange)
  (slice : Slice)

/-- The attempts that the loop retries. -/
theorem retriedBefore_iff (attempt : Nat) :
    RetriedBefore (slice.answers exchanges) 0 attempt ↔
      ∀ earlier < attempt,
        (exchanges slice.served earlier).Retried := by
  simp only [RetriedBefore, Nat.zero_add, Slice.answers, retried_iff]

/-- An attempt is retried only after its frame. -/
theorem retriesTransmit : RetriesTransmit (slice.answers exchanges) := by
  intro attempt error retried
  simp only [Slice.answers] at retried ⊢
  rcases answer_cases (exchanges slice.served attempt) with
      ⟨-, same⟩ | ⟨-, _, same⟩ | ⟨-, _, same⟩ | ⟨-, _, same⟩
  · rw [same]
  · rw [same]
  · rw [same] at retried
    cases retried
  · rw [same]

/-- A sleep that fails after the first frame ends the loop. -/
theorem aborted_of_sleepFails
    (sleepFails : SleepFailsAfterFrame (exchanges slice.served)) :
    (∃ error, slice.outcome exchanges = .aborted error) ∧
      0 < RetryLoop.transmissions (slice.answers exchanges)
        commandRetryCount 0 := by
  obtain ⟨attempt, below, retried, fails⟩ := sleepFails
  have before := (retriedBefore_iff exchanges slice attempt).mpr retried
  have ends :
      ∃ error transmitted executed,
        slice.answers exchanges (0 + attempt) =
            ⟨.abort error, transmitted, executed⟩ ∧
          0 < attempt + if transmitted then 1 else 0 := by
    rw [Nat.zero_add]
    simp only [Slice.answers]
    rcases fails with ⟨later, failsBefore⟩ | ⟨noDelay, written, failsAfter⟩
    · obtain ⟨error, failure⟩ := Option.ne_none_iff_exists'.mp failsBefore
      refine ⟨error, false, false, ?_, Nat.add_pos_left later _⟩
      simp only [answer, failure]
    · obtain ⟨error, failure⟩ := Option.ne_none_iff_exists'.mp failsAfter
      refine
        ⟨error, true, (exchanges slice.served attempt).applied, ?_,
          Nat.succ_pos attempt⟩
      simp only [answer, noDelay, written, failure]
  obtain ⟨error, transmitted, executed, same, positive⟩ := ends
  have ended :
      (slice.answers exchanges (0 + attempt)).verdict.ending? =
        some (.aborted error) := by
    rw [same]
    rfl
  constructor
  · exact
      ⟨error, RetryLoop.outcome_of_ended below before ended Errno.eio⟩
  · rw [RetryLoop.transmissions_of_ended
      (retriesTransmit exchanges slice) below before ended, same]
    exact positive

/-- The four ways in which a command can end. -/
theorem outcome_cases :
    (∃ error, slice.outcome exchanges = .exhausted error) ∨
      (slice.outcome exchanges = .acknowledged ∧
        ∃ attempt < commandRetryCount,
          (∀ earlier < attempt,
            (exchanges slice.served earlier).Retried) ∧
          (exchanges slice.served attempt).Acknowledged ∧
          RetryLoop.transmissions (slice.answers exchanges)
              commandRetryCount 0 =
            attempt + 1) ∨
      ∃ error,
        slice.outcome exchanges = .aborted error ∧
          (SleepFailsAfterFrame (exchanges slice.served) ∨
            RetryLoop.transmissions (slice.answers exchanges)
                commandRetryCount 0 =
              0) := by
  rcases RetryLoop.outcome_cases (slice.answers exchanges)
      commandRetryCount 0 Errno.eio with
    ⟨-, exhausted⟩ | ⟨attempt, below, before, ended⟩
  · exact Or.inl exhausted
  · have retried := (retriedBefore_iff exchanges slice attempt).mp before
    have count :=
      RetryLoop.transmissions_of_ended
        (retriesTransmit exchanges slice) below before ended
    have ends :
        (slice.answers exchanges (0 + attempt)).verdict.ending? =
          some (slice.outcome exchanges) :=
      ended
    simp only [Nat.zero_add, Slice.answers] at count ends
    rcases answer_cases (exchanges slice.served attempt) with
        ⟨acknowledged, same⟩ | ⟨-, error, same⟩ |
          ⟨failsBefore, error, same⟩ | ⟨failsAfter, error, same⟩
    · rw [same] at count ends
      exact
        Or.inr
          (Or.inl
            ⟨(Option.some.inj ends).symm, attempt, below, retried,
              acknowledged, count⟩)
    · rw [same] at ends
      cases ends
    · rw [same] at count ends
      refine Or.inr (Or.inr ⟨error, (Option.some.inj ends).symm, ?_⟩)
      cases attempt with
      | zero =>
          exact Or.inr count
      | succ earlier =>
          exact
            Or.inl
              ⟨earlier + 1, below, retried,
                Or.inl ⟨Nat.succ_pos earlier, failsBefore⟩⟩
    · rw [same] at ends
      exact
        Or.inr
          (Or.inr
            ⟨error, (Option.some.inj ends).symm,
              Or.inl ⟨attempt, below, retried, Or.inr failsAfter⟩⟩)

end Command

section Set

variable
  (script : Script)
  (controller : LedController)
  {ledId : UInt8}
  {led : LedIndex}
  (addressed : ledIndex? ledId = some led)
  {request : Request}
  (fits : request.Fits)
  (notCached : request.cached (controller.cache led) = false)

include addressed fits notCached

/-- A request that is sent transmits one frame as often as the loop does. -/
theorem set_transmits :
    ∃ frame,
      (controller.set script ledId request).2.bus.sent =
        controller.bus.sent ++
          List.replicate
            (RetryLoop.transmissions
              ((controller.slice led).answers (script led))
              commandRetryCount 0)
            frame := by
  obtain ⟨code, p0, p1, p2, p3, -, same⟩ :=
    set_eq_setThrough script controller fits
  rw [same]
  exact
    ⟨_, setThrough_transmits script controller addressed notCached
      request.record⟩

/-- What a request that is sent returns and leaves in the entry. -/
theorem set_ending :
    (∀ error,
        (controller.slice led).outcome (script led) = .exhausted error →
        (controller.set script ledId request).1 = .error error ∧
          (controller.set script ledId request).2.cache led = .zero) ∧
      (∀ error,
        (controller.slice led).outcome (script led) = .aborted error →
        (controller.set script ledId request).1 = .error error ∧
          (controller.set script ledId request).2.cache led =
            controller.cache led) ∧
      ((controller.slice led).outcome (script led) = .acknowledged →
        (controller.set script ledId request).1 = .ok ()) := by
  have meaning := set_slice script controller addressed fits
  have shown : request.cached (controller.slice led).cache = false :=
    notCached
  simp only [Slice.set, shown, Bool.false_eq_true, ↓reduceIte,
    Slice.send] at meaning
  refine ⟨?_, ?_, ?_⟩
  · intro error ended
    rw [ended] at meaning
    obtain ⟨status, entry⟩ := Prod.mk.inj meaning
    exact ⟨status, congrArg Slice.cache entry⟩
  · intro error ended
    rw [ended] at meaning
    obtain ⟨status, entry⟩ := Prod.mk.inj meaning
    exact ⟨status, congrArg Slice.cache entry⟩
  · intro ended
    rw [ended] at meaning
    exact (Prod.mk.inj meaning).1

/-- A failure that forgets the entry leaves nothing trusted. -/
theorem leavesNothingTrusted_of_error
    {error : Errno}
    (status : (controller.set script ledId request).1 = .error error)
    (forgotten :
      (controller.set script ledId request).2.bus.sent ≠
          controller.bus.sent →
        ((controller.set script ledId request).2.cache led).Forgotten) :
    LeavesNothingTrusted script controller ledId request := by
  obtain ⟨frame, sent⟩ :=
    set_transmits script controller addressed fits notCached
  have atMost :=
    RetryLoop.transmissions_le
      ((controller.slice led).answers (script led)) commandRetryCount 0
  refine ⟨?_, ?_⟩
  · intro _ _ transmitted
    refine
      ⟨led, addressed, forgotten transmitted,
        not_cached_of_forgotten (forgotten transmitted), ?_, frame, _,
        atMost, sent⟩
    intro other different
    exact
      congrArg Slice.cache
        (set_of_ne script controller addressed different request)
  · rw [status]
    intro succeeded
    cases succeeded

/-- A request that is sent leaves nothing trusted, if no sleep fails late. -/
theorem leavesNothingTrusted_of_sent
    (harmless :
      SleepFailsAfterFrame (script led (controller.bus.served led)) →
        (controller.cache led).Forgotten) :
    LeavesNothingTrusted script controller ledId request := by
  obtain ⟨frame, sent⟩ :=
    set_transmits script controller addressed fits notCached
  obtain ⟨exhausted, aborted, acknowledged⟩ :=
    set_ending script controller addressed fits notCached
  rcases outcome_cases (script led) (controller.slice led) with
      ⟨error, ended⟩ |
        ⟨ended, attempt, below, retried, isAcknowledged, count⟩ |
        ⟨error, ended, late⟩
  · obtain ⟨status, entry⟩ := exhausted error ended
    apply
      leavesNothingTrusted_of_error script controller addressed fits
        notCached status
    intro _
    rw [entry]
    exact ⟨rfl, rfl, rfl⟩
  · have status := acknowledged ended
    refine ⟨?_, fun _ _ => ?_⟩
    · intro error failed
      rw [status] at failed
      cases failed
    · rw [count] at sent
      exact
        ⟨led, addressed, attempt, below, retried, isAcknowledged, frame,
          sent⟩
  · obtain ⟨status, entry⟩ := aborted error ended
    apply
      leavesNothingTrusted_of_error script controller addressed fits
        notCached status
    intro transmitted
    rcases late with sleepFails | none
    · rw [entry]
      exact harmless sleepFails
    · rw [none, List.replicate_zero, List.append_nil] at sent
      exact (transmitted sent).elim

end Set

/-- A sleep that fails late leaves a trusted entry behind. -/
theorem StaysTrusted.not_leavesNothingTrusted
    {script : Script}
    {controller : LedController}
    {ledId : UInt8}
    {request : Request}
    (trusts : StaysTrusted script controller ledId request) :
    ¬ LeavesNothingTrusted script controller ledId request := by
  intro holds
  obtain ⟨led, addressed, fits, notCached, trusted, sleepFails⟩ := trusts
  obtain ⟨⟨error, ended⟩, positive⟩ :=
    aborted_of_sleepFails (script led) (controller.slice led) sleepFails
  obtain ⟨frame, sent⟩ :=
    set_transmits script controller addressed fits notCached
  obtain ⟨status, entry⟩ :=
    (set_ending script controller addressed fits notCached).2.1 error
      ended
  have transmitted :
      (controller.set script ledId request).2.bus.sent ≠
        controller.bus.sent := by
    intro same
    rw [sent] at same
    have empty := List.append_right_eq_self.mp same
    rw [List.replicate_eq_nil_iff] at empty
    exact positive.ne' empty
  obtain ⟨other, isOther, forgotten, -⟩ :=
    holds.failed error status transmitted
  rw [addressed] at isOther
  rw [← Option.some.inj isOther, entry] at forgotten
  exact trusted forgotten

/--
A call leaves nothing trusted, unless it sends a command for an entry that is
trusted and a sleep fails after the first frame.
-/
theorem leavesNothingTrusted_iff
    (script : Script)
    (controller : LedController)
    (ledId : UInt8)
    (request : Request) :
    LeavesNothingTrusted script controller ledId request ↔
      ¬ StaysTrusted script controller ledId request := by
  constructor
  · exact fun holds trusts => trusts.not_leavesNothingTrusted holds
  · intro notTrusted
    have silent :
        (controller.set script ledId request).2.bus.sent =
            controller.bus.sent →
          LeavesNothingTrusted script controller ledId request :=
      fun same =>
        ⟨fun _ _ transmitted => (transmitted same).elim,
          fun _ transmitted => (transmitted same).elim⟩
    cases addressed : ledIndex? ledId with
    | none =>
        exact
          silent (by rw [set_unknown script controller addressed request])
    | some led =>
        by_cases fits : request.Fits
        · cases shown : request.cached (controller.cache led) with
          | true =>
              obtain ⟨_, _, _, _, _, -, same⟩ :=
                @set_eq_setThrough script controller ledId request fits
              apply silent
              rw [same]
              simp only [setThrough, addressed, shown, ↓reduceIte]
          | false =>
              refine
                leavesNothingTrusted_of_sent script controller addressed
                  fits shown ?_
              intro sleepFails
              by_contra trusted
              exact
                notTrusted
                  ⟨led, addressed, fits, shown, trusted, sleepFails⟩
        · exact
            silent (by rw [set_overlong script controller fits])

/-- The second command to every LED is written, but the next sleep fails. -/
def unsettledScript : Script
  | _, 1 =>
      fun _ => ⟨none, none, some .einval, .ok 1, true⟩
  | _, _ =>
      fun _ => .accepted

/-- The controller after the power LED has been switched on. -/
def litController : LedController :=
  ((initial fun _ => ⟨0, 0, ⟨0, 0, 0⟩, 0, 0⟩).set unsettledScript
    ledPower (.onOff true)).2

/--
The LED is then switched off by a frame after which the sleep fails.  The entry
still says that it is on.
-/
theorem unsettled_staysTrusted :
    ¬ LeavesNothingTrusted unsettledScript litController ledPower
        (.onOff false) := by
  refine StaysTrusted.not_leavesNothingTrusted ?_
  refine
    ⟨powerLed, ledIndex?_ledPower, trivial, rfl, by decide, 0, by decide,
      ?_, Or.inr ⟨rfl, rfl, by decide⟩⟩
  intro earlier below
  cases below

end LedController

end UgreenLeds
