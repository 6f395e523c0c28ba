import UgreenLeds.CreditRounding
import UgreenLeds.Types
import Mathlib.Data.Rat.Cast.Order
import Mathlib.Tactic.Positivity
import Mathlib.Tactic.Ring

/-!
# The RX/TX pulse scheduler

The model of `scheduler.c`.  The credits are `long double` in the code; here
their type is a parameter with the operations that the code uses.  The fairness
results take it to be the rationals, where the arithmetic is exact: seen from
its receive credit the scheduler is then a credit rounder.
-/

namespace UgreenLeds

/-- `saturating_add` and `saturating_add_u64`. -/
def saturatingAdd (a b : UInt64) : UInt64 :=
  if UInt64.size - 1 - a.toNat < b.toNat then
    -1
  else
    a + b

/-- `struct pulse_scheduler`. -/
structure PulseScheduler (Credit : Type) where
  rxCredit : Credit
  txCredit : Credit
  rxPulses : UInt64
  txPulses : UInt64
  deriving DecidableEq, Repr

namespace PulseScheduler

section Model

variable
  {Credit : Type}
  [NatCast Credit] [Add Credit] [Sub Credit] [Div Credit]
  [LE Credit] [DecidableLE Credit]

/-- The scheduler after `memset`. -/
def zero : PulseScheduler Credit where
  rxCredit := (0 : Nat)
  txCredit := (0 : Nat)
  rxPulses := 0
  txPulses := 0

/-- The direction `scheduler_choose_rx` picks, with the credits it leaves. -/
def weigh
    (scheduler : PulseScheduler Credit)
    (rxBytes txBytes : UInt64) : Bool × PulseScheduler Credit :=
  if txBytes = 0 then
    (true, scheduler)
  else if rxBytes = 0 then
    (false, scheduler)
  else
    let totalBytes : Credit := rxBytes.toNat + txBytes.toNat
    let rxCredit := scheduler.rxCredit + rxBytes.toNat / totalBytes
    let txCredit := scheduler.txCredit + txBytes.toNat / totalBytes
    if rxCredit ≥ txCredit then
      (true,
        { scheduler with rxCredit := rxCredit - (1 : Nat), txCredit })
    else
      (false,
        { scheduler with rxCredit, txCredit := txCredit - (1 : Nat) })

/-- `scheduler_choose_rx`. -/
def chooseRx
    (scheduler : PulseScheduler Credit)
    (rxBytes txBytes : UInt64) : Bool × PulseScheduler Credit :=
  let (rx, scheduler) := scheduler.weigh rxBytes txBytes
  if rx then
    (rx,
      { scheduler with
        rxPulses := saturatingAdd scheduler.rxPulses 1 })
  else
    (rx,
      { scheduler with
        txPulses := saturatingAdd scheduler.txPulses 1 })

/-- Both credits. -/
def credits (scheduler : PulseScheduler Credit) : Credit × Credit :=
  (scheduler.rxCredit, scheduler.txCredit)

/-- The byte counts of one call. -/
abbrev Call := UInt64 × UInt64

/-- The scheduler after a list of calls. -/
def afterCalls
    (scheduler : PulseScheduler Credit)
    (calls : List Call) : PulseScheduler Credit :=
  calls.foldl
    (fun scheduler call => (scheduler.chooseRx call.1 call.2).2)
    scheduler

/-- Both directions have traffic. -/
def Contended (call : Call) : Prop :=
  call.1 ≠ 0 ∧ call.2 ≠ 0

instance (call : Call) : Decidable (Contended call) :=
  inferInstanceAs (Decidable (_ ∧ _))

/-- How many of the contended calls of a list pick the receive direction. -/
def rxPicks : PulseScheduler Credit → List Call → Nat
  | _, [] =>
      0
  | scheduler, call :: rest =>
      let (rx, next) := scheduler.chooseRx call.1 call.2
      (decide (Contended call) && rx).toNat + rxPicks next rest

end Model

section Fairness

/-- The receive direction's share of a call's traffic. -/
def share (call : Call) : ℚ :=
  call.1.toNat / (call.1.toNat + call.2.toNat)

/-- The shares of the contended calls of a list. -/
def shares (calls : List Call) : List ℚ :=
  (calls.filter fun call => Contended call).map share

/-- The credits of both directions cancel. -/
def Balanced (scheduler : PulseScheduler ℚ) : Prop :=
  scheduler.rxCredit + scheduler.txCredit = 0

/-- A call with traffic has a positive total. -/
theorem total_pos
    {call : Call}
    (contended : Contended call) :
    (0 : ℚ) < call.1.toNat + call.2.toNat := by
  have positive : 0 < call.1.toNat := by
    rw [Nat.pos_iff_ne_zero]
    intro silent
    exact contended.1 (UInt64.toNat_inj.mp silent)
  exact add_pos_of_pos_of_nonneg (Nat.cast_pos.mpr positive)
    (Nat.cast_nonneg _)

/-- A share lies between zero and one. -/
theorem share_bounds (call : Call) :
    0 ≤ share call ∧ share call ≤ 1 := by
  have nonnegative : (0 : ℚ) ≤ call.1.toNat + call.2.toNat := by
    positivity
  constructor
  · exact div_nonneg (Nat.cast_nonneg _) nonnegative
  · exact
      div_le_one_of_le₀
        (le_add_of_nonneg_right (Nat.cast_nonneg _)) nonnegative

/-- The shares of any calls lie between zero and one. -/
theorem shares_bounds (calls : List Call) :
    ∀ weight ∈ shares calls, 0 ≤ weight ∧ weight ≤ 1 := by
  intro weight member
  obtain ⟨call, -, rfl⟩ := List.mem_map.mp member
  exact share_bounds call

/-- `scheduler_choose_rx` picks what `weigh` picks. -/
theorem chooseRx_pick
    (scheduler : PulseScheduler ℚ)
    (rxBytes txBytes : UInt64) :
    (scheduler.chooseRx rxBytes txBytes).1 =
      (scheduler.weigh rxBytes txBytes).1 := by
  simp only [chooseRx]
  rcases scheduler.weigh rxBytes txBytes with ⟨_ | _, weighed⟩
  · simp
  · simp

/-- Counting the pulses leaves the receive credit of `weigh` alone. -/
theorem chooseRx_rxCredit
    (scheduler : PulseScheduler ℚ)
    (rxBytes txBytes : UInt64) :
    (scheduler.chooseRx rxBytes txBytes).2.rxCredit =
      (scheduler.weigh rxBytes txBytes).2.rxCredit := by
  simp only [chooseRx]
  rcases scheduler.weigh rxBytes txBytes with ⟨_ | _, weighed⟩
  · simp
  · simp

/-- Counting the pulses leaves the transmit credit of `weigh` alone. -/
theorem chooseRx_txCredit
    (scheduler : PulseScheduler ℚ)
    (rxBytes txBytes : UInt64) :
    (scheduler.chooseRx rxBytes txBytes).2.txCredit =
      (scheduler.weigh rxBytes txBytes).2.txCredit := by
  simp only [chooseRx]
  rcases scheduler.weigh rxBytes txBytes with ⟨_ | _, weighed⟩
  · simp
  · simp

/-- A call without contention leaves both credits alone. -/
theorem chooseRx_uncontended
    (scheduler : PulseScheduler ℚ)
    (call : Call)
    (uncontended : ¬ Contended call) :
    (scheduler.chooseRx call.1 call.2).2.credits =
      scheduler.credits := by
  rw [credits, chooseRx_rxCredit, chooseRx_txCredit]
  by_cases noTx : call.2 = 0
  · simp [weigh, credits, noTx]
  · have noRx : call.1 = 0 := by
      by_contra someRx
      exact uncontended ⟨someRx, noTx⟩
    simp [weigh, credits, noTx, noRx]

/-- A contended call adds the shares and takes one from the larger credit. -/
theorem weigh_contended
    {scheduler : PulseScheduler ℚ}
    (balanced : scheduler.Balanced)
    {call : Call}
    (contended : Contended call) :
    scheduler.weigh call.1 call.2 =
      if 1 / 2 ≤ scheduler.rxCredit + share call then
        (true,
          { scheduler with
            rxCredit := scheduler.rxCredit + share call - 1
            txCredit := scheduler.txCredit + (1 - share call) })
      else
        (false,
          { scheduler with
            rxCredit := scheduler.rxCredit + share call
            txCredit :=
              scheduler.txCredit + (1 - share call) - 1 }) := by
  have complement :
      (call.2.toNat : ℚ) / (call.1.toNat + call.2.toNat) =
        1 - share call := by
    have positive := total_pos contended
    rw [share, eq_sub_iff_add_eq, ← add_div, add_comm,
      div_self positive.ne']
  have txCredit : scheduler.txCredit = -scheduler.rxCredit :=
    eq_neg_of_add_eq_zero_right balanced
  have halfway :
      scheduler.rxCredit + share call ≥
          scheduler.txCredit + (1 - share call) ↔
        1 / 2 ≤ scheduler.rxCredit + share call := by
    rw [txCredit]
    constructor
    · intro reached
      linarith
    · intro reached
      linarith
  simp only [weigh, if_neg contended.1, if_neg contended.2,
    complement, Nat.cast_one]
  rw [← share]
  simp only [halfway]

/-- A contended call is one round of the credit rounder. -/
theorem chooseRx_contended
    {scheduler : PulseScheduler ℚ}
    (balanced : scheduler.Balanced)
    {call : Call}
    (contended : Contended call) :
    (scheduler.chooseRx call.1 call.2).1 =
        CreditRounding.picks scheduler.rxCredit (share call) ∧
      (scheduler.chooseRx call.1 call.2).2.rxCredit =
        CreditRounding.carry scheduler.rxCredit (share call) ∧
      (scheduler.chooseRx call.1 call.2).2.Balanced := by
  have txCredit : scheduler.txCredit = -scheduler.rxCredit :=
    eq_neg_of_add_eq_zero_right balanced
  rw [Balanced, chooseRx_pick, chooseRx_rxCredit, chooseRx_txCredit,
    weigh_contended balanced contended, CreditRounding.carry_eq]
  by_cases reached : 1 / 2 ≤ scheduler.rxCredit + share call
  · rw [if_pos reached]
    have picked :
        CreditRounding.picks scheduler.rxCredit (share call) = true :=
      decide_eq_true reached
    refine ⟨picked.symm, ?_, ?_⟩
    · simp [picked]
    · rw [txCredit]
      ring
  · rw [if_neg reached]
    have passed :
        CreditRounding.picks scheduler.rxCredit (share call) = false :=
      decide_eq_false reached
    refine ⟨passed.symm, ?_, ?_⟩
    · simp [passed]
    · rw [txCredit]
      ring

/-- Every call keeps the credits balanced. -/
theorem Balanced.chooseRx
    {scheduler : PulseScheduler ℚ}
    (balanced : scheduler.Balanced)
    (call : Call) :
    (scheduler.chooseRx call.1 call.2).2.Balanced := by
  by_cases contended : Contended call
  · exact (chooseRx_contended balanced contended).2.2
  · obtain ⟨sameRx, sameTx⟩ :=
      Prod.mk.inj (chooseRx_uncontended scheduler call contended)
    rw [Balanced, sameRx, sameTx]
    exact balanced

/-- A list of calls is a list of rounds, one for each contended call. -/
theorem Balanced.afterCalls
    {scheduler : PulseScheduler ℚ}
    (balanced : scheduler.Balanced)
    (calls : List Call) :
    (scheduler.afterCalls calls).Balanced ∧
      (scheduler.afterCalls calls).rxCredit =
        CreditRounding.carryAll scheduler.rxCredit (shares calls) := by
  induction calls generalizing scheduler with
  | nil =>
      exact ⟨balanced, rfl⟩
  | cons call rest inductionHypothesis =>
      obtain ⟨stillBalanced, carried⟩ :=
        inductionHypothesis (balanced.chooseRx call)
      refine ⟨stillBalanced, ?_⟩
      simp only [PulseScheduler.afterCalls, List.foldl_cons] at carried ⊢
      rw [carried]
      by_cases contended : Contended call
      · rw [(chooseRx_contended balanced contended).2.1]
        simp [shares, contended, CreditRounding.carryAll]
      · obtain ⟨sameRx, -⟩ :=
          Prod.mk.inj (chooseRx_uncontended scheduler call contended)
        rw [sameRx]
        simp [shares, contended]

/-- The receive picks of a list of calls are those of the credit rounder. -/
theorem Balanced.rxPicks_eq
    {scheduler : PulseScheduler ℚ}
    (balanced : scheduler.Balanced)
    (calls : List Call) :
    rxPicks scheduler calls =
      CreditRounding.pickCount scheduler.rxCredit (shares calls) := by
  induction calls generalizing scheduler with
  | nil =>
      rfl
  | cons call rest inductionHypothesis =>
      have later := inductionHypothesis (balanced.chooseRx call)
      simp only [rxPicks, later]
      by_cases contended : Contended call
      · obtain ⟨picked, carried, -⟩ :=
          chooseRx_contended balanced contended
        rw [picked, carried]
        simp [shares, contended, CreditRounding.pickCount]
      · obtain ⟨sameRx, -⟩ :=
          Prod.mk.inj (chooseRx_uncontended scheduler call contended)
        rw [sameRx]
        simp [shares, contended]

/-- The credits of a scheduler that has served any calls. -/
theorem afterCalls_zero (calls : List Call) :
    (zero.afterCalls calls).Balanced ∧
      CreditRounding.Bounded
        (zero.afterCalls calls : PulseScheduler ℚ).rxCredit := by
  have start : (zero : PulseScheduler ℚ).Balanced := by
    simp [Balanced, zero]
  have empty :
      CreditRounding.Bounded (zero : PulseScheduler ℚ).rxCredit := by
    simpa [zero] using CreditRounding.bounded_zero (K := ℚ)
  obtain ⟨balanced, carried⟩ := start.afterCalls calls
  refine ⟨balanced, ?_⟩
  rw [carried]
  exact empty.carryAll (shares_bounds calls)

/--
Whatever calls came before, the credits cancel and the receive credit lies in a
half-open interval of length one, and in every window the receive picks among
the contended calls differ from the receive direction's shares by less than one.
The other calls pick the direction that has traffic and cost no credit.
-/
theorem picks_follow_traffic (earlier : List Call) :
    ((zero.afterCalls earlier : PulseScheduler ℚ).rxCredit +
          (zero.afterCalls earlier : PulseScheduler ℚ).txCredit = 0 ∧
        -(1 / 2) ≤
          (zero.afterCalls earlier : PulseScheduler ℚ).rxCredit ∧
        (zero.afterCalls earlier : PulseScheduler ℚ).rxCredit <
          1 / 2) ∧
      (∀ window : List Call,
        |(rxPicks (zero.afterCalls earlier : PulseScheduler ℚ)
              window : ℚ) -
            (shares window).sum| < 1) ∧
      ∀ (scheduler : PulseScheduler ℚ) (bytes : UInt64),
        (scheduler.chooseRx bytes 0).1 = true ∧
          (scheduler.chooseRx bytes 0).2.credits =
            scheduler.credits ∧
          (scheduler.chooseRx 0 bytes).1 = decide (bytes = 0) ∧
          (scheduler.chooseRx 0 bytes).2.credits =
            scheduler.credits := by
  obtain ⟨balanced, bounded⟩ := afterCalls_zero earlier
  refine ⟨⟨balanced, bounded⟩, ?_, ?_⟩
  · intro window
    rw [balanced.rxPicks_eq]
    exact
      CreditRounding.abs_pickCount_sub_sum_lt_one bounded
        (shares_bounds window)
  · intro scheduler bytes
    refine ⟨by simp [chooseRx_pick, weigh], ?_, ?_, ?_⟩
    · exact
        chooseRx_uncontended scheduler (bytes, 0)
          fun contended => contended.2 rfl
    · by_cases silent : bytes = 0
      · simp [chooseRx_pick, weigh, silent]
      · simp [chooseRx_pick, weigh, silent]
    · exact
        chooseRx_uncontended scheduler (0, bytes)
          fun contended => contended.1 rfl

end Fairness

end PulseScheduler

end UgreenLeds
