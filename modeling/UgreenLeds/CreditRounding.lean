import Mathlib.Algebra.BigOperators.Group.List.Basic
import Mathlib.Algebra.Order.Field.Basic
import Mathlib.Tactic.Linarith
import Mathlib.Tactic.LinearCombination

/-!
# Rounding a sequence of weights by carrying credit

Each round offers a weight between zero and one.  The rounder adds it to a
credit, picks the round when the credit has reached one half, and pays one unit
for each pick.  Whatever the weights are, the credit stays in a half-open
interval of length one, so the picks of any window follow its total weight.

Nothing here depends on what is picked.
-/

namespace CreditRounding

variable {K : Type*} [Field K] [LinearOrder K]

/-- Whether a round of this weight is picked. -/
def picks (credit weight : K) : Bool :=
  decide (1 / 2 ≤ credit + weight)

/-- The credit carried to the next round. -/
def carry (credit weight : K) : K :=
  if picks credit weight then
    credit + weight - 1
  else
    credit + weight

/-- The credit carried past a list of rounds. -/
def carryAll (credit : K) (weights : List K) : K :=
  weights.foldl carry credit

/-- The number of rounds of a list that are picked. -/
def pickCount : K → List K → ℕ
  | _, [] =>
      0
  | credit, weight :: rest =>
      (picks credit weight).toNat + pickCount (carry credit weight) rest

/-- The credits a rounder can hold. -/
def Bounded (credit : K) : Prop :=
  -(1 / 2) ≤ credit ∧ credit < 1 / 2

/-- A pick costs one unit, and nothing else changes the credit. -/
theorem carry_eq (credit weight : K) :
    carry credit weight =
      credit + weight - (picks credit weight).toNat := by
  unfold carry
  cases picks credit weight with
  | true =>
      simp
  | false =>
      simp

/-- Picks and weights differ by what the credit has lost. -/
theorem pickCount_sub_sum
    (credit : K)
    (weights : List K) :
    (pickCount credit weights : K) - weights.sum =
      credit - carryAll credit weights := by
  induction weights generalizing credit with
  | nil =>
      simp [pickCount, carryAll]
  | cons weight rest inductionHypothesis =>
      have later := inductionHypothesis (carry credit weight)
      have paid := carry_eq credit weight
      simp only [pickCount, carryAll, List.foldl_cons, List.sum_cons,
        Nat.cast_add] at later ⊢
      linear_combination later + paid

section Ordered

variable [IsStrictOrderedRing K]

/-- The empty credit is bounded. -/
theorem bounded_zero : Bounded (0 : K) := by
  constructor
  · linarith [one_half_pos (α := K)]
  · exact one_half_pos

/-- A round of a weight between zero and one keeps the credit bounded. -/
theorem Bounded.carry
    {credit weight : K}
    (bounded : Bounded credit)
    (nonnegative : 0 ≤ weight)
    (atMostOne : weight ≤ 1) :
    Bounded (carry credit weight) := by
  obtain ⟨lower, upper⟩ := bounded
  have paid := carry_eq credit weight
  by_cases reached : 1 / 2 ≤ credit + weight
  · have picked : picks credit weight = true := decide_eq_true reached
    rw [picked, Bool.toNat_true, Nat.cast_one] at paid
    rw [paid]
    constructor
    · linarith
    · linarith
  · have passed : picks credit weight = false :=
      decide_eq_false reached
    rw [passed, Bool.toNat_false, Nat.cast_zero, sub_zero] at paid
    rw [paid]
    constructor
    · linarith
    · exact not_le.mp reached

/-- Any number of rounds keep the credit bounded. -/
theorem Bounded.carryAll
    {credit : K}
    (bounded : Bounded credit)
    {weights : List K}
    (fractions : ∀ weight ∈ weights, 0 ≤ weight ∧ weight ≤ 1) :
    Bounded (carryAll credit weights) := by
  induction weights generalizing credit with
  | nil =>
      exact bounded
  | cons weight rest inductionHypothesis =>
      obtain ⟨nonnegative, atMostOne⟩ :=
        fractions weight List.mem_cons_self
      exact
        inductionHypothesis (bounded.carry nonnegative atMostOne)
          fun other member =>
            fractions other (List.mem_cons_of_mem _ member)

/-- Two bounded credits are less than one apart. -/
theorem Bounded.abs_sub_lt_one
    {first second : K}
    (firstBounded : Bounded first)
    (secondBounded : Bounded second) :
    |first - second| < 1 := by
  obtain ⟨firstLower, firstUpper⟩ := firstBounded
  obtain ⟨secondLower, secondUpper⟩ := secondBounded
  rw [abs_lt]
  constructor
  · linarith
  · linarith

/-- The picks of a window differ from its weight by less than one. -/
theorem abs_pickCount_sub_sum_lt_one
    {credit : K}
    (bounded : Bounded credit)
    {weights : List K}
    (fractions : ∀ weight ∈ weights, 0 ≤ weight ∧ weight ≤ 1) :
    |(pickCount credit weights : K) - weights.sum| < 1 := by
  rw [pickCount_sub_sum]
  exact bounded.abs_sub_lt_one (bounded.carryAll fractions)

end Ordered

end CreditRounding
