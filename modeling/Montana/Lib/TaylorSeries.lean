import Mathlib.Algebra.BigOperators.Intervals
import Mathlib.Algebra.Order.BigOperators.Group.Finset

/-! The Taylor series of an exponential over the natural numbers: each term is rounded
down, and may be limited before it is divided. -/

namespace TaylorSeries

open Finset (range mem_range sum_congr sum_eq_zero sum_le_sum sum_range_add sum_range_succ sum_range_succ')

/-- The terms of `first * e ^ (numerator / denominator)`. -/
def term (limit : Nat → Nat) (first numerator denominator : Nat) : Nat → Nat
  | 0 => first
  | k + 1 => limit (term limit first numerator denominator k * numerator) / (denominator * (k + 1))

/-- The sum of the first terms. -/
def total (limit : Nat → Nat) (first numerator denominator count : Nat) : Nat :=
  ∑ k ∈ range count, term limit first numerator denominator k

/-- Below this index terms may grow; from it on they shrink until they are 0. -/
theorem quotient_lt {numerator denominator i accum : Nat} (late : numerator < denominator * i)
    (some : accum ≠ 0) : accum * numerator / (denominator * i) < accum :=
  Nat.div_lt_of_lt_mul (Nat.mul_comm accum _ ▸ Nat.mul_lt_mul_of_pos_left late (Nat.pos_of_ne_zero some))

/-- The loop that adds up the terms from this one on until one is 0. -/
def sumFrom (numerator denominator i accum : Nat) : Nat :=
  if accum = 0 then 0
  else accum + sumFrom numerator denominator (i + 1) (accum * numerator / (denominator * i))
termination_by (numerator + 1 - denominator * i, accum)
decreasing_by
  by_cases late : numerator < denominator * i
  · have next : denominator * i ≤ denominator * (i + 1) := Nat.mul_le_mul_left _ (Nat.le_succ i)
    rw [Nat.sub_eq_zero_of_le late, Nat.sub_eq_zero_of_le (late.trans_le next)]
    exact .right _ (quotient_lt late ‹_›)
  · by_cases zero : denominator = 0
    · subst zero
      simp only [Nat.zero_mul, Nat.div_zero]
      exact .right _ (Nat.pos_of_ne_zero ‹_›)
    · refine .left _ _ ?_
      rw [Nat.mul_succ]
      omega

/-- The whole series, divided by the denominator that its first term was multiplied by. -/
def fakeExponential (factor numerator denominator : Nat) : Nat :=
  sumFrom numerator denominator 1 (factor * denominator) / denominator

variable {limit : Nat → Nat} {first first' numerator numerator' : Nat} (denominator : Nat)

theorem term_mono (monotone : Monotone limit) (fewer : first ≤ first') (less : numerator ≤ numerator')
    (k : Nat) : term limit first numerator denominator k ≤ term limit first' numerator' denominator k := by
  induction k with
  | zero => exact fewer
  | succ k ih => exact Nat.div_le_div_right (monotone (Nat.mul_le_mul ih less))

theorem total_mono (monotone : Monotone limit) (fewer : first ≤ first') (less : numerator ≤ numerator')
    (count : Nat) :
    total limit first numerator denominator count ≤ total limit first' numerator' denominator count :=
  sum_le_sum fun k _ => term_mono denominator monotone fewer less k

/-- A limit can only make the terms smaller. -/
theorem term_le_unlimited (below : ∀ value, limit value ≤ value) (k : Nat) :
    term limit first numerator denominator k ≤ term id first numerator denominator k := by
  induction k with
  | zero => exact Nat.le_refl _
  | succ k ih =>
    have product := (below _).trans (Nat.mul_le_mul_right numerator ih)
    exact Nat.div_le_div_right product

theorem total_le_unlimited (below : ∀ value, limit value ≤ value) (count : Nat) :
    total limit first numerator denominator count ≤ total id first numerator denominator count :=
  sum_le_sum fun k _ => term_le_unlimited denominator below k

/-- A limit that no product reaches changes nothing. -/
theorem term_eq_unlimited {count : Nat}
    (free : ∀ k < count, limit (term id first numerator denominator k * numerator) =
      term id first numerator denominator k * numerator) :
    ∀ k ≤ count, term limit first numerator denominator k = term id first numerator denominator k := by
  intro k within
  induction k with
  | zero => rfl
  | succ k ih => rw [term, term, ih (Nat.le_of_succ_le within), free k within, id]

theorem total_eq_unlimited {count : Nat}
    (free : ∀ k < count, limit (term id first numerator denominator k * numerator) =
      term id first numerator denominator k * numerator) :
    total limit first numerator denominator count = total id first numerator denominator count :=
  sum_congr rfl fun k member => term_eq_unlimited denominator free k (Nat.le_of_lt (mem_range.mp member))

/-- After a term that is 0 come no others. -/
theorem term_zero_of_le (zero : limit 0 = 0) {k : Nat}
    (ended : term limit first numerator denominator k = 0) {later : Nat} (after : k ≤ later) :
    term limit first numerator denominator later = 0 := by
  induction after with
  | refl => exact ended
  | step _ ih => rw [term, ih, Nat.zero_mul, zero, Nat.zero_div]

/-- Once they end, the total stays what it is. -/
theorem total_of_zero (zero : limit 0 = 0) {count : Nat}
    (ended : term limit first numerator denominator count = 0) {more : Nat} (after : count ≤ more) :
    total limit first numerator denominator more = total limit first numerator denominator count := by
  induction after with
  | refl => rfl
  | @step more after ih =>
    rw [total, sum_range_succ, term_zero_of_le denominator zero ended after, Nat.add_zero]
    exact ih

theorem exists_term_zero (positive : 0 < denominator) (first numerator : Nat) :
    ∃ count, term id first numerator denominator count = 0 := by
  have shrinks (m : Nat) : term id first numerator denominator (numerator + m) ≤
      term id first numerator denominator numerator - m := by
    induction m with
    | zero => exact Nat.le_refl _
    | succ m ih =>
      by_cases ended : term id first numerator denominator (numerator + m) = 0
      · rw [← Nat.add_assoc, term_zero_of_le denominator rfl ended (Nat.le_succ _)]
        exact Nat.zero_le _
      · have late : numerator < denominator * (numerator + m + 1) := by
          have less := Nat.mul_le_mul_right (numerator + m + 1) positive
          omega
        have smaller := quotient_lt late ended
        rw [← Nat.add_assoc, term, id]
        omega
  refine ⟨numerator + term id first numerator denominator numerator, ?_⟩
  have last := shrinks (term id first numerator denominator numerator)
  omega

theorem sumFrom_eq {k count : Nat} (ended : term id first numerator denominator (k + count) = 0) :
    sumFrom numerator denominator (k + 1) (term id first numerator denominator k) =
      ∑ j ∈ range count, term id first numerator denominator (k + j) := by
  induction count generalizing k with
  | zero =>
    rw [Nat.add_zero] at ended
    rw [sumFrom, if_pos ended]
    rfl
  | succ count ih =>
    rw [sumFrom]
    by_cases none : term id first numerator denominator k = 0
    · rw [if_pos none]
      exact (sum_eq_zero fun j _ => term_zero_of_le denominator rfl none (Nat.le_add_right k j)).symm
    · have rest := @ih (k + 1) (by rw [Nat.add_right_comm]; exact ended)
      rw [if_neg none, sum_range_succ', Nat.add_comm]
      simp only [Nat.add_right_comm k 1] at rest
      exact congrArg (· + _) rest

/-- The loop from the first term on is the first terms and then the loop over the others. -/
theorem sumFrom_eq_total_add (positive : 0 < denominator) (first numerator count : Nat) :
    sumFrom numerator denominator 1 first = total id first numerator denominator count +
      sumFrom numerator denominator (count + 1) (term id first numerator denominator count) := by
  obtain ⟨last, ended⟩ := exists_term_zero denominator positive first numerator
  have whole : term id first numerator denominator (0 + (count + last)) = 0 :=
    term_zero_of_le denominator rfl ended (by omega)
  have rest : term id first numerator denominator (count + last) = 0 :=
    term_zero_of_le denominator rfl ended (Nat.le_add_left _ _)
  have start := sumFrom_eq denominator whole
  simp only [Nat.zero_add] at start
  rw [sumFrom_eq denominator rest, total, ← sum_range_add]
  exact start

theorem sumFrom_mono (positive : 0 < denominator) (fewer : first ≤ first') (less : numerator ≤ numerator')
    (k : Nat) : sumFrom numerator denominator (k + 1) (term id first numerator denominator k) ≤
      sumFrom numerator' denominator (k + 1) (term id first' numerator' denominator k) := by
  obtain ⟨last, ended⟩ := exists_term_zero denominator positive first' numerator'
  have later : term id first' numerator' denominator (k + last) = 0 :=
    term_zero_of_le denominator rfl ended (Nat.le_add_left _ _)
  have smaller := term_mono denominator monotone_id fewer less
  have earlier : term id first numerator denominator (k + last) = 0 :=
    Nat.eq_zero_of_le_zero (later ▸ smaller _)
  rw [sumFrom_eq denominator earlier, sumFrom_eq denominator later]
  exact sum_le_sum fun j _ => smaller _

end TaylorSeries
