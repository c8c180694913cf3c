import Montana.Lib.TaylorSeries
import Montana.TxMgr.Gas

/-! The price of blob gas: `fake_exponential` adds up at most a hundred terms of the
series, each limited to what a word holds. -/

namespace Montana.TxMgr

open TaylorSeries
open Words (clamp clamp_mono clamp_le clamp_of_le maxValue saturatingAdd saturatingMul)

/-- How the round for this term ends: with the last term that counts, or with the next one. -/
theorem fakeExponentialLoop_round {numerator denominator i output accum : U128} {k : Nat}
    (positive : 0 < denominator.toNat) (small : denominator.toNat < 2 ^ 64) (counted : i.toNat = k + 1)
    (within : k < 100) (fuel : Nat) :
    ∃ next : U128, next.toNat = clamp 128 (accum.toNat * numerator.toNat) / (denominator.toNat * (k + 1)) ∧
      (next.toNat = 0 ∨ k = 99 →
        fakeExponentialLoop numerator denominator (fuel + 1) i output accum =
          some (saturatingAdd output accum)) ∧
      (next.toNat ≠ 0 → k < 99 → ∃ i' : U128, i'.toNat = k + 2 ∧
        fakeExponentialLoop numerator denominator (fuel + 1) i output accum =
          fakeExponentialLoop numerator denominator fuel i' (saturatingAdd output accum) next) := by
  have product : denominator.toNat * i.toNat < 2 ^ 128 := by
    rw [counted]
    exact Nat.lt_of_lt_of_le (Nat.mul_lt_mul_of_lt_of_le small (Nat.succ_le_of_lt within) (by decide))
      (by decide)
  obtain ⟨divisor, multiplied, divides⟩ := Words.checkedMul_of_lt product
  obtain ⟨next, divided, quotient⟩ := Words.checkedDiv_of_pos (saturatingMul accum numerator)
    (show 0 < divisor.toNat by rw [divides, counted]; exact Nat.mul_pos positive (Nat.succ_pos k))
  obtain ⟨i', incremented, sum⟩ : ∃ i', Words.checkedAdd i 1 = some i' ∧ i'.toNat = i.toNat + 1 :=
    Words.checkedAdd_of_lt (show i.toNat + (1 : U128).toNat < 2 ^ 128 by rw [counted]; simp; omega)
  have above : i' > 100 ↔ k = 99 := by
    rw [gt_iff_lt, BitVec.lt_def, sum, counted]
    simp
    omega
  have some_left : next > 0 ↔ next.toNat ≠ 0 := by
    rw [gt_iff_lt, BitVec.lt_def]
    simp [Nat.pos_iff_ne_zero]
  have round : fakeExponentialLoop numerator denominator (fuel + 1) i output accum =
      if next.toNat ≠ 0 then
        if k = 99 then some (saturatingAdd output accum)
        else fakeExponentialLoop numerator denominator fuel i' (saturatingAdd output accum) next
      else some (saturatingAdd output accum) := by
    simp only [fakeExponentialLoop, multiplied, divided, incremented, above, some_left, Option.bind_eq_bind,
      Option.bind_some]
  refine ⟨next, by rw [quotient, divides, counted, Words.toNat_saturatingMul], ?_, ?_⟩
  · rintro (none | last)
    · rw [round, if_neg (by simp [none])]
    · rw [round]
      simp [last]
  · intro some few
    exact ⟨i', by omega, by rw [round, if_pos some, if_neg (Nat.ne_of_lt few)]⟩

section Loop

variable {numerator denominator : U128} (first : Nat)

private theorem saturatingAdd_total {output accum : U128} {k : Nat}
    (added : output.toNat = clamp 128 (total (clamp 128) first numerator.toNat denominator.toNat k))
    (current : accum.toNat = term (clamp 128) first numerator.toNat denominator.toNat k) :
    (saturatingAdd output accum).toNat =
      clamp 128 (total (clamp 128) first numerator.toNat denominator.toNat (k + 1)) := by
  rw [Words.toNat_saturatingAdd, added, current, Words.clamp_add_clamp, total, total, Finset.sum_range_succ]

/-- What is left of the fuel is what is left until the limit of a hundred terms. -/
theorem fakeExponentialLoop_total (positive : 0 < denominator.toNat) (small : denominator.toNat < 2 ^ 64)
    {fuel k : Nat} (left : k + fuel = 99) {i output accum : U128} (counted : i.toNat = k + 1)
    (added : output.toNat = clamp 128 (total (clamp 128) first numerator.toNat denominator.toNat k))
    (current : accum.toNat = term (clamp 128) first numerator.toNat denominator.toNat k) :
    ∃ result, fakeExponentialLoop numerator denominator (fuel + 1) i output accum = some result ∧
      result.toNat = clamp 128 (total (clamp 128) first numerator.toNat denominator.toNat 100) := by
  induction fuel generalizing k i output accum with
  | zero =>
    obtain ⟨next, _, ends, _⟩ := @fakeExponentialLoop_round numerator denominator i output accum k
      positive small counted (by omega) 0
    have last : k = 99 := by omega
    subst last
    exact ⟨_, ends (.inr rfl), saturatingAdd_total first added current⟩
  | succ fuel ih =>
    obtain ⟨next, divided, ends, goesOn⟩ := @fakeExponentialLoop_round numerator denominator i output accum k
      positive small counted (by omega) (fuel + 1)
    have further := saturatingAdd_total first added current
    have term_next : next.toNat = term (clamp 128) first numerator.toNat denominator.toNat (k + 1) := by
      rw [divided, current, term]
    by_cases none : next.toNat = 0
    · refine ⟨_, ends (.inl none), ?_⟩
      rw [further, total_of_zero denominator.toNat (clamp_of_le (Nat.zero_le _)) (term_next ▸ none)
        (show k + 1 ≤ 100 by omega)]
    · obtain ⟨i', incremented, loop⟩ := goesOn none (by omega)
      rw [loop]
      exact ih (by omega) incremented further term_next

end Loop

/-- It always returns, and what it returns is the limited total of a hundred limited terms. -/
theorem fakeExponential_eq (factor : U128) (numerator : U64) {denominator : U64}
    (positive : 0 < denominator.toNat) :
    ∃ result, fakeExponential factor numerator denominator = some result ∧
      result.toNat = clamp 128 (total (clamp 128) (clamp 128 (factor.toNat * denominator.toNat))
        numerator.toNat denominator.toNat 100) / denominator.toNat := by
  have wide (value : U64) : (value.setWidth 128).toNat = value.toNat :=
    BitVec.toNat_setWidth_of_le (by decide)
  obtain ⟨output, looped, summed⟩ := @fakeExponentialLoop_total (numerator.setWidth 128)
    (denominator.setWidth 128) (clamp 128 (factor.toNat * denominator.toNat))
    (by rw [wide]; exact positive) (by rw [wide]; exact denominator.isLt) 99 0 rfl 1 0
    (saturatingMul factor (denominator.setWidth 128)) rfl rfl
    (by rw [Words.toNat_saturatingMul, wide]; rfl)
  obtain ⟨result, divided, quotient⟩ := Words.checkedDiv_of_pos output
    (show 0 < (denominator.setWidth 128).toNat by rw [wide]; exact positive)
  refine ⟨result, ?_, ?_⟩
  · rw [fakeExponential, looped]
    exact divided
  · rw [quotient, summed, wide, wide]

private theorem fakeExponential_mono {factor factor' : U128} {numerator numerator' denominator : U64}
    (positive : 0 < denominator.toNat) (fewer : factor.toNat ≤ factor'.toNat)
    (less : numerator.toNat ≤ numerator'.toNat) :
    ∃ result result', fakeExponential factor numerator denominator = some result ∧
      fakeExponential factor' numerator' denominator = some result' ∧ result.toNat ≤ result'.toNat := by
  obtain ⟨result, returned, value⟩ := fakeExponential_eq factor numerator positive
  obtain ⟨result', returned', value'⟩ := fakeExponential_eq factor' numerator' positive
  refine ⟨result, result', returned, returned', ?_⟩
  rw [value, value']
  have first := clamp_mono 128 (Nat.mul_le_mul_right denominator.toNat fewer)
  exact Nat.div_le_div_right (clamp_mono 128 (total_mono _ (clamp_mono 128) first less 100))

namespace GasOracle

/-- The denominator of the price of blob gas. -/
abbrev fraction : Nat := blobGaspriceUpdateFraction.toNat

theorem calcBlobFee_eq (excessBlobGas : U64) : ∃ fee, calcBlobFee excessBlobGas = some fee ∧
    fee.toNat = clamp 128 (total (clamp 128) fraction excessBlobGas.toNat fraction 100) / fraction :=
  fakeExponential_eq minBlobGasprice excessBlobGas (by decide)

/-- The first term alone is the denominator. -/
theorem one_le_calcBlobFee {excessBlobGas : U64} {fee : U128} (returned : calcBlobFee excessBlobGas = some fee) :
    1 ≤ fee.toNat := by
  obtain ⟨fee', returned', value⟩ := calcBlobFee_eq excessBlobGas
  cases returned.symm.trans returned'
  rw [value, Nat.le_div_iff_mul_le (by decide), Nat.one_mul]
  have first : fraction ≤ total (clamp 128) fraction excessBlobGas.toNat fraction 100 := by
    rw [total, Finset.sum_range_succ']
    exact Nat.le_add_left _ _
  have fits : clamp 128 fraction = fraction := clamp_of_le (by decide)
  exact fits ▸ clamp_mono 128 first

/-- What the first hundred terms of the series add up to, and what the others do. -/
def counted (excessBlobGas : Nat) : Nat := total id fraction excessBlobGas fraction 100

def dropped (excessBlobGas : Nat) : Nat :=
  sumFrom excessBlobGas fraction 101 (term id fraction excessBlobGas fraction 100)

private theorem reference_eq (excessBlobGas : Nat) : TaylorSeries.fakeExponential 1 excessBlobGas fraction =
    (counted excessBlobGas + dropped excessBlobGas) / fraction := by
  rw [TaylorSeries.fakeExponential, Nat.one_mul, sumFrom_eq_total_add fraction (by decide) _ _ 100]
  rfl

private theorem counted_mono {fewer more : Nat} (less : fewer ≤ more) : counted fewer ≤ counted more :=
  total_mono _ monotone_id (Nat.le_refl _) less 100

private theorem dropped_mono {fewer more : Nat} (less : fewer ≤ more) : dropped fewer ≤ dropped more :=
  sumFrom_mono _ (by decide) (Nat.le_refl _) less 100

private theorem dropped_of_few {excessBlobGas : Nat} (few : excessBlobGas ≤ 109540081) :
    dropped excessBlobGas = 0 := by
  have last : term id fraction 109540081 fraction 100 = 0 := by decide +kernel
  have none : term id fraction excessBlobGas fraction 100 = 0 :=
    Nat.eq_zero_of_le_zero (last ▸ term_mono _ monotone_id (Nat.le_refl _) few 100)
  rw [dropped, none, sumFrom, if_pos rfl]

/-- From here on the dropped terms alone are worth a wei. -/
theorem fraction_le_dropped {excessBlobGas : Nat} (many : 126248456 ≤ excessBlobGas) :
    fraction ≤ dropped excessBlobGas := by
  have least : dropped 126248456 =
      ∑ j ∈ Finset.range 20, term id fraction 126248456 fraction (100 + j) :=
    sumFrom_eq _ (by decide +kernel)
  have enough : fraction ≤ ∑ j ∈ Finset.range 20, term id fraction 126248456 fraction (100 + j) := by
    decide +kernel
  exact (least ▸ enough).trans (dropped_mono many)

/-- Up to there no product of the first hundred terms leaves its word. -/
theorem total_eq_counted {excessBlobGas : Nat} (few : excessBlobGas ≤ 126248456) :
    total (clamp 128) fraction excessBlobGas fraction 100 = counted excessBlobGas := by
  have fits : ∀ k < 100, term id fraction 126248456 fraction k * 126248456 ≤ maxValue 128 := by
    decide +kernel
  refine total_eq_unlimited _ fun k within => clamp_of_le ?_
  have smaller := Nat.mul_le_mul (term_mono fraction monotone_id (Nat.le_refl fraction) few k) few
  exact smaller.trans (fits k within)

private theorem reference_fits {excessBlobGas : Nat} (few : excessBlobGas ≤ 126248456) :
    counted excessBlobGas + dropped excessBlobGas ≤ maxValue 128 := by
  have least : dropped 126248456 =
      ∑ j ∈ Finset.range 20, term id fraction 126248456 fraction (100 + j) :=
    sumFrom_eq _ (by decide +kernel)
  have fits : counted 126248456 +
      ∑ j ∈ Finset.range 20, term id fraction 126248456 fraction (100 + j) ≤ maxValue 128 := by
    decide +kernel
  exact (Nat.add_le_add (counted_mono few) (dropped_mono few)).trans (least ▸ fits)

/-- What is added to a dividend shows in the quotient unless the remainder leaves room for it. -/
theorem div_eq_add_div_iff {divisor : Nat} (positive : 0 < divisor) (a b : Nat) :
    a / divisor = (a + b) / divisor ↔ a % divisor + b < divisor := by
  have split : (a + b) / divisor = a / divisor + (a % divisor + b) / divisor := by
    rw [← Nat.mul_add_div positive, ← Nat.add_assoc, Nat.div_add_mod]
  rw [split, Nat.left_eq_add, Nat.div_eq_zero_iff_lt positive]

/-- The EIP-4844 price, as far as a word holds it. -/
def referenceFee (excessBlobGas : Nat) : Nat :=
  min (maxValue 128) (TaylorSeries.fakeExponential 1 excessBlobGas fraction)

private theorem referenceFee_of_few {excessBlobGas : Nat} (few : excessBlobGas ≤ 126248456) :
    referenceFee excessBlobGas = (counted excessBlobGas + dropped excessBlobGas) / fraction := by
  rw [referenceFee, reference_eq]
  exact Nat.min_eq_right ((Nat.div_le_self _ _).trans (reference_fits few))

/-- As long as no product saturates, the price is that of the first hundred terms. -/
theorem clamp_total_of_few {excessBlobGas : Nat} (few : excessBlobGas ≤ 126248456) :
    clamp 128 (total (clamp 128) fraction excessBlobGas fraction 100) = counted excessBlobGas := by
  rw [total_eq_counted few]
  exact clamp_of_le ((Nat.le_add_right _ _).trans (reference_fits few))

/-- With as much excess as makes the others count, the hundred terms fall short. -/
theorem lt_referenceFee_of_many {excessBlobGas : Nat} (many : 126248456 ≤ excessBlobGas) :
    clamp 128 (total (clamp 128) fraction excessBlobGas fraction 100) / fraction <
      referenceFee excessBlobGas := by
  have limited : total (clamp 128) fraction excessBlobGas fraction 100 ≤ counted excessBlobGas :=
    total_le_unlimited _ (clamp_le 128) 100
  rw [referenceFee, reference_eq, lt_min_iff]
  constructor
  · have fits : clamp 128 (total (clamp 128) fraction excessBlobGas fraction 100) ≤ maxValue 128 :=
      Nat.min_le_right _ _
    exact (Nat.div_le_div_right fits).trans_lt (by decide)
  · have more : counted excessBlobGas + fraction ≤ counted excessBlobGas + dropped excessBlobGas :=
      Nat.add_le_add_left (fraction_le_dropped many) _
    calc clamp 128 (total (clamp 128) fraction excessBlobGas fraction 100) / fraction
        ≤ counted excessBlobGas / fraction := Nat.div_le_div_right ((clamp_le 128 _).trans limited)
      _ < counted excessBlobGas / fraction + 1 := Nat.lt_succ_self _
      _ = (counted excessBlobGas + fraction) / fraction := (Nat.add_div_right _ (by decide)).symm
      _ ≤ (counted excessBlobGas + dropped excessBlobGas) / fraction := Nat.div_le_div_right more

/-- The price never exceeds that of the reference, and is the same exactly when the terms
after the hundredth do not carry: for all that have no such terms, for none whose terms
after the hundredth are worth a wei. -/
theorem calcBlobFee_eq_iff (excessBlobGas : U64) :
    ∃ fee, calcBlobFee excessBlobGas = some fee ∧ fee.toNat ≤ referenceFee excessBlobGas.toNat ∧
      (fee.toNat = referenceFee excessBlobGas.toNat ↔
        counted excessBlobGas.toNat % fraction + dropped excessBlobGas.toNat < fraction) ∧
      (excessBlobGas.toNat ≤ 109540081 → fee.toNat = referenceFee excessBlobGas.toNat) ∧
      (126248456 ≤ excessBlobGas.toNat → fee.toNat < referenceFee excessBlobGas.toNat) := by
  obtain ⟨fee, returned, value⟩ := calcBlobFee_eq excessBlobGas
  refine ⟨fee, returned, ?_⟩
  rw [value]
  by_cases many : 126248456 ≤ excessBlobGas.toNat
  · have less := lt_referenceFee_of_many many
    have worth := fraction_le_dropped many
    exact ⟨less.le, iff_of_false less.ne (by omega), fun few => absurd many (by omega), fun _ => less⟩
  · have few : excessBlobGas.toNat ≤ 126248456 := by omega
    rw [clamp_total_of_few few, referenceFee_of_few few]
    refine ⟨Nat.div_le_div_right (Nat.le_add_right _ _), div_eq_add_div_iff (by decide) _ _, ?_,
      fun enough => absurd enough many⟩
    intro fewer
    rw [dropped_of_few fewer, Nat.add_zero]

/-- Here the last wei comes from the terms after the hundredth. -/
theorem last_wei_dropped : calcBlobFee 110186660 = some 215734128636693 ∧
    referenceFee 110186660 = 215734128636694 := by
  have others : dropped 110186660 =
      ∑ j ∈ Finset.range 20, term id fraction 110186660 fraction (100 + j) :=
    sumFrom_eq _ (by decide +kernel)
  refine ⟨by decide +kernel, ?_⟩
  rw [referenceFee_of_few (by decide), others]
  decide +kernel

theorem calcBlobFee_eq_of_thirty : ∃ fee, calcBlobFee 100154310 = some fee ∧
    fee.toNat = referenceFee 100154310 := by
  obtain ⟨fee, returned, _, _, same, _⟩ := calcBlobFee_eq_iff 100154310
  exact ⟨fee, returned, same (by decide)⟩

/-- `fake_exponential` ends without overflow and grows with the factor and the numerator,
and so does the price of blob gas, which is never 0. -/
theorem calcBlobFee_mono :
    (∀ (factor factor' : U128) (numerator numerator' denominator : U64), 0 < denominator.toNat →
      factor.toNat ≤ factor'.toNat → numerator.toNat ≤ numerator'.toNat →
        ∃ result result', fakeExponential factor numerator denominator = some result ∧
          fakeExponential factor' numerator' denominator = some result' ∧ result.toNat ≤ result'.toNat) ∧
    ∀ excess excess' : U64, excess.toNat ≤ excess'.toNat →
      ∃ fee fee', calcBlobFee excess = some fee ∧ calcBlobFee excess' = some fee' ∧
        1 ≤ fee.toNat ∧ fee.toNat ≤ fee'.toNat := by
  refine ⟨fun _ _ _ _ _ positive fewer less => fakeExponential_mono positive fewer less, ?_⟩
  intro excess excess' less
  obtain ⟨fee, fee', returned, returned', grows⟩ := @fakeExponential_mono minBlobGasprice
    minBlobGasprice excess excess' blobGaspriceUpdateFraction (by decide) (Nat.le_refl _) less
  exact ⟨fee, fee', returned, returned', one_le_calcBlobFee returned, grows⟩

/-- The products of the greatest factor saturate, and those of denominator 1 do not vanish
within a hundred terms. -/
theorem calcBlobFee_mono_saturated :
    (∃ result result', fakeExponential 1000 100000 1 = some result ∧
      fakeExponential (BitVec.allOnes 128) 100000 1 = some result' ∧ result.toNat ≤ result'.toNat) ∧
    ∃ fee fee', calcBlobFee 1000000 = some fee ∧ calcBlobFee 5000000 = some fee' ∧
      1 ≤ fee.toNat ∧ fee.toNat ≤ fee'.toNat :=
  ⟨calcBlobFee_mono.1 _ _ _ _ _ (by decide) (by decide) (Nat.le_refl _),
    calcBlobFee_mono.2 _ _ (by decide)⟩

end GasOracle

end Montana.TxMgr
