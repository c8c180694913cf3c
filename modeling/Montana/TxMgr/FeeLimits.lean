import Montana.TxMgr.BlobFee
import Montana.TxMgr.Bumps

/-! The configured limits, and the prices that are suggested and bumped without them. -/

namespace Montana.TxMgr

open Runs (Guarded)
open Storage (U256)

/-- What the limits of the configuration allow after these caps were suggested. -/
structure WithinLimits (config : TxManagerConfig) (first caps : GasCaps) : Prop where
  blob : ∀ limit ∈ config.maxBlobFeePerGas, ∀ cap ∈ caps.blobFeeCap, cap.toNat ≤ limit.toNat
  fee : caps.gasFeeCap.toNat ≤ config.feeLimitMultiplier.toNat * first.gasFeeCap.toNat

namespace GasOracle

/-- The price of blob gas is within its limit, and the multiplier is not 0 unless all
prices are. -/
def SuggestsWithin (self : GasOracle) (header : Header) : Prop :=
  (∀ limit ∈ self.config.maxBlobFeePerGas, ∀ excess ∈ header.excessBlobGas,
    ∀ fee ∈ calcBlobFee excess, fee.toNat ≤ limit.toNat) ∧
  (self.config.feeLimitMultiplier = 0 →
    header.baseFeePerGas = some 0 ∧ self.config.minTipCapWei = 0)

/-- The caps that have a limit are small enough for this multiple of a hundredth. -/
def KeepsWithin (config : TxManagerConfig) (first : GasCaps) (multiplier : Nat) (caps : GasCaps) : Prop :=
  (∀ limit ∈ config.maxBlobFeePerGas, ∀ cap ∈ caps.blobFeeCap, BumpWithin multiplier limit.toNat cap) ∧
  BumpWithin multiplier (config.feeLimitMultiplier.toNat * first.gasFeeCap.toNat) caps.gasFeeCap

theorem bumpBy_within_iff {config : TxManagerConfig} {first : GasCaps} (multiplier : U256) (caps : GasCaps) :
    WithinLimits config first (caps.bumpBy multiplier) ↔ KeepsWithin config first multiplier.toNat caps := by
  constructor
  · intro within
    refine ⟨?_, bumpCap_le_iff.mp within.fee⟩
    intro limit limited
    exact (forall_bumpCap_le_iff caps.blobFeeCap).mp (within.blob limit limited)
  · intro keeps
    refine ⟨?_, bumpCap_le_iff.mpr keeps.2⟩
    intro limit limited
    exact (forall_bumpCap_le_iff caps.blobFeeCap).mpr (keeps.1 limit limited)

/-- What is suggested from a header. -/
theorem suggestGasCaps_inv {self : GasOracle} {header : Header} {caps : GasCaps}
    (suggested : self.suggestGasCaps (.ok (some header)) = some (.ok caps)) :
    (∃ baseFee, header.baseFeePerGas = some baseFee ∧
      caps.gasFeeCap.toNat = baseFee.toNat + self.config.minTipCapWei.toNat) ∧
    caps.gasTipCap.toNat = self.config.minTipCapWei.toNat ∧
    caps.blobFeeCap.map BitVec.toNat = (header.excessBlobGas.bind calcBlobFee).map BitVec.toNat := by
  have tip : (self.config.minTipCapWei.setWidth 256).toNat = self.config.minTipCapWei.toNat :=
    BitVec.toNat_setWidth_of_le (by decide)
  obtain ⟨base, excess⟩ := header
  cases base with
  | none => cases suggested
  | some baseFee =>
    have fee : (baseFee.setWidth 256 + self.config.minTipCapWei.setWidth 256).toNat =
        baseFee.toNat + self.config.minTipCapWei.toNat := by
      rw [BitVec.toNat_add, tip, BitVec.toNat_setWidth_of_le (by decide)]
      exact Nat.mod_eq_of_lt (by have := baseFee.isLt; have := self.config.minTipCapWei.isLt; omega)
    cases excess with
    | none =>
      cases suggested
      exact ⟨⟨baseFee, rfl, fee⟩, tip, rfl⟩
    | some excess =>
      obtain ⟨blobFee, returned, _⟩ := calcBlobFee_eq excess
      simp only [suggestGasCaps, returned, Option.map_some, Option.some.injEq, Except.ok.injEq] at suggested
      cases suggested
      refine ⟨⟨baseFee, rfl, fee⟩, tip, ?_⟩
      rw [Option.bind_some, returned, Option.map_some, Option.map_some, BitVec.toNat_setWidth_of_le (by decide)]

private theorem suggested_within_iff {self : GasOracle} {header : Header} {caps : GasCaps}
    (suggested : self.suggestGasCaps (.ok (some header)) = some (.ok caps)) :
    WithinLimits self.config caps caps ↔ self.SuggestsWithin header := by
  obtain ⟨⟨baseFee, base, fee⟩, _, blob⟩ := suggestGasCaps_inv suggested
  have nothing : caps.gasFeeCap.toNat = 0 ↔ header.baseFeePerGas = some 0 ∧ self.config.minTipCapWei = 0 := by
    rw [fee, base, Option.some.injEq, ← BitVec.toNat_inj, ← BitVec.toNat_inj]
    exact Nat.add_eq_zero_iff
  have multiplied : caps.gasFeeCap.toNat ≤ self.config.feeLimitMultiplier.toNat * caps.gasFeeCap.toNat ↔
      (self.config.feeLimitMultiplier = 0 →
        header.baseFeePerGas = some 0 ∧ self.config.minTipCapWei = 0) := by
    rw [← nothing, ← BitVec.toNat_inj]
    rcases Nat.eq_zero_or_pos self.config.feeLimitMultiplier.toNat with zero | positive
    · simp [zero]
    · exact iff_of_true (Nat.le_mul_of_pos_left _ positive) fun zero => absurd zero positive.ne'
  constructor
  · rintro ⟨within, kept⟩
    refine ⟨fun limit limited excess present price priced => ?_, multiplied.mp kept⟩
    have returned : caps.blobFeeCap.map BitVec.toNat = some price.toNat := by
      rw [blob, Option.mem_def.mp present, Option.bind_some, Option.mem_def.mp priced]
      rfl
    obtain ⟨cap, capped, same⟩ := Option.map_eq_some_iff.mp returned
    exact same ▸ within limit limited cap capped
  · rintro ⟨within, kept⟩
    refine ⟨fun limit limited cap capped => ?_, multiplied.mpr kept⟩
    have returned : (header.excessBlobGas.bind calcBlobFee).map BitVec.toNat = some cap.toNat := by
      rw [← blob, Option.mem_def.mp capped]
      rfl
    obtain ⟨price, priced, same⟩ := Option.map_eq_some_iff.mp returned
    obtain ⟨excess, present, priced⟩ := Option.bind_eq_some_iff.mp priced
    exact same ▸ within limit limited excess present price priced

/-- The first caps are within the limits, and so are those after any number of the bumps. -/
def AlwaysWithin (self : GasOracle) (first : GasCaps) (bumps : List Bool) : Prop :=
  ∀ count, ∀ caps ∈ (bumps.take count).foldl self.bump (some first), WithinLimits self.config first caps

/-- Nothing enforces the limits: they hold of every price exactly when they hold of the
first ones and the caps are small enough before every bump. -/
theorem prices_within_iff {self : GasOracle} {header : Header} {first : GasCaps}
    (suggested : self.suggestGasCaps (.ok (some header)) = some (.ok first)) (bumps : List Bool) :
    self.AlwaysWithin first bumps ↔ self.SuggestsWithin header ∧
      Guarded self.bump (self.BumpMeets (KeepsWithin self.config first)) (some first) bumps := by
  rw [AlwaysWithin, self.forall_bumps_iff bumpBy_within_iff first bumps, suggested_within_iff suggested]

theorem prices_within_two_bumps : AlwaysWithin { config := { maxBlobFeePerGas := some 2 } }
    ⟨1000000000, 1000000007, some 1⟩ [true, false] :=
  (@prices_within_iff { config := { maxBlobFeePerGas := some 2 } } ⟨some 7, some 0⟩
    ⟨1000000000, 1000000007, some 1⟩ (by decide +kernel) [true, false]).mpr <| by
    refine ⟨⟨?_, by decide⟩, ?_, ?_, trivial⟩
    · rintro _ ⟨⟩ _ ⟨⟩ price priced
      have one : calcBlobFee 0 = some 1 := by decide +kernel
      cases one.symm.trans priced
      decide
    · rintro _ _ ⟨⟩
      exact ⟨by rintro _ ⟨⟩ _ ⟨⟩; decide, by decide⟩
    · intro _ caps bumped
      have twice : bump { config := { maxBlobFeePerGas := some 2 } } (some ⟨1000000000, 1000000007, some 1⟩)
          true = some ⟨2000000000, 2000000014, some 2⟩ := by decide +kernel
      cases twice.symm.trans bumped
      exact ⟨by rintro _ ⟨⟩ _ ⟨⟩; decide, by decide⟩

/-- The first price of blob gas is over its limit, and so is the fee after the third bump
of the default percentage for blobs. -/
theorem prices_over_limits :
    suggestGasCaps { config := { maxBlobFeePerGas := some 10 } } (.ok (some ⟨some 7, some 10000000⟩)) =
        some (.ok ⟨1000000000, 1000000007, some 19⟩) ∧
      ¬ WithinLimits { maxBlobFeePerGas := some 10 } ⟨1000000000, 1000000007, some 19⟩
        ⟨1000000000, 1000000007, some 19⟩ ∧
    [true, true, true].foldl (bump { config := {} }) (some ⟨1000000000, 1000000007, none⟩) =
        some ⟨8000000000, 8000000056, none⟩ ∧
      ¬ WithinLimits {} ⟨1000000000, 1000000007, none⟩ ⟨8000000000, 8000000056, none⟩ := by
  refine ⟨by decide +kernel, ?_, by decide +kernel, ?_⟩
  · rintro ⟨blob, _⟩
    exact absurd (blob 10 rfl 19 rfl) (by decide)
  · rintro ⟨_, fee⟩
    exact absurd fee (by decide)

end GasOracle

end Montana.TxMgr
