import Montana.TxMgr.Builder
import Montana.TxMgr.FeeLimits

/-! How the caps get into a request, through words of three widths. -/

namespace Montana.TxMgr

open Runs (Guarded)
open Storage (Address U256)

namespace GasCaps

private theorem toNat_fromLowLimb (value : U128) : (fromLowLimb value).toNat = value.toNat % 2 ^ 64 := by
  rw [fromLowLimb, BitVec.toNat_setWidth_of_le (by decide), BitVec.toNat_setWidth]

/-- The low limb alone is the value exactly where the other limb is 0. -/
theorem toNat_fromLowLimb_eq_iff {value : U128} :
    (fromLowLimb value).toNat = value.toNat ↔ value.toNat < 2 ^ 64 := by
  rw [toNat_fromLowLimb, Nat.mod_eq_iff_lt (by decide)]

private theorem toU128_eq_some_iff {value : U256} {word : U128} :
    toU128 value = some word ↔ word.toNat = value.toNat := by
  rw [toU128]
  split
  · next fits =>
    have kept : (value.setWidth 128).toNat = value.toNat := by
      rw [BitVec.toNat_setWidth, Nat.mod_eq_of_lt fits]
    rw [Option.some.injEq, ← BitVec.toNat_inj, kept]
    exact eq_comm
  · next wide => exact iff_of_false nofun fun same => wide (same ▸ word.isLt)

private theorem exists_toU128_iff {value : U256} :
    (∃ word, toU128 value = some word) ↔ value.toNat ≤ Words.maxValue 128 := by
  rw [toU128]
  split
  · next fits => exact iff_of_true ⟨_, rfl⟩ (Nat.le_sub_one_of_lt fits)
  · next wide => exact iff_of_false nofun fun within => wide (Nat.lt_of_le_of_lt within (by decide))

/-- The caps are what they were made from, and so are in the same order. -/
structure Faithful (maxFeePerGas maxPriorityFeePerGas : U128) (blobFeeCap : Option U128) (caps : GasCaps) :
    Prop where
  fee : caps.maxFeePerGas = some maxFeePerGas
  tip : caps.maxPriorityFeePerGas = some maxPriorityFeePerGas
  blob : caps.blobFeeCap.map BitVec.toNat = blobFeeCap.map BitVec.toNat
  ordered : maxPriorityFeePerGas.toNat ≤ maxFeePerGas.toNat → caps.gasTipCap.toNat ≤ caps.gasFeeCap.toNat

private theorem new_faithful_iff {fee tip : U128} {blob : Option U128} :
    Faithful fee tip blob (new fee tip blob) ↔
      fee.toNat < 2 ^ 64 ∧ tip.toNat < 2 ^ 64 ∧ ∀ price ∈ blob, price.toNat < 2 ^ 64 := by
  have same (value : U128) : toU128 (fromLowLimb value) = some value ↔ value.toNat < 2 ^ 64 :=
    toU128_eq_some_iff.trans (eq_comm.trans toNat_fromLowLimb_eq_iff)
  have prices : (blob.map fromLowLimb).map BitVec.toNat = blob.map BitVec.toNat ↔
      ∀ price ∈ blob, price.toNat < 2 ^ 64 := by
    cases blob with
    | none => simp
    | some price => simp [toNat_fromLowLimb_eq_iff]
  constructor
  · rintro ⟨feeKept, tipKept, blobKept, _⟩
    exact ⟨(same fee).mp feeKept, (same tip).mp tipKept, prices.mp blobKept⟩
  · rintro ⟨feeFits, tipFits, blobFits⟩
    refine ⟨(same fee).mpr feeFits, (same tip).mpr tipFits, prices.mpr blobFits, fun less => ?_⟩
    show (fromLowLimb tip).toNat ≤ (fromLowLimb fee).toNat
    rw [toNat_fromLowLimb_eq_iff.mpr feeFits, toNat_fromLowLimb_eq_iff.mpr tipFits]
    exact less

end GasCaps

namespace TxBuilder

variable {Sidecar : Type}

/-- The request has exactly these caps, that for blob gas if it carries blobs. -/
structure Carries (candidate : TxCandidate Sidecar) (caps : GasCaps)
    (request : TransactionRequest Sidecar) : Prop where
  fee : request.maxFeePerGas.map BitVec.toNat = some caps.gasFeeCap.toNat
  tip : request.maxPriorityFeePerGas.map BitVec.toNat = some caps.gasTipCap.toNat
  blob : request.maxFeePerBlobGas.map BitVec.toNat =
    if candidate.isBlob then caps.blobFeeCap.map BitVec.toNat else none

/-- The call returns, with an error or with a request that has these caps. -/
def Builds (self : TxBuilder) (candidate : TxCandidate Sidecar) (nonce : U64) (sender : Address)
    (caps : GasCaps) : Prop :=
  ∃ outcome, self.buildRequest candidate nonce caps sender = some outcome ∧
    ∀ request, outcome = .ok request → Carries candidate caps request

/-- Each cap that the request takes is at most this. -/
structure CapsWithin (candidate : TxCandidate Sidecar) (limit : Nat) (caps : GasCaps) : Prop where
  fee : caps.gasFeeCap.toNat ≤ limit
  tip : caps.gasTipCap.toNat ≤ limit
  blob : candidate.isBlob → ∀ cap ∈ caps.blobFeeCap, cap.toNat ≤ limit

/-- The cap for blob gas as the request takes it. -/
def blobPrice (candidate : TxCandidate Sidecar) (caps : GasCaps) : Option (Option U128) :=
  match candidate.blobSidecar, caps.blobFeeCap with
  | some _, some cap => (GasCaps.toU128 cap).map some
  | _, _ => some none

/-- All of the request, once the caps are converted. -/
theorem buildRequest_eq (self : TxBuilder) (candidate : TxCandidate Sidecar) (nonce : U64) (caps : GasCaps)
    (sender : Address) : self.buildRequest candidate nonce caps sender = do
      let maxFeePerGas ← GasCaps.toU128 caps.gasFeeCap
      let maxPriorityFeePerGas ← GasCaps.toU128 caps.gasTipCap
      let maxFeePerBlobGas ← blobPrice candidate caps
      return .ok {
        sender := some sender
        destination := some candidate.destination
        value := some candidate.value
        input := some candidate.data
        nonce := some nonce
        chainId := some self.chainId
        gas := candidate.gasLimit
        maxFeePerGas := some maxFeePerGas
        maxPriorityFeePerGas := some maxPriorityFeePerGas
        sidecar := candidate.blobSidecar
        maxFeePerBlobGas } := by
  obtain ⟨destination, value, data, sidecar, gasLimit⟩ := candidate
  obtain ⟨tip, fee, blob⟩ := caps
  simp only [buildRequest, blobPrice, GasCaps.maxFeePerGas, GasCaps.maxPriorityFeePerGas]
  cases gasLimit <;> cases sidecar <;> cases blob <;> simp [Option.bind_map]

private theorem exists_blobPrice_iff {candidate : TxCandidate Sidecar} {caps : GasCaps} :
    (∃ price, blobPrice candidate caps = some price) ↔
      (candidate.isBlob → ∀ cap ∈ caps.blobFeeCap, cap.toNat ≤ Words.maxValue 128) := by
  rw [blobPrice, TxCandidate.isBlob]
  cases candidate.blobSidecar with
  | none => simp
  | some sidecar =>
    cases caps.blobFeeCap with
    | none => simp
    | some cap => simp [← GasCaps.exists_toU128_iff]

private theorem blobPrice_toNat {candidate : TxCandidate Sidecar} {caps : GasCaps} {price : Option U128}
    (converted : blobPrice candidate caps = some price) :
    price.map BitVec.toNat = if candidate.isBlob then caps.blobFeeCap.map BitVec.toNat else none := by
  rw [blobPrice] at converted
  rw [TxCandidate.isBlob]
  cases sidecar : candidate.blobSidecar with
  | none =>
    simp only [sidecar] at converted
    cases converted
    rfl
  | some blobs =>
    cases capped : caps.blobFeeCap with
    | none =>
      simp only [sidecar, capped] at converted
      cases converted
      rfl
    | some cap =>
      simp only [sidecar, capped] at converted
      obtain ⟨word, fits, rfl⟩ := Option.map_eq_some_iff.mp converted
      exact congrArg some (GasCaps.toU128_eq_some_iff.mp fits)

/-- A request is built exactly from caps that fit into their words. -/
theorem builds_iff (self : TxBuilder) (candidate : TxCandidate Sidecar) (nonce : U64) (sender : Address)
    (caps : GasCaps) :
    self.Builds candidate nonce sender caps ↔ CapsWithin candidate (Words.maxValue 128) caps := by
  rw [Builds, buildRequest_eq]
  constructor
  · rintro ⟨outcome, built, _⟩
    obtain ⟨fee, feeFits, built⟩ := Option.bind_eq_some_iff.mp built
    obtain ⟨tip, tipFits, built⟩ := Option.bind_eq_some_iff.mp built
    obtain ⟨price, priceFits, _⟩ := Option.bind_eq_some_iff.mp built
    exact ⟨GasCaps.exists_toU128_iff.mp ⟨fee, feeFits⟩, GasCaps.exists_toU128_iff.mp ⟨tip, tipFits⟩,
      exists_blobPrice_iff.mp ⟨price, priceFits⟩⟩
  · intro within
    obtain ⟨fee, feeFits⟩ := GasCaps.exists_toU128_iff.mpr within.fee
    obtain ⟨tip, tipFits⟩ := GasCaps.exists_toU128_iff.mpr within.tip
    obtain ⟨price, priceFits⟩ := exists_blobPrice_iff.mpr within.blob
    rw [feeFits, tipFits, priceFits]
    refine ⟨_, rfl, ?_⟩
    rintro _ ⟨⟩
    exact ⟨congrArg some (GasCaps.toU128_eq_some_iff.mp feeFits),
      congrArg some (GasCaps.toU128_eq_some_iff.mp tipFits), blobPrice_toNat priceFits⟩

/-- The caps that the request takes are small enough for this multiple of a hundredth. -/
def KeepsWithin (candidate : TxCandidate Sidecar) (limit multiplier : Nat) (caps : GasCaps) : Prop :=
  GasOracle.BumpWithin multiplier limit caps.gasFeeCap ∧
  GasOracle.BumpWithin multiplier limit caps.gasTipCap ∧
  (candidate.isBlob → ∀ cap ∈ caps.blobFeeCap, GasOracle.BumpWithin multiplier limit cap)

theorem bumpBy_within_iff {candidate : TxCandidate Sidecar} {limit : Nat} (multiplier : U256)
    (caps : GasCaps) : CapsWithin candidate limit (caps.bumpBy multiplier) ↔
      KeepsWithin candidate limit multiplier.toNat caps := by
  constructor
  · intro within
    refine ⟨GasOracle.bumpCap_le_iff.mp within.fee, GasOracle.bumpCap_le_iff.mp within.tip, ?_⟩
    intro isBlob
    exact (GasOracle.forall_bumpCap_le_iff caps.blobFeeCap).mp (within.blob isBlob)
  · intro keeps
    obtain ⟨fee, tip, blob⟩ := keeps
    refine ⟨GasOracle.bumpCap_le_iff.mpr fee, GasOracle.bumpCap_le_iff.mpr tip, ?_⟩
    intro isBlob
    exact (GasOracle.forall_bumpCap_le_iff caps.blobFeeCap).mpr (blob isBlob)

section Bumps

variable (self : TxBuilder) (oracle : GasOracle) (candidate : TxCandidate Sidecar) (nonce : U64)
  (sender : Address)

/-- A request can be built from these caps and after any number of the bumps. -/
def AlwaysBuilds (start : GasCaps) (bumps : List Bool) : Prop :=
  ∀ count, ∀ caps ∈ (bumps.take count).foldl oracle.bump (some start),
    self.Builds candidate nonce sender caps

private theorem alwaysBuilds_iff (start : GasCaps) (bumps : List Bool) :
    self.AlwaysBuilds oracle candidate nonce sender start bumps ↔
      CapsWithin candidate (Words.maxValue 128) start ∧
        Guarded oracle.bump (oracle.BumpMeets (KeepsWithin candidate (Words.maxValue 128))) (some start)
          bumps := by
  simp only [AlwaysBuilds, builds_iff]
  exact oracle.forall_bumps_iff bumpBy_within_iff start bumps

/-- What `GasCaps::new` makes always fits. -/
theorem new_within (fee tip : U128) (blob : Option U128) :
    CapsWithin candidate (Words.maxValue 128) (GasCaps.new fee tip blob) := by
  have small (value : U128) : (GasCaps.fromLowLimb value).toNat ≤ Words.maxValue 128 := by
    rw [GasCaps.toNat_fromLowLimb]
    exact (Nat.mod_le _ _).trans (Words.toNat_le_maxValue value)
  refine ⟨small fee, small tip, fun _ cap present => ?_⟩
  obtain ⟨price, _, rfl⟩ := Option.mem_map.mp present
  exact small price

private theorem suggested_fits_iff {oracle : GasOracle} {header : Header} {first : GasCaps}
    (suggested : oracle.suggestGasCaps (.ok (some header)) = some (.ok first)) :
    CapsWithin candidate (Words.maxValue 128) first ↔
      ∀ baseFee ∈ header.baseFeePerGas, baseFee.toNat + oracle.config.minTipCapWei.toNat < 2 ^ 128 := by
  obtain ⟨⟨baseFee, base, fee⟩, tip, blob⟩ := GasOracle.suggestGasCaps_inv suggested
  rw [base]
  constructor
  · rintro ⟨feeFits, _, _⟩ _ ⟨⟩
    rw [← fee]
    exact Nat.lt_of_le_of_lt feeFits (by decide)
  · intro fits
    refine ⟨fee ▸ Nat.le_sub_one_of_lt (fits baseFee rfl), tip ▸ Words.toNat_le_maxValue _, ?_⟩
    intro _ cap present
    have price : (header.excessBlobGas.bind GasOracle.calcBlobFee).map BitVec.toNat = some cap.toNat := by
      rw [← blob, Option.mem_def.mp present]
      rfl
    obtain ⟨word, _, same⟩ := Option.map_eq_some_iff.mp price
    exact same ▸ Words.toNat_le_maxValue word

/-- The constructor is faithful exactly to values of one limb. What it makes, and what
is suggested unless the base fee and the tip are too much together, always gets into the
request, unless a bump makes a cap of it that does not fit. -/
theorem caps_carried_iff (bumps : List Bool) :
    (∀ (fee tip : U128) (blob : Option U128), GasCaps.Faithful fee tip blob (GasCaps.new fee tip blob) ↔
      fee.toNat < 2 ^ 64 ∧ tip.toNat < 2 ^ 64 ∧ ∀ price ∈ blob, price.toNat < 2 ^ 64) ∧
    (∀ (fee tip : U128) (blob : Option U128),
      self.AlwaysBuilds oracle candidate nonce sender (GasCaps.new fee tip blob) bumps ↔
        Guarded oracle.bump (oracle.BumpMeets (KeepsWithin candidate (Words.maxValue 128)))
          (some (GasCaps.new fee tip blob)) bumps) ∧
    ∀ (header : Header) (first : GasCaps), oracle.suggestGasCaps (.ok (some header)) = some (.ok first) →
      (self.AlwaysBuilds oracle candidate nonce sender first bumps ↔
        (∀ baseFee ∈ header.baseFeePerGas,
          baseFee.toNat + oracle.config.minTipCapWei.toNat < 2 ^ 128) ∧
        Guarded oracle.bump (oracle.BumpMeets (KeepsWithin candidate (Words.maxValue 128))) (some first)
          bumps) := by
  refine ⟨fun _ _ _ => GasCaps.new_faithful_iff, fun fee tip blob => ?_, fun header first suggested => ?_⟩
  · rw [alwaysBuilds_iff, and_iff_right (new_within candidate fee tip blob)]
  · rw [alwaysBuilds_iff, suggested_fits_iff candidate suggested]

end Bumps

theorem caps_carried_once :
    GasCaps.Faithful 1000 100 (some 7) (GasCaps.new 1000 100 (some 7)) ∧
      AlwaysBuilds ⟨1⟩ { config := {} } (TxCandidate.blob 0 () : TxCandidate Unit) 0 0
        (GasCaps.new 1000 100 (some 7)) [true] ∧
      AlwaysBuilds ⟨1⟩ { config := {} } (TxCandidate.blob 0 () : TxCandidate Unit) 0 0
        ⟨1000000000, 1000000007, some 1⟩ [true] := by
  obtain ⟨faithful, made, suggested⟩ := caps_carried_iff ⟨1⟩ { config := {} }
    (TxCandidate.blob 0 () : TxCandidate Unit) 0 0 [true]
  refine ⟨(faithful _ _ _).mpr ⟨by decide, by decide, ?_⟩, (made _ _ _).mpr ⟨fun _ => ?_, trivial⟩,
    (suggested ⟨some 7, some 0⟩ _ (by decide +kernel)).mpr ⟨?_, fun _ => ?_, trivial⟩⟩
  · rintro _ ⟨⟩
    decide
  · rintro _ ⟨⟩
    exact ⟨by decide, by decide, by rintro _ _ ⟨⟩; decide⟩
  · rintro _ ⟨⟩
    decide
  · rintro _ ⟨⟩
    exact ⟨by decide, by decide, by rintro _ _ ⟨⟩; decide⟩

/-- A fee of one more than a limb holds becomes 0, below its tip; and three bumps of the
greatest percentage that does not overflow make caps for which no request is built. -/
theorem low_limb_kept :
    (GasCaps.new 18446744073709551616 5 none).maxFeePerGas = some 0 ∧
      ¬ GasCaps.Faithful 18446744073709551616 5 none (GasCaps.new 18446744073709551616 5 none) ∧
      ¬ AlwaysBuilds ⟨1⟩ { config := { priceBumpPercent := 18446744073709551515 } }
        (TxCandidate.calldata 0 [] : TxCandidate Unit) 0 0 (GasCaps.new 1000 1000 none)
        [false, false, false] := by
  refine ⟨by decide +kernel, fun faithful => absurd (faithful.ordered (by decide)) (by decide), fun always => ?_⟩
  have bumped : ([false, false, false].take 3).foldl
      (GasOracle.bump { config := { priceBumpPercent := 18446744073709551515 } })
      (some (GasCaps.new 1000 1000 none)) =
        some ⟨6277101735386680762814942322444851025675338134021310775,
          6277101735386680762814942322444851025675338134021310775, none⟩ := by decide +kernel
  have fits := (builds_iff _ _ _ _ _).mp (always 3 _ bumped)
  exact absurd fits.fee (by decide)

end TxBuilder

end Montana.TxMgr
