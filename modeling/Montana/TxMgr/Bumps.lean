import Montana.Lib.Percentages
import Montana.Lib.Runs
import Montana.TxMgr.Gas

/-! Any number of bumps, one after the other. -/

namespace Montana.TxMgr

open Percentages
open Runs (Guarded)
open Storage (U256)
open Words (checkedAdd)

namespace GasCaps

def all (caps : GasCaps) : List U256 := caps.gasTipCap :: caps.gasFeeCap :: caps.blobFeeCap.toList

def bumpBy (multiplier : U256) (caps : GasCaps) : GasCaps where
  gasTipCap := GasOracle.bumpCap multiplier caps.gasTipCap
  gasFeeCap := GasOracle.bumpCap multiplier caps.gasFeeCap
  blobFeeCap := caps.blobFeeCap.map (GasOracle.bumpCap multiplier)

private theorem all_bumpBy (multiplier : U256) (caps : GasCaps) :
    (caps.bumpBy multiplier).all = caps.all.map (GasOracle.bumpCap multiplier) := by
  cases blob : caps.blobFeeCap <;> simp [all, bumpBy, blob]

end GasCaps

namespace GasOracle

/-- A bump of what the bumps before have made; no caps once one of them has panicked. -/
def bump (self : GasOracle) (state : Option GasCaps) (isBlob : Bool) : Option GasCaps :=
  state.bind (self.bumpGasCaps · isBlob)

private theorem toNat_bumpCap (multiplier cap : U256) :
    (bumpCap multiplier cap).toNat = cap.toNat * multiplier.toNat % 2 ^ 256 / 100 := by
  rw [bumpCap, BitVec.toNat_udiv, BitVec.toNat_mul]
  rfl

/-- The division keeps a word within a limit. -/
def BumpWithin (multiplier limit : Nat) (cap : U256) : Prop :=
  cap.toNat * multiplier % 2 ^ 256 < 100 * (limit + 1)

instance (multiplier limit : Nat) (cap : U256) : Decidable (BumpWithin multiplier limit cap) :=
  inferInstanceAs (Decidable (_ < _))

theorem bumpCap_le_iff {multiplier cap : U256} {limit : Nat} :
    (bumpCap multiplier cap).toNat ≤ limit ↔ BumpWithin multiplier.toNat limit cap := by
  rw [toNat_bumpCap, BumpWithin, ← Nat.lt_succ_iff, Nat.div_lt_iff_lt_mul (by decide), Nat.mul_comm 100]

theorem forall_bumpCap_le_iff {multiplier : U256} {limit : Nat} (cap : Option U256) :
    (∀ bumped ∈ cap.map (bumpCap multiplier), bumped.toNat ≤ limit) ↔
      ∀ before ∈ cap, BumpWithin multiplier.toNat limit before := by
  cases cap with
  | none => simp
  | some before => simp [bumpCap_le_iff]

/-- A bump either panics or does the same to every cap. -/
theorem bumpGasCaps_cases (self : GasOracle) (caps : GasCaps) (isBlob : Bool) :
    (2 ^ 64 ≤ 100 + (self.bumpPercent isBlob).toNat ∧ self.bumpGasCaps caps isBlob = none) ∨
    100 + (self.bumpPercent isBlob).toNat < 2 ^ 64 ∧
      ∃ multiplier : U256, multiplier.toNat = 100 + (self.bumpPercent isBlob).toNat ∧
        self.bumpGasCaps caps isBlob = some (caps.bumpBy multiplier) := by
  by_cases fits : 100 + (self.bumpPercent isBlob).toNat < 2 ^ 64
  · obtain ⟨sum, added, value⟩ :
        ∃ sum, checkedAdd 100 (self.bumpPercent isBlob) = some sum ∧
          sum.toNat = 100 + (self.bumpPercent isBlob).toNat := Words.checkedAdd_of_lt fits
    refine .inr ⟨fits, sum.setWidth 256, ?_, ?_⟩
    · rw [BitVec.toNat_setWidth_of_le (by decide), value]
    · rw [bumpGasCaps, added]
      rfl
  · have overflow : checkedAdd 100 (self.bumpPercent isBlob) = none := if_neg fits
    refine .inl ⟨Nat.le_of_not_lt fits, ?_⟩
    rw [bumpGasCaps, overflow]
    rfl

/-- Unless the bump panics, the caps it meets are such that they can be multiplied so. -/
def BumpMeets (self : GasOracle) (guard : Nat → GasCaps → Prop) (state : Option GasCaps) (isBlob : Bool) :
    Prop :=
  100 + (self.bumpPercent isBlob).toNat < 2 ^ 64 →
    ∀ caps ∈ state, guard (100 + (self.bumpPercent isBlob).toNat) caps

section Bumps

variable (self : GasOracle) {Holds : GasCaps → Prop} {guard : Nat → GasCaps → Prop}
  (decides : ∀ multiplier caps, Holds (caps.bumpBy multiplier) ↔ guard multiplier.toNat caps)
include decides

/-- Where a condition on the caps before decides what holds of them after the same has
been done to each, it decides what holds after a bump. -/
theorem forall_bump_iff (state : Option GasCaps) (isBlob : Bool) :
    (∀ caps ∈ self.bump state isBlob, Holds caps) ↔ self.BumpMeets guard state isBlob := by
  cases state with
  | none => simp [bump, BumpMeets]
  | some caps =>
    rw [bump, Option.bind_some]
    rcases self.bumpGasCaps_cases caps isBlob with ⟨overflow, panics⟩ | ⟨fits, multiplier, value, bumped⟩
    · rw [panics]
      exact iff_of_true nofun fun fits => absurd fits (Nat.not_lt.mpr overflow)
    · rw [bumped, BumpMeets, ← value]
      simp only [Option.mem_def, Option.some.injEq, forall_eq', decides]
      exact ⟨fun holds _ => holds, fun holds => holds (value ▸ fits)⟩

/-- The same for any number of bumps. -/
theorem forall_bumps_iff (start : GasCaps) (bumps : List Bool) :
    (∀ count, ∀ caps ∈ (bumps.take count).foldl self.bump (some start), Holds caps) ↔
      Holds start ∧ Guarded self.bump (self.BumpMeets guard) (some start) bumps := by
  have run := fun initially => Runs.guarded_iff_invariant (fun state => ∀ caps ∈ state, Holds caps)
    (fun state isBlob _ _ => self.forall_bump_iff decides state isBlob) bumps
    (Runs.guarded_of_forall (fun _ _ _ => trivial) (some start)) initially
  constructor
  · intro always
    exact ⟨always 0 start rfl, (run (always 0)).mp always⟩
  · rintro ⟨initially, guarded⟩
    exact (run (by rintro _ ⟨⟩; exact initially)).mpr guarded

end Bumps

/-- What a bump is for: every cap is raised by exactly the percentage, which makes it
more if it was anything, and the caps are still in order. -/
structure Advances (percent : Nat) (before after : GasCaps) : Prop where
  exact : after.all.map BitVec.toNat = before.all.map fun cap => raise percent cap.toNat
  rises : List.Forall₂ (fun cap bumped => cap.toNat ≠ 0 → cap.toNat < bumped.toNat) before.all after.all
  kept : List.Forall₂ (fun cap bumped => cap.toNat ≤ bumped.toNat) before.all after.all
  ordered : after.gasTipCap.toNat ≤ after.gasFeeCap.toNat

/-- The sum and the products fit, and the percentage is worth at least one of every cap. -/
def HasRoom (percent : Nat) (caps : GasCaps) : Prop :=
  100 + percent < 2 ^ 64 ∧
    ∀ cap ∈ caps.all, cap.toNat ≠ 0 →
      100 ≤ cap.toNat * percent ∧ cap.toNat * (100 + percent) < 2 ^ 256

instance (percent : Nat) (caps : GasCaps) : Decidable (HasRoom percent caps) :=
  -- not by trying every word
  @instDecidableAnd _ _ inferInstance (List.decidableBAll _ caps.all)

/-- The division brings a product that wrapped no nearer to the one that did not. -/
theorem bumpCap_exact_iff {multiplier cap : U256} {percent : Nat}
    (by_percent : multiplier.toNat = 100 + percent) :
    (bumpCap multiplier cap).toNat = raise percent cap.toNat ↔ cap.toNat * (100 + percent) < 2 ^ 256 := by
  rw [toNat_bumpCap, by_percent, raise]
  constructor
  · intro same
    by_contra wraps
    omega
  · intro fits
    rw [Nat.mod_eq_of_lt fits]

/-- One bump advances the caps exactly where there is room for it. -/
theorem bumpGasCaps_advances_iff (self : GasOracle) {caps : GasCaps} (isBlob : Bool)
    (ordered : caps.gasTipCap.toNat ≤ caps.gasFeeCap.toNat) :
    (∃ after, self.bumpGasCaps caps isBlob = some after ∧
        Advances (self.bumpPercent isBlob).toNat caps after) ↔
      HasRoom (self.bumpPercent isBlob).toNat caps := by
  rcases self.bumpGasCaps_cases caps isBlob with ⟨overflow, panics⟩ | ⟨fits, multiplier, value, bumped⟩
  · simp only [panics, HasRoom]
    constructor
    · rintro ⟨after, impossible, _⟩
      cases impossible
    · rintro ⟨fits, _⟩
      omega
  · simp only [bumped, Option.some.injEq, exists_eq_left']
    constructor
    · rintro ⟨exact, rises, _, _⟩
      refine ⟨fits, fun cap member some => ?_⟩
      rw [GasCaps.all_bumpBy] at exact rises
      rw [List.map_map, List.map_inj_left] at exact
      have fits := (bumpCap_exact_iff value).mp (exact cap member)
      rw [List.forall₂_map_right_iff, List.forall₂_same] at rises
      have rise := rises cap member some
      rw [(bumpCap_exact_iff value).mpr fits] at rise
      exact ⟨lt_raise_iff.mp rise, fits⟩
    · rintro ⟨_, room⟩
      have exact : ∀ cap ∈ caps.all, (bumpCap multiplier cap).toNat =
          raise (self.bumpPercent isBlob).toNat cap.toNat := by
        intro cap member
        refine (bumpCap_exact_iff value).mpr ?_
        by_cases nothing : cap.toNat = 0
        · rw [nothing, Nat.zero_mul]
          decide
        · exact (room cap member nothing).2
      constructor
      · rw [GasCaps.all_bumpBy, List.map_map, List.map_inj_left]
        exact exact
      · rw [GasCaps.all_bumpBy, List.forall₂_map_right_iff, List.forall₂_same]
        intro cap member some
        rw [exact cap member]
        exact lt_raise_iff.mpr (room cap member some).1
      · rw [GasCaps.all_bumpBy, List.forall₂_map_right_iff, List.forall₂_same]
        intro cap member
        rw [exact cap member]
        exact le_raise _ _
      · show (bumpCap multiplier caps.gasTipCap).toNat ≤ (bumpCap multiplier caps.gasFeeCap).toNat
        rw [exact _ (by simp [GasCaps.all]), exact _ (by simp [GasCaps.all])]
        exact raise_mono _ ordered

/-- The bump returns, and what it returns advances the caps it met. -/
def BumpAdvances (self : GasOracle) (state : Option GasCaps) (isBlob : Bool) : Prop :=
  ∃ before after, state = some before ∧ self.bumpGasCaps before isBlob = some after ∧
    Advances (self.bumpPercent isBlob).toNat before after

def BumpHasRoom (self : GasOracle) (state : Option GasCaps) (isBlob : Bool) : Prop :=
  ∃ before, state = some before ∧ HasRoom (self.bumpPercent isBlob).toNat before

instance (self : GasOracle) (isBlob : Bool) :
    ∀ state, Decidable (self.BumpHasRoom state isBlob)
  | none => .isFalse nofun
  | some before =>
    decidable_of_iff (HasRoom (self.bumpPercent isBlob).toNat before)
      ⟨fun room => ⟨before, rfl, room⟩, fun ⟨_, same, room⟩ => Option.some.inj same ▸ room⟩

/-- Every bump of a run advances the caps exactly when there is room before each of them. -/
theorem bumps_advance_iff (self : GasOracle) {caps : GasCaps}
    (ordered : caps.gasTipCap.toNat ≤ caps.gasFeeCap.toNat) (bumps : List Bool) :
    Guarded self.bump self.BumpAdvances (some caps) bumps ↔
      Guarded self.bump self.BumpHasRoom (some caps) bumps := by
  refine Runs.guarded_congr
    (fun state => ∃ caps, state = some caps ∧ caps.gasTipCap.toNat ≤ caps.gasFeeCap.toNat)
    ?_ ?_ bumps ⟨caps, rfl, ordered⟩
  · rintro _ isBlob ⟨before, rfl, ordered⟩
    rw [BumpHasRoom, BumpAdvances]
    simp only [Option.some.injEq, exists_eq_left', exists_and_left]
    exact self.bumpGasCaps_advances_iff isBlob ordered
  · rintro _ isBlob _ ⟨before, after, rfl, bumped, advances⟩
    exact ⟨after, bumped, advances.ordered⟩

theorem bumps_advance_twice : Guarded (bump { config := {} }) (BumpAdvances { config := {} })
    (some ⟨1000000000, 2000000000, some 1000000000⟩) [false, true] :=
  (bumps_advance_iff { config := {} } (by decide) [false, true]).mpr (by decide +kernel)

/-- Ten percent of a tip of 9 are rounded away, the greatest percentages overflow the sum,
and a product can wrap although a hundredth of it would fit. -/
theorem small_tip_stays :
    bump { config := {} } (some ⟨9, 100, none⟩) false = some ⟨9, 110, none⟩ ∧
      ¬ BumpAdvances { config := {} } (some ⟨9, 100, none⟩) false ∧
    bump { config := { priceBumpPercent := BitVec.allOnes 64 } } (some ⟨100, 100, none⟩) false = none ∧
    bump { config := { priceBumpPercent := BitVec.ofNat 64 (100 * 2 ^ 42 - 100) } }
        (some ⟨100, BitVec.ofNat 256 (2 ^ 211), none⟩) false =
      some ⟨BitVec.ofNat 256 (100 * 2 ^ 42), BitVec.ofNat 256 (2 ^ 255 / 100), none⟩ := by
  refine ⟨by decide +kernel, ?_, by decide +kernel, by decide +kernel⟩
  rintro ⟨before, after, same, bumped, advances⟩
  cases same
  exact absurd ((bumpGasCaps_advances_iff _ _ (by decide)).mp ⟨after, bumped, advances⟩) (by decide)

end GasOracle

end Montana.TxMgr
