import Mathlib.Data.Set.Card
import Montana.Lib.Traces
import Montana.TxMgr.SendState

/-! The state of an attempt says of its events what they say themselves. -/

namespace Montana.TxMgr.SendState

open Storage (B256)
open Traces
open Words (checkedAdd)

/-- The last of the events about the hash says that it was mined. -/
def Mined (trace : List Event) (hash : B256) : Prop :=
  Stands (· = .txMined hash) (· = .txNotMined hash) trace

/-- The fees were to be bumped, and nothing has taken that yet. -/
def BumpPending (trace : List Event) : Prop := Stands (· = .setBumpFees) (· = .takeBumpFees) trace

/-- The last event says that a hash is not mined, and leaves none that is. -/
def NoneMined (trace : List Event) : Prop :=
  (∃ before hash, trace = before ++ [.txNotMined hash]) ∧ ∀ hash, ¬ Mined trace hash

/-- Each event that is counted is so few times that the counter holds them. -/
structure Few (trace : List Event) : Prop where
  published : trace.count .txPublished < 2 ^ 32
  errors : trace.count .nonceTooLow < 2 ^ 32
  bumps : trace.count .setBumpFees < 2 ^ 32

/-- What the fields say of the events so far. -/
structure Refines (trace : List Event) (state : SendState) : Prop where
  mined : ∀ hash, hash ∈ state.minedTxs ↔ Mined trace hash
  published : state.successfulPublishCount.toNat = trace.count .txPublished
  errors : ∃ after, SinceLast NoneMined trace after ∧ state.nonceTooLowCount.toNat = after.count .nonceTooLow
  pending : state.bumpFees = true ↔ BumpPending trace
  bumps : state.bumpCount.toNat = trace.count .setBumpFees

private theorem Few.prefix {trace : List Event} {event : Event} (few : Few (trace ++ [event])) :
    Few trace := by
  have fewer (other : Event) : trace.count other ≤ (trace ++ [event]).count other :=
    (List.sublist_append_left trace [event]).count_le other
  exact ⟨(fewer _).trans_lt few.published, (fewer _).trans_lt few.errors, (fewer _).trans_lt few.bumps⟩

private theorem refines_new : Refines [] new where
  mined hash := iff_of_false (Finset.notMem_empty hash) not_stands_nil
  published := rfl
  errors := ⟨[], sinceLast_nil _, rfl⟩
  pending := iff_of_false nofun not_stands_nil
  bumps := rfl

private theorem mined_append {trace : List Event} {event : Event} {hash : B256} :
    Mined (trace ++ [event]) hash ↔ event = .txMined hash ∨ event ≠ .txNotMined hash ∧ Mined trace hash :=
  stands_append

private theorem bumpPending_append {trace : List Event} {event : Event} :
    BumpPending (trace ++ [event]) ↔ event = .setBumpFees ∨ event ≠ .takeBumpFees ∧ BumpPending trace :=
  stands_append

private theorem noneMined_append {trace : List Event} {event : Event} :
    NoneMined (trace ++ [event]) ↔
      (∃ hash, event = .txNotMined hash) ∧ ∀ hash, ¬ Mined (trace ++ [event]) hash := by
  refine and_congr_left fun _ => ?_
  constructor
  · rintro ⟨before, hash, split⟩
    exact ⟨hash, List.singleton_inj.mp (List.append_inj' split rfl).2⟩
  · rintro ⟨hash, rfl⟩
    exact ⟨trace, hash, rfl⟩

/-- What one event does to each of the fields. -/
structure Effect (event : Event) (state next : SendState) : Prop where
  mined : ∀ hash, hash ∈ next.minedTxs ↔
    event = .txMined hash ∨ event ≠ .txNotMined hash ∧ hash ∈ state.minedTxs
  published : next.successfulPublishCount.toNat =
    state.successfulPublishCount.toNat + [event].count .txPublished
  reset : (∃ hash, event = .txNotMined hash) → next.minedTxs = ∅ → next.nonceTooLowCount.toNat = 0
  errors : ¬ ((∃ hash, event = .txNotMined hash) ∧ next.minedTxs = ∅) →
    next.nonceTooLowCount.toNat = state.nonceTooLowCount.toNat + [event].count .nonceTooLow
  pending : next.bumpFees = true ↔ event = .setBumpFees ∨ event ≠ .takeBumpFees ∧ state.bumpFees = true
  bumps : next.bumpCount.toNat = state.bumpCount.toNat + [event].count .setBumpFees

private theorem checkedAdd_one {count : U32} (fits : count.toNat + 1 < 2 ^ 32) :
    ∃ sum, checkedAdd count 1 = some sum ∧ sum.toNat = count.toNat + 1 := Words.checkedAdd_of_lt fits

/-- An event that no counter overflows at has this effect. -/
theorem apply_effect (state : SendState) (event : Event)
    (published : state.successfulPublishCount.toNat + [event].count .txPublished < 2 ^ 32)
    (errors : state.nonceTooLowCount.toNat + [event].count .nonceTooLow < 2 ^ 32)
    (bumps : state.bumpCount.toNat + [event].count .setBumpFees < 2 ^ 32) :
    ∃ next, state.apply event = some next ∧ Effect event state next := by
  cases event with
  | txPublished =>
    obtain ⟨sum, added, value⟩ := checkedAdd_one published
    refine ⟨_, by rw [apply, txPublished, added]; rfl, ?_⟩
    constructor <;> simp [value]
  | txMined hash =>
    refine ⟨_, rfl, ?_⟩
    constructor
    case mined => simp [txMined, @eq_comm _ hash]
    all_goals simp [txMined]
  | txNotMined hash =>
    refine ⟨_, rfl, ?_⟩
    rw [txNotMined]
    constructor
    case mined =>
      intro other
      split <;> simp [@eq_comm _ hash]
    all_goals split <;> simp_all
  | nonceTooLow =>
    obtain ⟨sum, added, value⟩ := checkedAdd_one errors
    refine ⟨_, by rw [apply, nonceTooLow, added]; rfl, ?_⟩
    constructor <;> simp [value]
  | setBumpFees =>
    obtain ⟨sum, added, value⟩ := checkedAdd_one bumps
    refine ⟨_, by rw [apply, setBumpFees, added]; rfl, ?_⟩
    constructor <;> simp [value]
  | takeBumpFees =>
    refine ⟨_, rfl, ?_⟩
    constructor <;> simp [takeBumpFees]

/-- An effect on the state is the event's on what the trace says. -/
theorem Refines.append {trace : List Event} {event : Event} {state next : SendState}
    (refines : Refines trace state) (effect : Effect event state next) :
    Refines (trace ++ [event]) next := by
  have mined : ∀ hash, hash ∈ next.minedTxs ↔ Mined (trace ++ [event]) hash := by
    intro hash
    rw [effect.mined, mined_append, refines.mined]
  have noneMined : NoneMined (trace ++ [event]) ↔
      (∃ hash, event = .txNotMined hash) ∧ next.minedTxs = ∅ := by
    rw [noneMined_append, Finset.eq_empty_iff_forall_notMem]
    simp only [mined]
  constructor
  · exact mined
  · rw [effect.published, refines.published, List.count_append]
  · obtain ⟨after, since, errors⟩ := refines.errors
    by_cases reset : NoneMined (trace ++ [event])
    · obtain ⟨unmined, empty⟩ := noneMined.mp reset
      exact ⟨[], sinceLast_marked reset, effect.reset unmined empty⟩
    · refine ⟨after ++ [event], sinceLast_append since reset, ?_⟩
      rw [effect.errors (noneMined.not.mp reset), errors, List.count_append]
  · rw [effect.pending, bumpPending_append, refines.pending]
  · rw [effect.bumps, refines.bumps, List.count_append]

/-- No call of the run panics, and what the fields say stays true. -/
theorem run_refines (trace : List Event) (few : Few trace) :
    ∃ state, run trace = some state ∧ Refines trace state := by
  induction trace using List.reverseRecOn with
  | nil => exact ⟨new, rfl, refines_new⟩
  | append_singleton trace event ih =>
    obtain ⟨state, ran, refines⟩ := ih few.prefix
    obtain ⟨published, errors, bumps⟩ := few
    rw [List.count_append] at published errors bumps
    obtain ⟨after, since, counted⟩ := refines.errors
    have later : after.count .nonceTooLow ≤ trace.count .nonceTooLow := by
      obtain ⟨before, rfl, _⟩ := since.suffix
      exact (List.sublist_append_right before after).count_le _
    obtain ⟨next, applied, effect⟩ := state.apply_effect event (by rw [refines.published]; exact published)
      (by omega) (by rw [refines.bumps]; exact bumps)
    refine ⟨next, ?_, refines.append effect⟩
    rw [run] at ran
    rw [run, List.foldlM_append, ran]
    simp [applied]

/-- Every answer of the state is what its trace of events says. -/
theorem answers_refine_trace {trace : List Event} (few : Few trace) :
    ∃ state, run trace = some state ∧
      state.minedCount = {hash | Mined trace hash}.ncard ∧
      (∃ after, SinceLast NoneMined trace after) ∧
      (∀ after, SinceLast NoneMined trace after → ∀ threshold : U32,
        state.shouldAbortNonce threshold = true ↔
          0 < threshold.toNat ∧ threshold.toNat ≤ after.count .nonceTooLow) ∧
      (state.takeBumpFees.1 = true ↔ BumpPending trace) ∧
      state.bumpCount.toNat = trace.count .setBumpFees ∧
      (state.wasPublished = true ↔ .txPublished ∈ trace) := by
  obtain ⟨state, ran, refines⟩ := run_refines trace few
  obtain ⟨after, since, counted⟩ := refines.errors
  refine ⟨state, ran, ?_, ⟨after, since⟩, fun other since' threshold => ?_, refines.pending,
    refines.bumps, ?_⟩
  · have same : {hash | Mined trace hash} = state.minedTxs := by
      ext hash
      exact (refines.mined hash).symm
    rw [same, Set.ncard_coe_finset]
    rfl
  · rw [sinceLast_unique since' since, ← counted]
    simp [shouldAbortNonce, BitVec.lt_def, BitVec.le_def]
  · rw [← List.count_pos_iff, ← refines.published]
    simp [wasPublished, BitVec.lt_def]

theorem answers_refine_seven : ∃ state,
    run [.txPublished, .nonceTooLow, .txMined 1, .nonceTooLow, .txNotMined 1, .setBumpFees, .nonceTooLow] =
      some state ∧ state.bumpCount.toNat = 1 ∧ state.wasPublished = true := by
  obtain ⟨state, ran, _, _, _, _, bumps, published⟩ := @answers_refine_trace
    [.txPublished, .nonceTooLow, .txMined 1, .nonceTooLow, .txNotMined 1, .setBumpFees, .nonceTooLow]
    ⟨by decide, by decide, by decide⟩
  exact ⟨state, ran, bumps, published.mpr (by decide)⟩

end Montana.TxMgr.SendState
