import Montana.Lib.Outstanding
import Montana.Lib.Traces
import Montana.Roles.Callbacks
import Montana.Tui.Heads

/-! The callbacks through which the roles tell the dashboard what they do. The number of
transactions of a derived block is kept from the submission of its batch. -/

namespace Montana.Adapters

open Outstanding (Holds insertAll)
open Roles Tui

structure BlockTxCountStore where
  txCounts : AList fun _ : Nat => Nat

namespace BlockTxCountStore

def new : BlockTxCountStore := ⟨∅⟩

/-- The counts of a batch under the block numbers that `record_batch` gives them. -/
def numbered (firstBlock : Nat) (blockTxCounts : List Nat) : List (Nat × Nat) :=
  blockTxCounts.zipIdx.map fun (txCount, i) => ((firstBlock + i) % 2 ^ 64, txCount)

def recordBatch (self : BlockTxCountStore) (firstBlock : Nat) (blockTxCounts : List Nat) :
    BlockTxCountStore :=
  ⟨insertAll self.txCounts (numbered firstBlock blockTxCounts)⟩

def getTxCount (self : BlockTxCountStore) (blockNumber : Nat) : Nat :=
  (self.txCounts.lookup blockNumber).getD 0

def remove (self : BlockTxCountStore) (blockNumber : Nat) : BlockTxCountStore :=
  ⟨self.txCounts.erase blockNumber⟩

end BlockTxCountStore

/-- The store that both callbacks share, and what they sent to the dashboard. -/
structure Telemetry (F : Type) where
  txCountStore : BlockTxCountStore
  sent : List (TuiEvent F)

namespace Telemetry

variable {F : Type}

def new : Telemetry F := ⟨.new, []⟩

def send (self : Telemetry F) (event : TuiEvent F) : Telemetry F :=
  { self with sent := self.sent ++ [event] }

/-- `TuiBatchCallback::on_batch_submitted`. -/
def onBatchSubmitted (self : Telemetry F) (call : BatchSubmittedCall) : Telemetry F :=
  let self := { self with
    txCountStore := self.txCountStore.recordBatch call.firstBlock call.blockTxCounts }
  let self := self.send (.batchSubmitted call.batchNumber call.blockCount call.firstBlock call.lastBlock
    call.uncompressedSize call.compressedSize)
  self.send (.batchIncludedInL1 call.l1BlockNumber call.batchNumber call.blockCount)

/-- The methods of `TuiDerivationCallback`. The execution time was measured by the validator;
the number of transactions that it passes is not used. -/
def onDerivation (measured : Nat → Nat) (self : Telemetry F) : DerivationCall → Telemetry F
  | .batchDerived batchNumber blockCount firstBlock lastBlock =>
    self.send (.batchDerived batchNumber blockCount firstBlock lastBlock)
  | .blockDerived blockNumber _ derivationTimeMs =>
    let actualTxCount := self.txCountStore.getTxCount blockNumber
    let executionTimeMs := measured self.sent.length
    { self with txCountStore := self.txCountStore.remove blockNumber }.send
      (.blockDerived blockNumber actualTxCount derivationTimeMs executionTimeMs)
  | .l1BlockProduced l1BlockNumber => self.send (.l1BlockProduced l1BlockNumber)

/-- The calls of the batch callback, then those of the derivation callback. -/
def hear (measured : Nat → Nat) (self : Telemetry F) (batches : List BatchSubmittedCall)
    (derivation : List DerivationCall) : Telemetry F :=
  derivation.foldl (onDerivation measured) (batches.foldl onBatchSubmitted self)

end Telemetry

section Reports

variable {F : Type}

def submittedReport : TuiEvent F → Option BatchHeader
  | .batchSubmitted batchNumber blockCount firstBlock lastBlock _ _ =>
    some ⟨batchNumber, blockCount, firstBlock, lastBlock⟩
  | _ => none

def derivedReport : TuiEvent F → Option BatchHeader
  | .batchDerived batchNumber blockCount firstBlock lastBlock =>
    some ⟨batchNumber, blockCount, firstBlock, lastBlock⟩
  | _ => none

private theorem submittedReport_number (event : TuiEvent F) :
    (submittedReport event).map (·.batchNumber) = submittedNumber event := by
  cases event <;> rfl

private theorem derivedReport_number (event : TuiEvent F) :
    (derivedReport event).map (·.batchNumber) = derivedNumber event := by
  cases event <;> rfl

private theorem submittedReport_numbers (events : List (TuiEvent F)) :
    (events.filterMap submittedReport).map (·.batchNumber) = events.filterMap submittedNumber := by
  rw [List.map_filterMap]
  exact congrArg (List.filterMap · events) (funext submittedReport_number)

private theorem derivedReport_numbers (events : List (TuiEvent F)) :
    (events.filterMap derivedReport).map (·.batchNumber) = events.filterMap derivedNumber := by
  rw [List.map_filterMap]
  exact congrArg (List.filterMap · events) (funext derivedReport_number)

/-- A derived block and the number of transactions that the dashboard is told for it. -/
def blockReport : TuiEvent F → Option (Nat × Nat)
  | .blockDerived number txCount _ _ => some (number, txCount)
  | _ => none

end Reports

/-- The counts that the calls of the batch callback recorded. -/
def recorded (calls : List BatchSubmittedCall) : List (Nat × Nat) :=
  calls.flatMap fun call => BlockTxCountStore.numbered call.firstBlock call.blockTxCounts

/-- No block is in two batches, and none is behind the last block of its batch. -/
structure Distinct (calls : List BatchSubmittedCall) : Prop where
  numbers : ((recorded calls).map Prod.fst).Nodup
  within : ∀ call ∈ calls, ∀ entry ∈ BlockTxCountStore.numbered call.firstBlock call.blockTxCounts,
    entry.1 ≤ call.lastBlock

/-- What was derived are the first blocks of the batches that were submitted, and of the batches
those that were reported. -/
structure Derivable (calls : List BatchSubmittedCall) (derivation : List DerivationCall) : Prop where
  blocks : derivation.filterMap derivedBlock <+: recorded calls
  batches : (derivation.filterMap derivedHeader).Sublist (calls.map BatchHeader.ofCall)

/-- How many of the recorded blocks were derived. -/
def progress (derivation : List DerivationCall) : Nat := (derivation.filterMap derivedBlock).length

/-- The store has the blocks that wait for their derivation, the derived ones were reported
with the count that the validator saw, and everything derived was reported as submitted before. -/
structure Tracks {F : Type} (calls : List BatchSubmittedCall) (derivation : List DerivationCall)
    (telemetry : Telemetry F) : Prop where
  waiting : Holds telemetry.txCountStore.txCounts ((recorded calls).drop (progress derivation))
  blocks : telemetry.sent.filterMap blockReport = derivation.filterMap derivedBlock
  submitted : telemetry.sent.filterMap submittedReport = calls.map BatchHeader.ofCall
  derived : telemetry.sent.filterMap derivedReport = derivation.filterMap derivedHeader
  safe : telemetry.sent.filterMap safeReport = calls.map (·.lastBlock)
  matched : Traces.Preceded Eq submittedReport derivedReport telemetry.sent
  behind : Traces.Preceded (fun safe finalized => finalized ≤ safe) safeReport finalizedReport telemetry.sent

private theorem recorded_append (calls : List BatchSubmittedCall) (call : BatchSubmittedCall) :
    recorded (calls ++ [call]) =
      recorded calls ++ BlockTxCountStore.numbered call.firstBlock call.blockTxCounts := by
  simp [recorded]

theorem Distinct.of_append {calls more : List BatchSubmittedCall} (distinct : Distinct (calls ++ more)) :
    Distinct calls := by
  obtain ⟨numbers, within⟩ := distinct
  constructor
  · rw [recorded, List.flatMap_append, List.map_append] at numbers
    exact (List.nodup_append.mp numbers).1
  · intro call member
    exact within call (List.mem_append_left _ member)

theorem Derivable.append {calls : List BatchSubmittedCall} {derivation : List DerivationCall}
    (derivable : Derivable calls derivation) (call : BatchSubmittedCall) :
    Derivable (calls ++ [call]) derivation := by
  obtain ⟨blocks, batches⟩ := derivable
  constructor
  · rw [recorded_append]
    exact blocks.trans (List.prefix_append _ _)
  · rw [List.map_append]
    exact batches.trans (List.sublist_append_left _ _)

theorem Derivable.of_append {calls : List BatchSubmittedCall} {derivation more : List DerivationCall}
    (derivable : Derivable calls (derivation ++ more)) : Derivable calls derivation := by
  obtain ⟨blocks, batches⟩ := derivable
  rw [List.filterMap_append] at blocks batches
  constructor
  · exact (List.prefix_append _ _).trans blocks
  · exact (List.sublist_append_left _ _).trans batches

/-- The next derived block is the first of those that wait. -/
theorem Derivable.next {calls : List BatchSubmittedCall} {derivation : List DerivationCall}
    {number txCount derivationTimeMs : Nat}
    (derivable : Derivable calls (derivation ++ [.blockDerived number txCount derivationTimeMs])) :
    ∃ after, recorded calls = derivation.filterMap derivedBlock ++ (number, txCount) :: after := by
  obtain ⟨after, whole⟩ := derivable.blocks
  refine ⟨after, whole.symm.trans ?_⟩
  rw [List.filterMap_append, List.append_assoc]
  rfl

section Steps

variable {F : Type} {calls : List BatchSubmittedCall} {derivation : List DerivationCall}
  {telemetry : Telemetry F}

theorem Tracks.onBatchSubmitted {call : BatchSubmittedCall} (distinct : Distinct (calls ++ [call]))
    (derivable : Derivable calls derivation) (tracks : Tracks calls derivation telemetry) :
    Tracks (calls ++ [call]) derivation (telemetry.onBatchSubmitted call) := by
  obtain ⟨waiting, blocks, submitted, derived, safe, matched, behind⟩ := tracks
  have reached : progress derivation ≤ (recorded calls).length := derivable.blocks.length_le
  have numbers := distinct.numbers
  rw [recorded_append] at numbers
  constructor
  · rw [recorded_append, List.drop_append_of_le_length reached]
    apply waiting.insertAll
    refine numbers.sublist ?_
    exact ((List.drop_sublist _ _).append_right _).map _
  · simp [Telemetry.onBatchSubmitted, Telemetry.send, blocks, blockReport]
  · simp [Telemetry.onBatchSubmitted, Telemetry.send, submitted, submittedReport, BatchHeader.ofCall]
  · simp [Telemetry.onBatchSubmitted, Telemetry.send, derived, derivedReport]
  · simp [Telemetry.onBatchSubmitted, Telemetry.send, safe, safeReport]
  · exact (matched.append_other rfl).append_other rfl
  · exact (behind.append_other rfl).append_other rfl

theorem Tracks.onDerivation (measured : Nat → Nat) {call : DerivationCall} (distinct : Distinct calls)
    (derivable : Derivable calls (derivation ++ [call])) (tracks : Tracks calls derivation telemetry) :
    Tracks calls (derivation ++ [call]) (telemetry.onDerivation measured call) := by
  obtain ⟨waiting, blocks, submitted, derived, safe, matched, behind⟩ := tracks
  cases call with
  | batchDerived batchNumber blockCount firstBlock lastBlock =>
    have same : progress (derivation ++ [.batchDerived batchNumber blockCount firstBlock lastBlock]) =
        progress derivation := by
      simp [progress, derivedBlock]
    have listed : ⟨batchNumber, blockCount, firstBlock, lastBlock⟩ ∈ calls.map BatchHeader.ofCall :=
      derivable.batches.subset (by simp [derivedHeader])
    constructor
    · rw [same]
      exact waiting
    · simp [Telemetry.onDerivation, Telemetry.send, blocks, blockReport, derivedBlock, List.filterMap_cons]
    · simp [Telemetry.onDerivation, Telemetry.send, submitted, submittedReport]
    · simp [Telemetry.onDerivation, Telemetry.send, derived, derivedReport, derivedHeader]
    · simp [Telemetry.onDerivation, Telemetry.send, safe, safeReport]
    · apply matched.append
      intro header reported
      cases reported
      exact ⟨_, submitted ▸ listed, rfl⟩
    · apply behind.append
      intro last reported
      cases reported
      obtain ⟨call, member, same⟩ := List.mem_map.mp listed
      refine ⟨call.lastBlock, safe ▸ List.mem_map_of_mem member, ?_⟩
      exact Nat.le_of_eq (congrArg BatchHeader.lastBlock same).symm
  | blockDerived number txCount derivationTimeMs =>
    obtain ⟨after, split⟩ := derivable.next
    have further : progress (derivation ++ [.blockDerived number txCount derivationTimeMs]) =
        (derivation.filterMap derivedBlock ++ [(number, txCount)]).length := by
      simp [progress, derivedBlock]
    have numbers := distinct.numbers
    rw [split, List.map_append, List.map_cons] at numbers
    have once := (List.nodup_cons.mp (List.nodup_append.mp numbers).2.1).1
    rw [split, progress, List.drop_left] at waiting
    obtain ⟨found, remaining⟩ := waiting.erase once
    have together : recorded calls = (derivation.filterMap derivedBlock ++ [(number, txCount)]) ++ after := by
      simp [split]
    constructor
    · rw [further, together, List.drop_left]
      exact remaining
    · simp [Telemetry.onDerivation, Telemetry.send, blocks, blockReport, derivedBlock,
        BlockTxCountStore.getTxCount, found]
    · simp [Telemetry.onDerivation, Telemetry.send, submitted, submittedReport]
    · simp [Telemetry.onDerivation, Telemetry.send, derived, derivedReport, derivedHeader, List.filterMap_cons]
    · simp [Telemetry.onDerivation, Telemetry.send, safe, safeReport]
    · exact matched.append_other rfl
    · apply behind.append
      intro last reported
      cases reported
      have listed : (number, txCount) ∈ recorded calls := by simp [split]
      obtain ⟨call, member, inside⟩ := List.mem_flatMap.mp listed
      exact ⟨call.lastBlock, safe ▸ List.mem_map_of_mem member, distinct.within call member _ inside⟩
  | l1BlockProduced l1BlockNumber =>
    have same : progress (derivation ++ [.l1BlockProduced l1BlockNumber]) = progress derivation := by
      simp [progress, derivedBlock]
    constructor
    · rw [same]
      exact waiting
    · simp [Telemetry.onDerivation, Telemetry.send, blocks, blockReport, derivedBlock, List.filterMap_cons]
    · simp [Telemetry.onDerivation, Telemetry.send, submitted, submittedReport]
    · simp [Telemetry.onDerivation, Telemetry.send, derived, derivedReport, derivedHeader, List.filterMap_cons]
    · simp [Telemetry.onDerivation, Telemetry.send, safe, safeReport]
    · exact matched.append_other rfl
    · exact behind.append_other rfl

theorem Tracks.batches {batches : List BatchSubmittedCall} (distinct : Distinct (calls ++ batches))
    (derivable : Derivable calls derivation) (tracks : Tracks calls derivation telemetry) :
    Tracks (calls ++ batches) derivation (batches.foldl Telemetry.onBatchSubmitted telemetry) := by
  induction batches generalizing calls telemetry with
  | nil =>
    rw [List.append_nil]
    exact tracks
  | cons call rest ih =>
    have together : calls ++ call :: rest = (calls ++ [call]) ++ rest := by simp
    rw [together] at distinct ⊢
    exact ih distinct (derivable.append call) (tracks.onBatchSubmitted distinct.of_append derivable)

theorem Tracks.derivations (measured : Nat → Nat) {more : List DerivationCall} (distinct : Distinct calls)
    (derivable : Derivable calls (derivation ++ more)) (tracks : Tracks calls derivation telemetry) :
    Tracks calls (derivation ++ more) (more.foldl (Telemetry.onDerivation measured) telemetry) := by
  induction more generalizing derivation telemetry with
  | nil =>
    rw [List.append_nil]
    exact tracks
  | cons call rest ih =>
    have together : derivation ++ call :: rest = (derivation ++ [call]) ++ rest := by simp
    rw [together] at derivable ⊢
    exact ih derivable (tracks.onDerivation measured distinct derivable.of_append)

/-- Whatever the roles did meanwhile. -/
theorem Tracks.hear (measured : Nat → Nat) {batches : List BatchSubmittedCall} {more : List DerivationCall}
    (distinct : Distinct (calls ++ batches)) (before : Derivable calls derivation)
    (after : Derivable (calls ++ batches) (derivation ++ more)) (tracks : Tracks calls derivation telemetry) :
    Tracks (calls ++ batches) (derivation ++ more) (telemetry.hear measured batches more) :=
  (tracks.batches distinct before).derivations measured distinct after

theorem tracks_new : Tracks [] [] (Telemetry.new : Telemetry F) :=
  ⟨Outstanding.holds_empty, rfl, rfl, rfl, rfl, Traces.preceded_nil, Traces.preceded_nil⟩

/-- Every batch is submitted under a number of its own and derived once after that. -/
theorem Tracks.numbers (distinct : (calls.map (·.batchNumber)).Nodup) (derivable : Derivable calls derivation)
    (tracks : Tracks calls derivation telemetry) : Matched telemetry.sent := by
  have batches := distinct
  rw [show calls.map (·.batchNumber) = (calls.map BatchHeader.ofCall).map (·.batchNumber) by
    rw [List.map_map]
    rfl] at batches
  constructor
  · rw [← submittedReport_numbers, tracks.submitted]
    exact batches
  · rw [← derivedReport_numbers, tracks.derived]
    exact batches.sublist (derivable.batches.map _)
  · intro before event after split batchNumber told
    rw [← derivedReport_number] at told
    obtain ⟨header, reported, rfl⟩ := Option.map_eq_some_iff.mp told
    obtain ⟨_, listed, rfl⟩ := tracks.matched before event after split header reported
    refine ⟨_, ?_, rfl⟩
    rw [← submittedReport_numbers]
    exact List.mem_map_of_mem listed

end Steps

end Montana.Adapters
