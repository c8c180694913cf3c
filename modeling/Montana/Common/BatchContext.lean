import Montana.Common.Primitives

/-! The in-memory batch queue, which is the sink of the sequencer and the source
of the validator at once. The adapters between the two pairs of traits only
rewrite errors, and the queue has none. -/

namespace Montana

/-- A source that gives out a fixed sequence of batches in order. It may answer with
nothing or with an error any number of times before each of them. -/
class OrderedSource (Source : Type) [L1BatchSource Source] where
  remaining : Source → List CompressedBatch
  delivers : ∀ (source next : Source) (batch : CompressedBatch),
    L1BatchSource.nextBatch source = (.ok (some batch), next) → remaining source = batch :: remaining next
  waits : ∀ (source next : Source) (answer : Except SourceError (Option CompressedBatch)),
    L1BatchSource.nextBatch source = (answer, next) → (∀ batch, answer ≠ .ok (some batch)) →
      remaining next = remaining source

structure InMemoryBatchQueue where
  batches : List CompressedBatch
  deriving DecidableEq, Repr

namespace InMemoryBatchQueue

def empty : InMemoryBatchQueue := ⟨[]⟩

instance : BatchSink InMemoryBatchQueue where
  submit queue batch :=
    (.ok { batchNumber := batch.batchNumber, txHash := List.replicate 32 0, l1Block := 0,
           blobHash := none },
     ⟨queue.batches ++ [batch]⟩)

instance : L1BatchSource InMemoryBatchQueue where
  nextBatch queue :=
    match queue.batches with
    | [] => (.ok none, queue)
    | batch :: rest => (.ok (some batch), ⟨rest⟩)
  l1Head _ := .ok 0

instance : OrderedSource InMemoryBatchQueue where
  remaining queue := queue.batches
  delivers queue next batch taken := by
    unfold L1BatchSource.nextBatch instL1BatchSource at taken
    simp only [] at taken
    split at taken
    · cases taken
    · cases taken
      assumption
  waits queue next answer taken nothing := by
    unfold L1BatchSource.nextBatch instL1BatchSource at taken
    simp only [] at taken
    split at taken
    · cases taken
      rfl
    · cases taken
      exact absurd rfl (nothing _)

end InMemoryBatchQueue

end Montana
