import Montana.Common.BatchContext
import Montana.Common.Checkpoint
import Montana.Vm.Executor

/-! Small implementations of the traits on which runs can be evaluated: blocks
of one byte, a compressor that changes nothing, a file system of checkpoints
and parties that fail as told. -/

namespace Montana.Reference

instance : BlockResponse UInt8 Unit where
  number block := block.toNat
  timestamp block := block.toNat
  gasUsed _ := 0
  transactions _ := []

instance : BlockJson UInt8 where
  blockToVec block := .ok [block]
  toBytes batch := .ok batch.blocks
  fromBytes bytes := .ok ⟨bytes⟩

instance : LawfulBlockJson UInt8 where
  roundtrip batch bytes written := by
    cases written
    rfl

def noop : Compressor := ⟨.ok, .ok⟩

theorem noop_roundtrips : noop.Roundtrips := by
  intro data packed success
  cases success
  rfl

structure Files where
  content : List (String × Checkpoint)
  deriving DecidableEq, Repr

instance : CheckpointStore Files where
  load files path := .ok (files.content.lookup path)
  save files path checkpoint := (.ok (), ⟨(path, checkpoint) :: files.content⟩)

instance : LawfulCheckpointStore Files where
  load_save files files' path checkpoint saved := by
    cases saved
    simp [CheckpointStore.load]

instance : AtomicCheckpointStore Files where
  load_save_cases files path checkpoint := .inr (by simp [CheckpointStore.load, CheckpointStore.save])

/-- A disk whose saves succeed or fail as listed, and succeed afterwards. -/
structure ScriptedFiles where
  content : List (String × Checkpoint)
  saves : List Bool
  deriving DecidableEq, Repr

instance : CheckpointStore ScriptedFiles where
  load files path := .ok (files.content.lookup path)
  save files path checkpoint :=
    match files.saves with
    | false :: rest => (.error (.io "disk full"), { files with saves := rest })
    | _ => (.ok (), ⟨(path, checkpoint) :: files.content, files.saves.tail⟩)

/-- A sink that takes or refuses batches as listed, and takes them afterwards. -/
structure ScriptedSink where
  answers : List Bool
  deriving DecidableEq, Repr

instance : BatchSink ScriptedSink where
  submit sink batch :=
    match sink.answers with
    | false :: rest => (.error .timeout, ⟨rest⟩)
    | _ => (.ok { batchNumber := batch.batchNumber, txHash := [], l1Block := 0, blobHash := none },
            ⟨sink.answers.tail⟩)

/-- An executor that counts the blocks it executed and refuses one block. -/
def refusing (refused : UInt8) : Vm.PersistentExecutor Nat UInt8 where
  state := 0
  execute executed block := if block = refused then .error (.evm "out of gas") else .ok (executed + 1)

/-- The queue on which these blocks were submitted, one batch for each list. -/
def queueOf (batches : List (List UInt8)) : InMemoryBatchQueue :=
  ⟨batches.zipIdx.map fun (blocks, index) => ⟨index + 1, blocks, blocks.length, 0, 0⟩⟩

end Montana.Reference
