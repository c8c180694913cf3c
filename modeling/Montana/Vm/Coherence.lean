import Montana.Lib.Runs
import Montana.Storage.Coherence
import Montana.Vm.Reference

/-! Runs of a block executor over a cached trie database: when reads through the cache
stay the same as reads of the trie. -/

namespace Montana.Vm

open Storage (CachedDatabase Read TrieDatabase TrieDb TrieTransaction KeyValueDatabase
  LawfulTransaction LawfulTrieDb)

namespace BlockExecutor

variable {Trie Txn KV Block Tx : Type} [TrieTransaction Txn] [TrieDb Trie Txn] [KeyValueDatabase KV]
variable [BlockResponse Block Tx] [Evm Block Tx]

/-- The caches after the transactions of a block hold what was there and their states. -/
theorem afterTxs_uncommitted (self : BlockExecutor (CachedDatabase (TrieDatabase Trie KV)))
    (block : Block) :
    CachedDatabase.Uncommitted self.db (self.blockStates block) (self.afterTxs block).db := by
  refine executeTxs_invariant (CachedDatabase.Uncommitted self.db) ?_
    (fun _ _ read uncommitted => uncommitted.read read) _ (CachedDatabase.Uncommitted.start self.db)
  intro states db tx result uncommitted _
  exact (Dialogue.run_invariant _ (fun _ read uncommitted => uncommitted.read read)
    (Evm.replay _ block tx) uncommitted).commit result.state

/-- The block restores every account that it destroys. -/
def Restores (self : BlockExecutor (CachedDatabase (TrieDatabase Trie KV))) : Event Block → Prop
  | .read _ => True
  | .execute block => ∀ address, CachedDatabase.Restored (self.afterTxs block).db address
      (Keyed.changesAt (self.blockStates block) address)

variable [ChecksumAddress] [LawfulTransaction Txn] [LawfulTrieDb Trie Txn]

/-- A successful event keeps the caches in agreement with the trie if and only if it
restores what it destroys. -/
theorem step_agrees_iff (self : BlockExecutor (CachedDatabase (TrieDatabase Trie KV)))
    (event : Event Block) (succeeds : self.Succeeds event) (agrees : CachedDatabase.Agrees self.db) :
    CachedDatabase.Agrees (self.step event).db ↔ self.Restores event := by
  cases event with
  | read read => exact iff_of_true (agrees.read read) trivial
  | execute block =>
    obtain ⟨result, succeeds⟩ := succeeds
    have committed := executeBlock_ok (Prod.ext succeeds rfl :
      self.executeBlock block = (.ok result, (self.executeBlock block).2))
    exact CachedDatabase.agrees_committed_iff (self.afterTxs_uncommitted block) agrees committed

/-- From empty caches on, in every run of reads and successful blocks, reads through the
cache are the same as reads of the trie database throughout, if and only if every block
restores the accounts that it destroys. -/
theorem coherent_iff_restores (readable : TrieDatabase.Readable Trie KV) (inner : TrieDatabase Trie KV)
    (chain : Chain) (events : List (Event Block))
    (succeeds : Runs.Guarded step Succeeds ⟨CachedDatabase.new inner, chain⟩ events) :
    (∀ count, CachedDatabase.Coherent ((events.take count).foldl step ⟨CachedDatabase.new inner, chain⟩).db) ↔
      Runs.Guarded step Restores ⟨CachedDatabase.new inner, chain⟩ events := by
  rw [← Runs.guarded_iff_invariant (fun self => CachedDatabase.Agrees self.db) step_agrees_iff events succeeds
    (CachedDatabase.Agrees.new inner)]
  exact forall_congr' fun count => CachedDatabase.coherent_iff_agrees readable _

end BlockExecutor

section Examples

open BlockExecutor Reference Storage

/-- Account 5 with ten wei and three in slot 1. -/
def holder : Leaf := ⟨⟨1, 10, keccakEmpty⟩, fun slot => if slot = 1 then some 3 else none⟩

def destroyedHolder : Account :=
  { emptyAccount with touched := true, selfdestructed := true, loadedAsNotExisting := false }

def paidHolder : Account := { emptyAccount with
  info := { balance := 15, nonce := 1, codeHash := keccakEmpty, code := none }
  touched := true
  loadedAsNotExisting := false
  storage := [⟨1, ⟨4⟩⟩].toAList }

/-- Reads of the account and its slots, then a block that pays it and writes to slot 1. -/
def paymentRun : List (Event ScriptedBlock) :=
  [.read (.basic 5), .read (.storage 5 1), .read (.storage 5 2),
    .execute ⟨1, [changing (stateOf [⟨5, paidHolder⟩])]⟩, .read (.basic 6)]

theorem payment_coherent :
    CachedDatabase.Coherent (paymentRun.foldl step (executorOver [(5, holder)])).db := by
  refine (coherent_iff_restores memory_readable (database [(5, holder)]) baseMainnet paymentRun
    ⟨trivial, trivial, trivial, ⟨_, rfl⟩, trivial, trivial⟩).mpr
    ⟨trivial, trivial, trivial, ?_, trivial, trivial⟩ 5
  exact CachedDatabase.restored_of_kept (by decide) _

/-- After a block that destroys an account, the account is in the cache and not in the trie. -/
theorem destroyed_account_cached :
    let executor := executorOver [(5, holder)]
    let block : ScriptedBlock := ⟨1, [changing (stateOf [⟨5, destroyedHolder⟩])]⟩
    (∃ result, (executor.executeBlock block).1 = .ok result) ∧
      ¬CachedDatabase.Coherent (executor.executeBlock block).2.db := by
  refine ⟨⟨_, rfl⟩, fun coherent => ?_⟩
  have same := coherent.accounts 5
  cases same

end Examples

end Montana.Vm
