import Montana.Storage.Reference
import Montana.Storage.CachedDatabase
import Montana.Vm.BlockExecutor

/-! An EVM that does as its transactions say, to evaluate runs of a block executor. -/

namespace Montana.Reference

open Storage Vm

/-- What the EVM reads for a transaction, and how it ends. -/
structure ScriptedTx where
  reads : List Read
  outcome : Except String ResultAndState

structure ScriptedBlock where
  number : Nat
  transactions : List ScriptedTx

instance : BlockResponse ScriptedBlock ScriptedTx where
  number := ScriptedBlock.number
  timestamp _ := 0
  gasUsed _ := 0
  transactions := ScriptedBlock.transactions

/-- The code of a hash is its last byte. -/
def codeOf (codeHash : B256) : Bytecode := [UInt8.ofNat codeHash.toNat]

/-- No state has code under a hash that is not its own. -/
def checked : Except String ResultAndState → Except String ResultAndState
  | .error e => .error e
  | .ok result =>
    if result.state.entries.all fun entry => entry.2.info.code.all fun code =>
        code.isEmpty || code = codeOf entry.2.info.codeHash then .ok result
    else .error "code hash"

instance scriptedEvm : Evm ScriptedBlock ScriptedTx where
  replay _ _ tx := Dialogue.asking tx.reads (.done (checked tx.outcome))

instance : ChecksumAddress where
  checksum address := toString address.toNat

/-- A transaction that ends with this state. -/
def changing (state : EvmState) : ScriptedTx := ⟨[], .ok ⟨.success (.call []) 21000, state⟩⟩

/-- An executor over empty caches and a trie with these accounts. -/
def executorOver (accounts : List (Address × Leaf)) :
    BlockExecutor (CachedDatabase (TrieDatabase MemoryTrie MemoryKv)) :=
  ⟨CachedDatabase.new (database accounts), baseMainnet⟩

end Montana.Reference
