import Montana.Storage.Laws

/-! A trie and a key-value store in memory, on which runs of the databases can be
evaluated. Storage roots and state roots are not computed. -/

namespace Montana.Reference

open Storage

structure MemoryTrie where
  accounts : Address → Option Leaf

def MemoryTrie.set (trie : MemoryTrie) (address : Address) (leaf : Option Leaf) : MemoryTrie :=
  ⟨Function.update trie.accounts address leaf⟩

instance : TrieTransaction MemoryTrie where
  getAccount trie address := .ok ((trie.accounts address).map fun leaf =>
    { nonce := leaf.body.nonce, balance := leaf.body.balance, storageRoot := 0, codeHash := leaf.body.codeHash })
  getStorageSlot trie address slot := .ok (storageAt (trie.accounts address) slot)
  setAccount trie address account := .ok (trie.set address (account.map fun account =>
    ⟨account.body, storageAt (trie.accounts address)⟩))
  setStorageSlot trie address slot value :=
    .ok (trie.set address ((trie.accounts address).map (·.setSlot slot value)))
  commitRo _ := .ok ()

instance : TrieDb MemoryTrie MemoryTrie where
  beginRo := .ok
  beginRw := .ok
  commitRw _ tx := .ok tx
  stateRoot _ := 0

instance : LawfulTransaction MemoryTrie where
  view := MemoryTrie.accounts
  getAccount_view {tx address account} got := by
    cases got
    cases tx.accounts address <;> simp [TrieAccount.body]
  getStorageSlot_view got := by
    cases got
    rfl
  setAccount_view set := by
    cases set
    rfl
  deleteAccount_view set := by
    cases set
    rfl
  setStorageSlot_view set := by
    cases set
    rfl

instance : LawfulTrieDb MemoryTrie MemoryTrie where
  view := MemoryTrie.accounts
  beginRo_view begun := by
    cases begun
    rfl
  beginRw_view begun := by
    cases begun
    rfl
  commitRw_view committed := by
    cases committed
    rfl

structure MemoryKv where
  codes : B256 → Option Bytes
  headers : Nat → Option Header

instance : KeyValueDatabase MemoryKv where
  getCode kvdb codeHash := .ok (kvdb.codes codeHash)
  setCode kvdb codeHash code :=
    (.ok (), { kvdb with codes := Function.update kvdb.codes codeHash (some code) })
  setHeader kvdb blockNumber header :=
    (.ok (), { kvdb with headers := Function.update kvdb.headers blockNumber (some header) })

instance : LawfulKeyValueDatabase MemoryKv where
  getCode_setCode_ne kvdb _ _ code different :=
    congrArg Except.ok (Function.update_of_ne different (some code) kvdb.codes)
  getCode_setCode kvdb codeHash code stored written := by
    have same : Function.update kvdb.codes codeHash (some code) codeHash = some stored :=
      Except.ok.inj written
    rw [Function.update_self, Option.some.injEq] at same
    exact .inl same.symm
  getCode_setHeader _ _ _ _ := rfl

private theorem updateSlots_memory (address : Address) (entries : List ((_ : U256) × EvmStorageSlot))
    (tx : MemoryTrie) : ∃ tx', entries.foldlM (TrieDatabase.updateSlot address) tx = .ok tx' := by
  induction entries generalizing tx with
  | nil => exact ⟨tx, rfl⟩
  | cons entry rest ih => exact ih _

private theorem storeCode_memory (kvdb : MemoryKv) (info : AccountInfo) :
    ∃ kvdb', TrieDatabase.storeCode kvdb info = (.ok (), kvdb') := by
  unfold TrieDatabase.storeCode
  split
  · split <;> exact ⟨_, rfl⟩
  · exact ⟨_, rfl⟩

private theorem applyChanges_memory (entries : List ((_ : Address) × Account)) (kvdb : MemoryKv)
    (tx : MemoryTrie) :
    ∃ tx' kvdb', TrieDatabase.applyChanges kvdb tx entries = (.ok tx', kvdb') := by
  induction entries generalizing kvdb tx with
  | nil => exact ⟨tx, kvdb, rfl⟩
  | cons entry rest ih =>
    have updated : ∃ tx' kvdb',
        TrieDatabase.updateAccount kvdb tx entry.1 entry.2 = (.ok tx', kvdb') := by
      obtain ⟨kvdb', stored⟩ := storeCode_memory kvdb entry.2.info
      unfold TrieDatabase.updateAccount
      by_cases destroyed : entry.2.isSelfdestructed
      · exact ⟨_, _, by rw [if_pos destroyed]; rfl⟩
      · exact ⟨_, _, by rw [if_neg destroyed]; simp only [TrieTransaction.setAccount, stored]; rfl⟩
    obtain ⟨tx', kvdb', updated⟩ := updated
    obtain ⟨tx'', slots⟩ := updateSlots_memory entry.1 entry.2.storage.entries tx'
    rw [TrieDatabase.applyChanges, updated]
    simp only [slots]
    exact ih kvdb' tx''

private theorem applyTransactions_memory (states : List EvmState) (kvdb : MemoryKv) (tx : MemoryTrie) :
    ∃ tx' kvdb', TrieDatabase.applyTransactions kvdb tx states = (.ok tx', kvdb') := by
  induction states generalizing kvdb tx with
  | nil => exact ⟨tx, kvdb, rfl⟩
  | cons state rest ih =>
    obtain ⟨tx', kvdb', changed⟩ := applyChanges_memory state.entries kvdb tx
    rw [TrieDatabase.applyTransactions, changed]
    exact ih kvdb' tx'

/-- In memory no write fails. -/
theorem commitBlock_memory (self : TrieDatabase MemoryTrie MemoryKv) (blockNumber : Nat)
    (states : List EvmState) : ∃ root after, self.commitBlock blockNumber states = (.ok root, after) := by
  obtain ⟨tx, kvdb, applied⟩ := applyTransactions_memory states self.kvdb self.inner
  simp [TrieDatabase.commitBlock, TrieDb.beginRw, applied, TrieDb.commitRw, KeyValueDatabase.setHeader]

/-- The trie with these accounts, and no code stored. -/
def database (accounts : List (Address × Leaf)) : TrieDatabase MemoryTrie MemoryKv where
  inner := ⟨fun address => accounts.lookup address⟩
  kvdb := ⟨fun _ => none, fun _ => none⟩

/-- In memory no read fails. -/
theorem memory_readable : TrieDatabase.Readable MemoryTrie MemoryKv where
  basicRef self address := by
    unfold TrieDatabase.basicRef TrieDatabase.loadCode
    cases found : self.inner.accounts address with
    | none => simp [TrieDatabase.read, TrieDb.beginRo, TrieTransaction.getAccount,
        TrieTransaction.commitRo, Except.mapError, found]
    | some leaf =>
      simp only [TrieDatabase.read, TrieDb.beginRo, TrieTransaction.getAccount,
        TrieTransaction.commitRo, Except.mapError, found, Option.map_some]
      by_cases coded : leaf.body.codeHash = keccakEmpty <;> simp [coded, KeyValueDatabase.getCode]
  storageRef self address slot := ⟨_, rfl⟩

/-- An account without code, as the EVM hands it out when it was not there. -/
def emptyAccount : Account where
  info := { balance := 0, nonce := 0, codeHash := keccakEmpty, code := none }
  touched := false
  created := false
  selfdestructed := false
  loadedAsNotExisting := true
  storage := ∅

/-- The state that lists these accounts. -/
def stateOf (accounts : List ((_ : Address) × Account)) : EvmState := accounts.toAList

end Montana.Reference
