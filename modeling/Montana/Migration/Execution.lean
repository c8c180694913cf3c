import Montana.Migration.Compact
import Montana.Migration.ZeroSlots
import Montana.Vm.LedgerExecution

/-! From the state of a Reth node to the blocks that are executed over its migration. -/

namespace Montana.Migration

open Storage

/-- Without errors every entry was decoded and written, in the order of the cursor. -/
def Faithful (decode : Entry → Option (Address × Value)) (write : Leaves → Address × Value → Leaves)
    (start : Leaves) (entries : List Entry) (leaves : Leaves) (errors : Nat) : Prop :=
  errors = 0 → ∃ writes : List (Address × Value),
    entries.map decode = writes.map some ∧ leaves = writes.foldl write start

namespace Faithful

variable {decode : Entry → Option (Address × Value)} {write : Leaves → Address × Value → Leaves}
variable {start leaves : Leaves} {entries : List Entry} {errors : Nat}

theorem initial (start : Leaves) : Faithful decode write start [] start 0 := fun _ => ⟨[], rfl, rfl⟩

theorem succeeded (sofar : Faithful decode write start entries leaves errors) {entry : Entry}
    {next : Address × Value} (decoded : decode entry = some next) :
    Faithful decode write start (entries ++ [entry]) (write leaves next) errors := by
  intro noErrors
  obtain ⟨writes, all, rfl⟩ := sofar noErrors
  refine ⟨writes ++ [next], ?_, ?_⟩
  · rw [List.map_append, List.map_append, all, List.map_singleton, decoded]
    rfl
  · rw [List.foldl_append]
    rfl

/-- An error stays an error. -/
theorem failed (entries : List Entry) (leaves : Leaves) (errors : Nat) :
    Faithful decode write start entries leaves (errors + 1) :=
  fun noErrors => absurd noErrors (Nat.succ_ne_zero errors)

end Faithful

section Loops

variable {Trie Txn : Type} [TrieTransaction Txn] [LawfulTransaction Txn]

open LawfulTransaction (view)

private theorem Batch.processAccountEntry_faithful {start : Leaves} {done : List Entry}
    {batch batch' : Batch Trie Txn}
    {entry : Entry}
    (sofar : Faithful decodeAccount setLeaf start done (view batch.dstTxn) batch.stats.accountErrors)
    (processed : batch.processAccountEntry entry = some batch') :
    Faithful decodeAccount setLeaf start (done ++ [entry]) (view batch'.dstTxn) batch'.stats.accountErrors := by
  obtain ⟨address, sliced, ⟨e, undecoded, rfl⟩ | ⟨account, decoded,
      ⟨e, refused, rfl⟩ | ⟨dstTxn, accepted, rfl⟩⟩⟩ :=
    processAccountEntry_cases processed
  · exact Faithful.failed _ _ _
  · exact Faithful.failed _ _ _
  · have write : decodeAccount entry = some (address, account.toTriedbAccount) := by
      simp only [decodeAccount, sliced, decoded]
    have written := sofar.succeeded write
    rwa [setLeaf, ← LawfulTransaction.setAccount_view accepted] at written

private theorem Migrator.processStorageItem_faithful {start : Leaves} {done : List Entry}
    {batch batch' : Batch Trie Txn}
    {entry : Entry}
    (sofar : Faithful decodeSlot setSlot start done (view batch.dstTxn) batch.stats.storageErrors)
    (processed : Migrator.processStorageItem batch entry = some batch') :
    Faithful decodeSlot setSlot start (done ++ [entry]) (view batch'.dstTxn) batch'.stats.storageErrors := by
  obtain ⟨address, sliced, rfl⟩ := Migrator.processStorageItem_cases processed
  cases decoded : decodeStorageEntry entry.2 with
  | error e =>
    rw [Migrator.processStorageEntry_undecoded decoded]
    exact Faithful.failed _ _ _
  | ok slot =>
    cases set : TrieTransaction.setStorageSlot batch.dstTxn address slot.slot (some slot.value) with
    | error e =>
      rw [Migrator.processStorageEntry_refused decoded set]
      exact Faithful.failed _ _ _
    | ok dstTxn =>
      have write : decodeSlot entry = some (address, slot) := by simp only [decodeSlot, sliced, decoded]
      have written := sofar.succeeded write
      rw [Migrator.processStorageEntry_set decoded set]
      rwa [setSlot, ← LawfulTransaction.setStorageSlot_view set] at written

end Loops

section Tables

variable {Trie Txn : Type} [TrieTransaction Txn] [TrieDb Trie Txn] [LawfulTransaction Txn] [LawfulTrieDb Trie Txn]

open LawfulTransaction (view)

/-- A loop between its first transaction and its last commit. -/
theorem Batch.forEntries_faithful {decode : Entry → Option (Address × Value)}
    {write : Leaves → Address × Value → Leaves} {config : MigratorConfig}
    {process : Batch Trie Txn → Entry → Option (Batch Trie Txn)} (errors : MigrationStats → Nat)
    (fresh : errors {} = 0) {destination destination' : Trie}
    (step : ∀ (done : List Entry) (batch : Batch Trie Txn) (entry : Entry) (batch' : Batch Trie Txn),
      Faithful decode write (LawfulTrieDb.view destination) done (view batch.dstTxn) (errors batch.stats) →
      process batch entry = some batch' →
      Faithful decode write (LawfulTrieDb.view destination) (done ++ [entry]) (view batch'.dstTxn)
        (errors batch'.stats))
    {entries : List Entry} {batch last : Batch Trie Txn} (started : Batch.start destination {} = .ok batch)
    (looped : Batch.forEntries config process (entries.map .ok) batch = some (.ok last))
    (committed : last.commit = .ok destination') :
    Faithful decode write (LawfulTrieDb.view destination) entries (LawfulTrieDb.view destination')
      (errors last.stats) := by
  obtain ⟨viewed, new⟩ := start_cases started
  have begun : Faithful decode write (LawfulTrieDb.view destination) [] (view batch.dstTxn)
      (errors batch.stats) := by
    rw [viewed, new, fresh]
    exact Faithful.initial _
  obtain ⟨all, same, whole⟩ := forEntries_ok
    (fun done batch => Faithful decode write (LawfulTrieDb.view destination) done (view batch.dstTxn)
      (errors batch.stats))
    step
    (fun _ _ _ sofar ended => by
      obtain ⟨viewed, kept⟩ := endEntry_cases ended
      rw [viewed, kept]
      exact sofar)
    begun looped
  obtain rfl := List.map_injective_iff.mpr (fun _ _ => Except.ok.inj) same
  rw [commit_view committed]
  exact whole

namespace Migrator

omit [LawfulTransaction Txn] [LawfulTrieDb Trie Txn] in
/-- How a migration of the storage comes to its end. -/
theorem migrateStorage_inv {self : Migrator Trie} {stats : MigrationStats} {destination : Trie}
    (finished : self.migrateStorage = some (.ok (stats, destination))) :
    ∃ (cursor : Cursor) (batch last : Batch Trie Txn), self.source.openCursor "PlainStorageState" = .ok cursor ∧
      Batch.start self.destination {} = .ok batch ∧
      Batch.forEntries self.config processStorageItem cursor batch = some (.ok last) ∧
      last.commit = .ok destination ∧ stats = last.stats := by
  rw [migrateStorage] at finished
  split at finished
  · cases finished
  · rename_i cursor opened
    split at finished
    · cases finished
    · rename_i batch started
      dsimp only at finished
      split at finished
      · cases finished
      · cases finished
      · rename_i last looped
        split at finished
        · cases finished
        · rename_i committed
          cases finished
          refine ⟨cursor, batch, last, opened, started, ?_, committed, rfl⟩
          cases cursor with
          | nil => exact looped
          | cons item rest => cases item with
            | error e => cases looped
            | ok first =>
              rw [← Batch.whileEntries_eq_forEntries]
              exact looped

/-- A migration without errors has written both tables. -/
theorem migrateAll_view {self : Migrator Trie} {stats : MigrationStats} {destination : Trie}
    (finished : self.migrateAll = some (.ok (stats, destination))) (accountErrors : stats.accountErrors = 0)
    (storageErrors : stats.storageErrors = 0) {accounts storage : List Entry}
    (accountTable : self.source.openCursor "PlainAccountState" = .ok (accounts.map .ok))
    (storageTable : self.source.openCursor "PlainStorageState" = .ok (storage.map .ok)) :
    ∃ (leaves : List (Address × TrieAccount)) (slots : List (Address × StorageEntry)),
      accounts.map decodeAccount = leaves.map some ∧ storage.map decodeSlot = slots.map some ∧
      LawfulTrieDb.view destination =
        slots.foldl setSlot (leaves.foldl setLeaf (LawfulTrieDb.view self.destination)) := by
  unfold migrateAll at finished
  split at finished
  · cases finished
  · cases finished
  · rename_i accountStats mid migratedAccounts
    split at finished
    · cases finished
    · cases finished
    · rename_i storageStats after migratedStorage
      cases finished
      obtain ⟨cursor, batch, last, opened, started, looped, committed, rfl⟩ := migrateAccounts_inv migratedAccounts
      obtain ⟨cursor', batch', last', opened', started', looped', committed', rfl⟩ :=
        migrateStorage_inv migratedStorage
      cases opened.symm.trans accountTable
      cases opened'.symm.trans storageTable
      obtain ⟨leaves, decoded, reached⟩ := Batch.forEntries_faithful (·.accountErrors) rfl
        (fun _ _ _ _ => Batch.processAccountEntry_faithful) started looped committed accountErrors
      obtain ⟨slots, decoded', reached'⟩ := Batch.forEntries_faithful (·.storageErrors) rfl
        (fun _ _ _ _ => Migrator.processStorageItem_faithful) started' looped' committed' storageErrors
      refine ⟨leaves, slots, decoded, decoded', ?_⟩
      rw [reached', reached]

end Migrator

end Tables

section State

/-- An address as a key of the tables. -/
def addressBytes (address : Address) : Bytes := (LittleEndian.encode 20 address.toNat).reverse

private theorem addressFromSlice_addressBytes (address : Address) :
    addressFromSlice (addressBytes address) = some address := by
  have fits : address.toNat < 256 ^ 20 := address.isLt
  rw [addressFromSlice, if_pos (by simp [addressBytes]), fromBeBytes, addressBytes, List.reverse_reverse,
    LittleEndian.decode_encode_of_lt fits, BitVec.ofNat_toNat, BitVec.setWidth_eq]

/-- The plain state of a Reth node. -/
structure RethState where
  accounts : AList fun _ : Address => RethAccount
  storage : List (Address × StorageEntry)

namespace RethState

def accountTable (state : RethState) : List Entry :=
  state.accounts.entries.map fun entry => (addressBytes entry.1, entry.2.toCompact)

def storageTable (state : RethState) : List Entry :=
  state.storage.map fun entry => (addressBytes entry.1, entry.2.toBytes)

/-- Both tables of the database can be read, and hold this state. -/
structure IsStored (state : RethState) (source : Mdbx) : Prop where
  accounts : source.openCursor "PlainAccountState" = .ok (state.accountTable.map .ok)
  storage : source.openCursor "PlainStorageState" = .ok (state.storageTable.map .ok)

/-- The state with the codes of a store, as a ledger. -/
def ledger (state : RethState) (rootOf : (Address → Option Leaf) → B256) (codes : B256 → Option Bytecode) :
    Ledger rootOf where
  accounts address := (state.accounts.lookup address).map fun account => {
    info := {
      balance := account.balance
      nonce := account.nonce
      codeHash := account.bytecodeHash.getD keccakEmpty
      code := if account.bytecodeHash.getD keccakEmpty = keccakEmpty then none
        else codes (account.bytecodeHash.getD keccakEmpty) }
    storage slot := (lastValue state.storage address slot).getD 0 }
  codes := codes

/-- What the migration makes of the state. -/
def leaves (state : RethState) : Leaves := fun address =>
  (state.accounts.lookup address).map fun account =>
    ⟨account.toTriedbAccount.body, lastValue state.storage address⟩

private theorem decodeAccount_table {state : RethState}
    (small : ∀ entry ∈ state.accounts.entries, entry.2.nonce < 2 ^ 64) :
    state.accountTable.map decodeAccount =
      (state.accounts.entries.map fun entry => (entry.1, entry.2.toTriedbAccount)).map some := by
  rw [accountTable, List.map_map, List.map_map]
  refine List.map_congr_left fun entry member => ?_
  have decoded := RethAccount.fromCompact_toCompact (small entry member) []
  rw [List.append_nil] at decoded
  simp only [Function.comp_apply, decodeAccount, addressFromSlice_addressBytes, decoded]

private theorem decodeSlot_table (state : RethState) :
    state.storageTable.map decodeSlot = state.storage.map some := by
  rw [storageTable, List.map_map]
  refine List.map_congr_left fun entry _ => ?_
  simp only [Function.comp_apply, decodeSlot, addressFromSlice_addressBytes,
    StorageEntry.decodeStorageEntry_toBytes]

private theorem setLeaves_apply (state : RethState) (address : Address) :
    (state.accounts.entries.map fun entry => (entry.1, entry.2.toTriedbAccount)).foldl setLeaf
        (fun _ => none) address =
      (state.accounts.lookup address).map fun account => ⟨account.toTriedbAccount.body, fun _ => none⟩ := by
  let change (account : RethAccount) (leaf : Option Leaf) : Option Leaf :=
    some ⟨account.toTriedbAccount.body, storageAt leaf⟩
  rw [List.foldl_map]
  have written := Keyed.applyMap_apply change (fun _ => none) state.accounts address
  refine written.trans ?_
  cases state.accounts.lookup address <;> rfl

section Migrated

variable {Trie Txn KV : Type} [TrieTransaction Txn] [TrieDb Trie Txn] [LawfulTransaction Txn]
variable [LawfulTrieDb Trie Txn] [KeyValueDatabase KV] {state : RethState} {migrator : Migrator Trie}
variable {stats : MigrationStats} {trie : Trie} {kvdb : KV} {codes : B256 → Option Bytecode}
variable {codeOf : B256 → Bytecode} {rootOf : (Address → Option Leaf) → B256}

/-- Without errors, a new trie holds the state and nothing else. -/
theorem migrateAll_leaves (stored : state.IsStored migrator.source)
    (small : ∀ entry ∈ state.accounts.entries, entry.2.nonce < 2 ^ 64)
    (new : LawfulTrieDb.view migrator.destination = fun _ => none)
    (finished : migrator.migrateAll = some (.ok (stats, trie))) (accountErrors : stats.accountErrors = 0)
    (storageErrors : stats.storageErrors = 0) : LawfulTrieDb.view trie = state.leaves := by
  obtain ⟨leaves, slots, decoded, decoded', reached⟩ :=
    Migrator.migrateAll_view finished accountErrors storageErrors stored.accounts stored.storage
  rw [decodeAccount_table small] at decoded
  rw [decodeSlot_table] at decoded'
  obtain rfl := List.map_injective_iff.mpr (Option.some_injective _) decoded
  obtain rfl := List.map_injective_iff.mpr (Option.some_injective _) decoded'
  rw [reached, new]
  funext address
  rw [setSlots_apply, setLeaves_apply, Option.map_map, RethState.leaves]
  refine Option.map_congr fun account _ => congrArg (Leaf.mk _) (funext fun slot => ?_)
  cases lastValue state.storage address slot <;> rfl

/-- The store has these codes, each under its hash, and that of every account. -/
structure CodesStored (state : RethState) (codeOf : B256 → Bytecode) (codes : B256 → Option Bytecode)
    (kvdb : KV) : Prop where
  stored : ∀ codeHash, KeyValueDatabase.getCode kvdb codeHash = .ok (codes codeHash)
  addressed : ∀ codeHash code, codes codeHash = some code → code = codeOf codeHash
  complete : ∀ entry ∈ state.accounts.entries, ∀ codeHash, entry.2.bytecodeHash = some codeHash →
    (codes codeHash).isSome

private theorem lastValue_ne_zero {entries : List (Address × StorageEntry)}
    (nonzero : ∀ entry ∈ entries, entry.2.value ≠ 0) (address : Address) (slot : U256) :
    lastValue entries address slot ≠ some 0 := by
  induction entries using List.reverseRecOn with
  | nil => simp [lastValue]
  | append_singleton entries entry ih =>
    rw [lastValue_append]
    split
    · exact fun zero => nonzero entry (by simp) (Option.some.inj zero)
    · exact ih fun earlier member => nonzero earlier (List.mem_append_left _ member)

theorem sound (held : LawfulTrieDb.view trie = state.leaves)
    (nonzero : ∀ entry ∈ state.storage, entry.2.value ≠ 0) (coded : state.CodesStored codeOf codes kvdb) :
    (⟨trie, kvdb⟩ : TrieDatabase Trie KV).Sound codeOf where
  codes codeHash := ⟨codes codeHash, coded.stored codeHash⟩
  addressed codeHash code read := by
    have same := (coded.stored codeHash).symm.trans read
    exact coded.addressed codeHash code (Except.ok.inj same)
  complete address leaf found filled := by
    have found : LawfulTrieDb.view trie address = some leaf := found
    rw [held] at found
    obtain ⟨account, listed, rfl⟩ := Option.map_eq_some_iff.mp found
    have filled : account.bytecodeHash.getD keccakEmpty ≠ keccakEmpty := filled
    cases hash : account.bytecodeHash with
    | none =>
      rw [hash] at filled
      exact absurd rfl filled
    | some codeHash =>
      obtain ⟨code, there⟩ := Option.isSome_iff_exists.mp
        (coded.complete ⟨address, account⟩ (AList.mem_lookup_iff.mp listed) codeHash hash)
      refine ⟨code, ?_⟩
      change KeyValueDatabase.getCode kvdb (account.bytecodeHash.getD keccakEmpty) = _
      rw [hash, Option.getD_some, coded.stored, there]
  nonzero address leaf slot found := by
    have found : LawfulTrieDb.view trie address = some leaf := found
    rw [held] at found
    obtain ⟨account, _, rfl⟩ := Option.map_eq_some_iff.mp found
    exact lastValue_ne_zero nonzero address slot

theorem ledger_eq (held : LawfulTrieDb.view trie = state.leaves) (coded : state.CodesStored codeOf codes kvdb) :
    Ledger.of rootOf (⟨trie, kvdb⟩ : TrieDatabase Trie KV) = state.ledger rootOf codes := by
  have loaded (codeHash : B256) : ((⟨trie, kvdb⟩ : TrieDatabase Trie KV).loadCode codeHash).toOption.getD none =
      if codeHash = keccakEmpty then none else codes codeHash := by
    rw [TrieDatabase.loadCode]
    by_cases plain : codeHash = keccakEmpty
    · rw [if_neg (not_not_intro plain), if_pos plain]
      rfl
    · rw [if_pos plain, if_neg plain, coded.stored]
      rfl
  have accounts (address : Address) : (LawfulTrieDb.view trie address).map
      (LedgerAccount.of (⟨trie, kvdb⟩ : TrieDatabase Trie KV)) = (state.ledger rootOf codes).accounts address := by
    rw [held, RethState.leaves, Option.map_map]
    refine Option.map_congr fun account _ => ?_
    exact congrArg₂ LedgerAccount.mk (congrArg (AccountInfo.mk account.balance account.nonce _) (loaded _)) rfl
  have stored (codeHash : B256) : (KeyValueDatabase.getCode kvdb codeHash).toOption.getD none = codes codeHash := by
    rw [coded.stored]
    rfl
  exact congrArg₂ Ledger.mk (funext accounts) (funext stored)

end Migrated

end RethState

end State

section Execution

open Vm
open BlockExecutor (Event EvmAddressed Replays trace)

variable {Trie Txn KV Block Tx : Type} [TrieTransaction Txn] [TrieDb Trie Txn] [KeyValueDatabase KV]
variable [BlockResponse Block Tx] [Evm Block Tx] [ChecksumAddress] [LawfulTransaction Txn] [LawfulTrieDb Trie Txn]
variable [LawfulKeyValueDatabase KV] [DurableKeyValueDatabase KV]
variable {rootOf : (Address → Option Leaf) → B256} {codeOf : B256 → Bytecode}

/-- Over a migration without errors into a new trie, beside a store with the codes, reads and
blocks come out as they do over the state that Reth had, up to a block whose commit to the
trie fails. -/
theorem migration_replays_state (readable : TrieDatabase.Readable Trie KV)
    (rooted : ∀ trie : Trie, TrieDb.stateRoot trie = rootOf (LawfulTrieDb.view trie))
    (addressed : EvmAddressed Trie KV Block Tx codeOf) {state : RethState} {migrator : Migrator Trie}
    (stored : state.IsStored migrator.source)
    (small : ∀ entry ∈ state.accounts.entries, entry.2.nonce < 2 ^ 64)
    (nonzero : ∀ entry ∈ state.storage, entry.2.value ≠ 0)
    (new : LawfulTrieDb.view migrator.destination = fun _ => none) {stats : MigrationStats} {trie : Trie}
    (finished : migrator.migrateAll = some (.ok (stats, trie))) (accountErrors : stats.accountErrors = 0)
    (storageErrors : stats.storageErrors = 0) {kvdb : KV} {codes : B256 → Option Bytecode}
    (coded : state.CodesStored codeOf codes kvdb) (chain : Chain) (events : List (Event Block))
    (keeps : (⟨state.ledger rootOf codes, chain⟩ : BlockExecutor (Ledger rootOf)).KeepsAccounts events) :
    Replays (trace ⟨CachedDatabase.new (TrieDatabase.mk trie kvdb), chain⟩ events)
      (trace (⟨state.ledger rootOf codes, chain⟩ : BlockExecutor (Ledger rootOf)) events) := by
  have held := RethState.migrateAll_leaves stored small new finished accountErrors storageErrors
  have sound := RethState.sound held nonzero coded
  have same : Ledger.of rootOf (TrieDatabase.mk trie kvdb) = state.ledger rootOf codes :=
    RethState.ledger_eq held coded
  rw [← same] at keeps ⊢
  exact BlockExecutor.trace_mirrors readable rooted addressed events rfl (Mirrors.new readable sound) keeps

end Execution

section Examples

open Reference Vm
open BlockExecutor (Replays trace)

/-- A contract with one slot, and an account without code. -/
def rethState : RethState where
  accounts := [⟨1, ⟨3, 5, some 2⟩⟩, ⟨5, ⟨1, 10, none⟩⟩].toAList
  storage := [(1, ⟨7, 9⟩)]

def rethMdbx : Mdbx where
  beginRoTxn := .ok ()
  openTable _ := .ok ()
  cursor table := .ok <|
    if table = "PlainAccountState" then rethState.accountTable.map .ok else rethState.storageTable.map .ok

/-- A store with the code of the contract. -/
def rethCodes (codeHash : B256) : Option Bytecode := if codeHash = 2 then some [2] else none

private theorem rethCodes_stored :
    rethState.CodesStored Reference.codeOf rethCodes (⟨rethCodes, fun _ => none⟩ : MemoryKv) where
  stored _ := rfl
  addressed codeHash code held := by
    unfold rethCodes at held
    split at held
    · rename_i same
      cases held
      rw [same]
      rfl
    · cases held
  complete := by
    intro entry member codeHash hash
    rcases List.mem_cons.mp member with rfl | later
    · cases hash
      rfl
    · obtain rfl := List.mem_singleton.mp later
      cases hash

/-- A migrator that commits after every entry. -/
def rethMigrator : Migrator MemoryTrie := ⟨rethMdbx, ⟨fun _ => none⟩, ⟨1, 1⟩⟩

theorem rethState_replays :
    ∃ stats trie, rethMigrator.migrateAll = some (.ok (stats, trie)) ∧
      Replays
        (trace ⟨CachedDatabase.new (TrieDatabase.mk trie (⟨rethCodes, fun _ => none⟩ : MemoryKv)),
          baseMainnet⟩ paymentRun)
        (trace (⟨rethState.ledger (fun _ => 0) rethCodes, baseMainnet⟩ : BlockExecutor (Ledger fun _ => 0))
          paymentRun) := by
  have rooted (trie : MemoryTrie) : TrieDb.stateRoot trie = (fun _ => 0) (LawfulTrieDb.view trie) := rfl
  have stored : rethState.IsStored rethMigrator.source := ⟨rfl, rfl⟩
  have new : LawfulTrieDb.view rethMigrator.destination = fun _ => none := rfl
  refine ⟨⟨2, 1, 0, 0⟩, _, rfl, ?_⟩
  refine migration_replays_state memory_readable rooted scripted_addressed stored (by decide) (by decide) new rfl
    rfl rfl rethCodes_stored baseMainnet paymentRun ⟨by decide, ?_⟩
  intro result after _
  trivial

end Examples

end Montana.Migration
