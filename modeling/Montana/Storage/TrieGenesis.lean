import Montana.Storage.KvdbGenesis

/-! The genesis of the trie, broken off at any operation. -/

namespace Montana.Storage

open Dialogue (Triple)

section Trie

variable {DB Trie Txn : Type} [ColumnStore DB] [LawfulColumnStore DB] [TrieTransaction Txn]
variable [TrieDb Trie Txn] [LawfulTransaction Txn] [LawfulTrieDb Trie Txn] [TrieFile Trie]

open LawfulTransaction (view)

def GenesisAccount.body (hashSlow : Bytes → B256) (account : GenesisAccount) : AccountBody :=
  ⟨account.nonce.getD 0, account.balance, (account.code.map hashSlow).getD keccakEmpty⟩

/-- Every account, slot and code of the genesis is there, and its header is that of the trie. -/
structure Genesis.Present (hashSlow : Bytes → B256) (genesis : Genesis) (kvdb : RocksDbKvDatabase DB)
    (trie : Trie) : Prop where
  accounts : ∀ entry ∈ genesis.alloc.entries, ∃ leaf, LawfulTrieDb.view trie entry.1 = some leaf ∧
    leaf.body = entry.2.body hashSlow ∧ ∀ storage, entry.2.storage = some storage →
      ∀ slot ∈ storage.entries, leaf.storage slot.1 = TrieDatabase.genesisValue slot.2
  codes : ∀ entry ∈ genesis.alloc.entries, ∀ code, entry.2.code = some code →
    kvdb.getCode (hashSlow code) = .ok (some code)
  header : kvdb.getHeader 0 = .ok (some ⟨TrieDb.stateRoot trie⟩)

/-- No two codes of the genesis have the same hash. -/
def Genesis.CollisionFree (hashSlow : Bytes → B256) (genesis : Genesis) : Prop :=
  ∀ entry ∈ genesis.alloc.entries, ∀ other ∈ genesis.alloc.entries, ∀ code code',
    entry.2.code = some code → other.2.code = some code' → hashSlow code = hashSlow code' → code = code'

/-- What the genesis makes of one account. -/
def GenesisAccount.leaf (hashSlow : Bytes → B256) (account : GenesisAccount) (leaf : Option Leaf) :
    Option Leaf :=
  some {
    body := account.body hashSlow
    storage := match account.storage with
      | some storage => Keyed.applyMap (fun value _ => TrieDatabase.genesisValue value) (storageAt leaf) storage
      | none => storageAt leaf }

namespace TrieDatabase

def writeSlots (leaf : Leaf) (entries : List ((_ : U256) × B256)) : Leaf :=
  { leaf with
    storage := entries.foldl (Keyed.applyEntry fun value _ => genesisValue value) leaf.storage }

private theorem writeSlots_concat (leaf : Leaf) (entries : List ((_ : U256) × B256))
    (entry : (_ : U256) × B256) :
    writeSlots leaf (entries ++ [entry]) =
      (writeSlots leaf entries).setSlot entry.1 (genesisValue entry.2) := by
  rw [writeSlots, List.foldl_append]
  rfl

/-- How far the loop over the accounts of the genesis has come. -/
structure Allocated (hashSlow : Bytes → B256) (before : RocksDbKvDatabase DB)
    (entries : List ((_ : Address) × GenesisAccount)) (tx : Txn) (kvdb : RocksDbKvDatabase DB) : Prop where
  accounts : view tx = entries.foldl (Keyed.applyEntry (GenesisAccount.leaf hashSlow)) fun _ => none
  codes : ∀ entry ∈ entries, ∀ code, entry.2.code = some code →
    kvdb.getCode (hashSlow code) = .ok (some code)
  others : ∀ cf key, cf ≠ .code → kvdb.reads cf key = before.reads cf key

/-- What an interruption of the genesis of the trie leaves: both paths exist, and the
header of the genesis does not hold a root. -/
def Unfinished (operation : Operation Txn) (paths : Paths DB Trie) : Prop :=
  operation.Initializes ∧ ∃ (kvdb : RocksDbKvDatabase DB) (trie : Trie),
    paths = ⟨some kvdb, some trie⟩ ∧ kvdb.Rootless

omit [LawfulColumnStore DB] [LawfulTrieDb Trie Txn] in
/-- The slots of an account that is there. -/
theorem triple_slots {address : Address} {entries : List ((_ : U256) × B256)} {tx : Txn}
    {kvdb : RocksDbKvDatabase DB} {trie : Trie} {leaf : Leaf} (there : view tx address = some leaf)
    (rootless : kvdb.Rootless) :
    Triple Paths.answer Paths.refuse (Dialogue.forEach (setGenesisSlot address) entries tx)
      (⟨some kvdb, some trie⟩ : Paths DB Trie)
      (fun tx' paths => paths = ⟨some kvdb, some trie⟩ ∧
        view tx' = Function.update (view tx) address (some (writeSlots leaf entries)))
      Unfinished := by
  let Holds (processed : List ((_ : U256) × B256)) (tx' : Txn) (paths : Paths DB Trie) : Prop :=
    paths = ⟨some kvdb, some trie⟩ ∧
      view tx' = Function.update (view tx) address (some (writeSlots leaf processed))
  have initially : Holds [] tx ⟨some kvdb, some trie⟩ := ⟨rfl, by simp [writeSlots, ← there]⟩
  refine Triple.forEach Holds ?_ initially
  rintro processed entry rest tx' _ _ ⟨rfl, viewed⟩
  have kept : Unfinished (.setStorageSlot tx' address entry.1 (genesisValue entry.2))
      (⟨some kvdb, some trie⟩ : Paths DB Trie) := ⟨trivial, kvdb, trie, rfl, rootless⟩
  refine Triple.call kept (fun message refusal refused => ?_) (fun _ _ => kept) fun tx'' performed => ?_
  · cases refused
    exact ⟨_, rfl⟩
  · refine ⟨rfl, ?_⟩
    cases written : TrieTransaction.setStorageSlot tx' address entry.1 (genesisValue entry.2) with
    | error e => simp [Paths.answer, written, Except.mapError] at performed
    | ok next =>
      obtain rfl : next = tx'' := by simpa [Paths.answer, written, Except.mapError] using performed
      rw [LawfulTransaction.setStorageSlot_view written, viewed, Function.update_self,
        Function.update_idem, Option.map_some, writeSlots_concat]

omit [LawfulTrieDb Trie Txn] in
/-- The code of an account is in the store before the account is in the transaction. -/
theorem triple_storeGenesisCode {hashSlow : Bytes → B256} {genesis : Genesis}
    (collisionFree : genesis.CollisionFree hashSlow) {before kvdb : RocksDbKvDatabase DB}
    (rootless : before.Rootless) {trie : Trie} {tx : Txn}
    {processed rest : List ((_ : Address) × GenesisAccount)} {entry : (_ : Address) × GenesisAccount}
    (split : genesis.alloc.entries = processed ++ entry :: rest)
    (allocated : Allocated hashSlow before processed tx kvdb) :
    Triple Paths.answer Paths.refuse
      (storeGenesisCode hashSlow entry.2 : Action Txn OpenError B256)
      (⟨some kvdb, some trie⟩ : Paths DB Trie)
      (fun codeHash paths => codeHash = (entry.2.code.map hashSlow).getD keccakEmpty ∧
        ∃ kvdb', paths = ⟨some kvdb', some trie⟩ ∧ Allocated hashSlow before processed tx kvdb' ∧
          ∀ code, entry.2.code = some code → kvdb'.getCode (hashSlow code) = .ok (some code))
      Unfinished := by
  unfold storeGenesisCode
  cases coded : entry.2.code with
  | none => exact Triple.done ⟨rfl, kvdb, rfl, allocated, fun code same => by cases same⟩
  | some code =>
    have stored : Triple Paths.answer Paths.refuse
        (perform (.put (setCode (hashSlow code) code))
          (·.mapError fun e => .genesis (.storeCode e)) : Action Txn OpenError Unit)
        (⟨some kvdb, some trie⟩ : Paths DB Trie)
        (fun _ paths => ∃ kvdb', paths = ⟨some kvdb', some trie⟩ ∧
          Allocated hashSlow before processed tx kvdb' ∧
          kvdb'.getCode (hashSlow code) = .ok (some code))
        Unfinished := by
      refine triple_put (by rfl) (fun e => ⟨_, by rfl⟩) (fun kvdb' same => ?_) fun kvdb' written => ?_
      · refine ⟨by simp [Operation.Initializes, setCode, setHeader], kvdb', trie, rfl, ?_⟩
        refine (RocksDbKvDatabase.rootless_congr ?_).mpr rootless
        rw [same]
        exact allocated.others _ _ (by decide)
      · have here : kvdb'.getCode (hashSlow code) = .ok (some code) := by
          have read := written .code (hashBytes (hashSlow code))
          rw [if_pos ⟨rfl, rfl⟩] at read
          exact congrArg (Except.mapError _) read
        refine ⟨kvdb', rfl, ⟨allocated.accounts, fun other member code' coded' => ?_,
          fun cf key other => ?_⟩, here⟩
        · by_cases same : hashSlow code' = hashSlow code
          · obtain rfl := collisionFree other (by simp [split, member]) entry (by simp [split]) code' code
              coded' coded same
            exact here
          · rw [← allocated.codes other member code' coded']
            refine RocksDbKvDatabase.getCode_congr ((written _ _).trans (if_neg ?_))
            exact fun both => same (hashBytes_injective both.2)
        · rw [written, if_neg fun both => other both.1]
          exact allocated.others cf key other
    refine stored.andThen ?_
    rintro _ _ ⟨kvdb', rfl, allocated, here⟩
    refine Triple.done ⟨rfl, kvdb', rfl, allocated, fun code' same => ?_⟩
    cases same
    exact here

omit [LawfulColumnStore DB] [LawfulTrieDb Trie Txn] in
private theorem triple_setAccount {address : Address} {account : TrieAccount} {tx : Txn}
    {kvdb : RocksDbKvDatabase DB} {trie : Trie} (rootless : kvdb.Rootless) :
    Triple Paths.answer Paths.refuse
      (perform (.setAccount tx address account)
        (·.mapError fun e => .genesis (.setAccount address e)) : Action Txn OpenError Txn)
      (⟨some kvdb, some trie⟩ : Paths DB Trie)
      (fun tx' paths => paths = ⟨some kvdb, some trie⟩ ∧ view tx' =
        Function.update (view tx) address (some ⟨account.body, storageAt (view tx address)⟩))
      Unfinished := by
  have kept : Unfinished (.setAccount tx address account) (⟨some kvdb, some trie⟩ : Paths DB Trie) :=
    ⟨trivial, kvdb, trie, rfl, rootless⟩
  refine Triple.call kept (fun message refusal refused => ?_) (fun _ _ => kept) fun tx' performed => ?_
  · cases refused
    exact ⟨_, rfl⟩
  · cases written : TrieTransaction.setAccount tx address (some account) with
    | error e => simp [Paths.answer, written, Except.mapError] at performed
    | ok next =>
      obtain rfl : next = tx' := by simpa [Paths.answer, written, Except.mapError] using performed
      exact ⟨rfl, LawfulTransaction.setAccount_view written⟩

omit [LawfulTrieDb Trie Txn] in
/-- One account of the genesis: its code, itself and its slots. -/
theorem triple_setGenesisAccount {hashSlow : Bytes → B256} {genesis : Genesis}
    (collisionFree : genesis.CollisionFree hashSlow) {before kvdb : RocksDbKvDatabase DB}
    (rootless : before.Rootless) {trie : Trie} {tx : Txn}
    {processed rest : List ((_ : Address) × GenesisAccount)} {entry : (_ : Address) × GenesisAccount}
    (split : genesis.alloc.entries = processed ++ entry :: rest)
    (allocated : Allocated hashSlow before processed tx kvdb) :
    Triple Paths.answer Paths.refuse (setGenesisAccount hashSlow tx entry)
      (⟨some kvdb, some trie⟩ : Paths DB Trie)
      (fun tx' paths => ∃ kvdb', paths = ⟨some kvdb', some trie⟩ ∧
        Allocated hashSlow before (processed ++ [entry]) tx' kvdb')
      Unfinished := by
  refine (triple_storeGenesisCode collisionFree rootless split allocated).andThen ?_
  rintro _ _ ⟨rfl, kvdb, rfl, allocated, stored⟩
  have here : kvdb.Rootless :=
    (RocksDbKvDatabase.rootless_congr (allocated.others _ _ (by decide))).mpr rootless
  have codes : ∀ other ∈ processed ++ [entry], ∀ code, other.2.code = some code →
      kvdb.getCode (hashSlow code) = .ok (some code) := by
    intro other member
    rcases List.mem_append.mp member with old | new
    · exact allocated.codes other old
    · rw [List.mem_singleton.mp new]
      exact stored
  refine (triple_setAccount here).andThen ?_
  rintro tx' _ ⟨rfl, viewed⟩
  have accounts (tx'' : Txn)
      (after : view tx'' = Keyed.applyEntry (GenesisAccount.leaf hashSlow) (view tx) entry) :
      view tx'' =
        (processed ++ [entry]).foldl (Keyed.applyEntry (GenesisAccount.leaf hashSlow)) fun _ => none := by
    rw [after, allocated.accounts, List.foldl_append]
    rfl
  cases slots : entry.2.storage with
  | none =>
    refine Triple.done ⟨kvdb, rfl, accounts tx' ?_, codes, allocated.others⟩
    rw [viewed, Keyed.applyEntry, GenesisAccount.leaf, slots]
    rfl
  | some storage =>
    have there := congrFun viewed entry.1
    rw [Function.update_self] at there
    refine (triple_slots there here).mono ?_ fun _ _ unfinished => unfinished
    rintro tx'' _ ⟨rfl, written⟩
    refine ⟨kvdb, rfl, accounts tx'' ?_, codes, allocated.others⟩
    rw [written, viewed, Function.update_idem, Keyed.applyEntry, GenesisAccount.leaf, slots]
    rfl

omit [LawfulColumnStore DB] [TrieFile Trie] in
/-- The committed accounts of the whole genesis, with the header of their root. -/
theorem Allocated.present {hashSlow : Bytes → B256} {genesis : Genesis}
    {before kvdb kvdb' : RocksDbKvDatabase DB} {tx : Txn} {trie : Trie}
    (allocated : Allocated hashSlow before genesis.alloc.entries tx kvdb)
    (committed : LawfulTrieDb.view trie = view tx)
    (kept : ∀ codeHash, kvdb'.getCode codeHash = kvdb.getCode codeHash)
    (header : kvdb'.getHeader 0 = .ok (some ⟨TrieDb.stateRoot trie⟩)) :
    genesis.Present hashSlow kvdb' trie := by
  refine ⟨fun entry member => ?_, fun entry member code coded => ?_, header⟩
  · have found : genesis.alloc.lookup entry.1 = some entry.2 := AList.mem_lookup_iff.mpr member
    have held := Keyed.applyMap_apply (GenesisAccount.leaf hashSlow) (fun _ => none) genesis.alloc entry.1
    rw [found, Keyed.applyMap, ← allocated.accounts, ← committed] at held
    refine ⟨_, held, rfl, fun storage stored slot listed => ?_⟩
    have written : storage.lookup slot.1 = some slot.2 := AList.mem_lookup_iff.mpr listed
    simp only [stored]
    rw [Keyed.applyMap_apply, written]
    rfl
  · rw [kept]
    exact allocated.codes entry member code coded

variable [LawfulTrieFile Trie Txn]

/-- The genesis of a new trie: its accounts are those of the genesis and no others. -/
theorem triple_applyGenesis_exact {hashSlow : Bytes → B256} {genesis : Genesis}
    (collisionFree : genesis.CollisionFree hashSlow)
    (rooted : ∀ trie : Trie, TrieDb.stateRoot trie ≠ 0) {kvdb : RocksDbKvDatabase DB}
    (rootless : kvdb.Rootless) :
    Triple Paths.answer Paths.refuse (applyGenesis hashSlow genesis : Action Txn OpenError Unit)
      (⟨some kvdb, some TrieFile.createNew⟩ : Paths DB Trie)
      (fun _ paths => ∃ kvdb' trie', paths = ⟨some kvdb', some trie'⟩ ∧
        genesis.Present hashSlow kvdb' trie' ∧ (kvdb'.Ready ↔ kvdb.Ready) ∧
        LawfulTrieDb.view trie' =
          Keyed.applyMap (GenesisAccount.leaf hashSlow) (fun _ => none) genesis.alloc)
      Unfinished := by
  have begun : Triple Paths.answer Paths.refuse
      (perform .beginRw (·.mapError fun e => .genesis (.beginWrite e)) : Action Txn OpenError Txn)
      (⟨some kvdb, some TrieFile.createNew⟩ : Paths DB Trie)
      (fun tx paths => paths = ⟨some kvdb, some TrieFile.createNew⟩ ∧ view tx = fun _ => none)
      Unfinished := by
    have kept : Unfinished (.beginRw : Operation Txn)
        (⟨some kvdb, some TrieFile.createNew⟩ : Paths DB Trie) :=
      ⟨trivial, kvdb, _, rfl, rootless⟩
    refine Triple.call kept (fun message refusal refused => ?_) (fun _ _ => kept) fun tx performed => ?_
    · cases refused
      exact ⟨_, rfl⟩
    · cases began : TrieDb.beginRw (TrieFile.createNew : Trie) with
      | error e => simp [Paths.answer, began, Except.mapError] at performed
      | ok next =>
        obtain rfl : next = tx := by simpa [Paths.answer, began, Except.mapError] using performed
        exact ⟨rfl, (LawfulTrieDb.beginRw_view began).trans LawfulTrieFile.view_createNew⟩
  refine begun.andThen ?_
  rintro tx _ ⟨rfl, empty⟩
  let Holds (processed : List ((_ : Address) × GenesisAccount)) (tx : Txn) (paths : Paths DB Trie) : Prop :=
    ∃ kvdb', paths = ⟨some kvdb', some TrieFile.createNew⟩ ∧ Allocated hashSlow kvdb processed tx kvdb'
  have initially : Holds [] tx ⟨some kvdb, some TrieFile.createNew⟩ :=
    ⟨kvdb, rfl, empty, fun _ member => (List.not_mem_nil member).elim, fun _ _ _ => rfl⟩
  have allocated : Triple Paths.answer Paths.refuse
      (Dialogue.forEach (setGenesisAccount hashSlow) genesis.alloc.entries tx : Action Txn OpenError Txn)
      (⟨some kvdb, some TrieFile.createNew⟩ : Paths DB Trie) (Holds genesis.alloc.entries) Unfinished := by
    refine Triple.forEach Holds ?_ initially
    rintro processed entry rest tx _ split ⟨kvdb', rfl, allocated⟩
    exact triple_setGenesisAccount collisionFree rootless split allocated
  refine allocated.andThen ?_
  rintro tx _ ⟨kvdb', rfl, allocated⟩
  have here : kvdb'.Rootless :=
    (RocksDbKvDatabase.rootless_congr (allocated.others _ _ (by decide))).mpr rootless
  have committed : Triple Paths.answer Paths.refuse
      (perform (.commitRw tx) (·.mapError fun e => .genesis (.commit e)) : Action Txn OpenError Unit)
      (⟨some kvdb', some TrieFile.createNew⟩ : Paths DB Trie)
      (fun _ paths => ∃ trie, paths = ⟨some kvdb', some trie⟩ ∧ LawfulTrieDb.view trie = view tx)
      Unfinished := by
    have kept : Unfinished (.commitRw tx) (⟨some kvdb', some TrieFile.createNew⟩ : Paths DB Trie) :=
      ⟨trivial, kvdb', _, rfl, here⟩
    refine Triple.call kept (fun message refusal refused => ?_) (fun e failed => ?_) fun _ performed => ?_
    · cases refused
      exact ⟨_, rfl⟩
    · cases outcome : TrieDb.commitRw (TrieFile.createNew : Trie) tx with
      | error e =>
        simp only [Paths.answer, outcome]
        exact kept
      | ok trie => simp [Paths.answer, outcome, Except.mapError] at failed
    · cases outcome : TrieDb.commitRw (TrieFile.createNew : Trie) tx with
      | error e => simp [Paths.answer, outcome, Except.mapError] at performed
      | ok trie =>
        simp only [Paths.answer, outcome]
        exact ⟨trie, rfl, LawfulTrieDb.commitRw_view outcome⟩
  refine committed.andThen ?_
  rintro _ _ ⟨trie, rfl, committed⟩
  have root : Triple Paths.answer Paths.refuse (perform .stateRoot .ok : Action Txn OpenError B256)
      (⟨some kvdb', some trie⟩ : Paths DB Trie)
      (fun root paths => root = TrieDb.stateRoot trie ∧ paths = ⟨some kvdb', some trie⟩)
      Unfinished := by
    refine Triple.call ⟨trivial, kvdb', trie, rfl, here⟩ (fun message refusal refused => by cases refused)
      (fun e failed => by cases failed) fun root performed => ?_
    cases performed
    exact ⟨rfl, rfl⟩
  refine root.andThen ?_
  rintro _ _ ⟨rfl, rfl⟩
  refine triple_put (by rfl) (fun e => ⟨_, by rfl⟩) (fun kvdb'' same => ?_) fun kvdb'' written => ?_
  · refine ⟨fun same => ?_, kvdb'', trie, rfl, ?_⟩
    · have value := hashBytes_injective (congrArg Put.value same)
      exact rooted trie value
    · exact (RocksDbKvDatabase.rootless_congr (congrFun (congrFun same _) _)).mpr here
  · refine ⟨kvdb'', trie, rfl, allocated.present committed (fun codeHash => ?_) ?_, ?_,
      committed.trans allocated.accounts⟩
    · exact RocksDbKvDatabase.getCode_congr ((written _ _).trans (if_neg fun both => by cases both.1))
    · have read := written .headers (toBeBytes 0)
      rw [if_pos ⟨rfl, rfl⟩, RocksDbKvDatabase.reads] at read
      rw [RocksDbKvDatabase.getHeader, read]
      exact congrArg (Except.map some) (Header.fromBytes_toBytes _)
    · refine RocksDbKvDatabase.ready_congr fun key => ?_
      rw [written, if_neg fun both => by cases both.1]
      exact allocated.others _ _ (by decide)

theorem triple_applyGenesis {hashSlow : Bytes → B256} {genesis : Genesis}
    (collisionFree : genesis.CollisionFree hashSlow)
    (rooted : ∀ trie : Trie, TrieDb.stateRoot trie ≠ 0) {kvdb : RocksDbKvDatabase DB}
    (rootless : kvdb.Rootless) :
    Triple Paths.answer Paths.refuse (applyGenesis hashSlow genesis : Action Txn OpenError Unit)
      (⟨some kvdb, some TrieFile.createNew⟩ : Paths DB Trie)
      (fun _ paths => ∃ kvdb' trie', paths = ⟨some kvdb', some trie'⟩ ∧
        genesis.Present hashSlow kvdb' trie' ∧ (kvdb'.Ready ↔ kvdb.Ready))
      Unfinished := by
  refine (triple_applyGenesis_exact collisionFree rooted rootless).mono ?_ fun _ _ unfinished => unfinished
  rintro _ _ ⟨kvdb', trie', rfl, present, ready, _⟩
  exact ⟨kvdb', trie', rfl, present, ready⟩

end TrieDatabase

end Trie

end Montana.Storage
