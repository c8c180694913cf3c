import Montana.Storage.GenesisRestart
import Montana.Storage.LedgerMirror

/-! The first start of a validator: a dump of the state of anvil is the genesis of its two
databases, and what they stand for afterwards is the dump. -/

namespace Montana.Storage

open Dialogue (Asks Fate Triple)

structure AnvilAccountRecord where
  nonce : Nat
  balance : U256
  code : Bytes
  storage : AList fun _ : U256 => B256

/-- The block environment of the dump goes into fields of the genesis that the databases do
not look at. -/
structure AnvilState where
  accounts : AList fun _ : Address => AnvilAccountRecord

def AnvilAccountRecord.intoGenesis (record : AnvilAccountRecord) : GenesisAccount where
  nonce := some record.nonce
  balance := record.balance
  code := if record.code.isEmpty then none else some record.code
  storage := if record.storage.entries.isEmpty then none else some record.storage

def AnvilState.intoGenesis (self : AnvilState) : Genesis where
  alloc := Keyed.mapValues AnvilAccountRecord.intoGenesis self.accounts

instance {DB : Type} [ColumnStore DB] [LawfulColumnStore DB] :
    DurableKeyValueDatabase (RocksDbKvDatabase DB) where
  getCode_kept kvdb codeHash code stored held := by
    have reads := RocksDbKvDatabase.put_reads kvdb (setCode codeHash code) .code (hashBytes codeHash)
    by_cases written : (kvdb.put (setCode codeHash code)).1 = .ok ()
    · rw [if_pos ⟨written, rfl, rfl⟩] at reads
      exact ⟨code, congrArg (Except.mapError _) reads⟩
    · rw [if_neg fun both => written both.1] at reads
      exact ⟨stored, (RocksDbKvDatabase.getCode_congr reads).trans held⟩

section FirstStart

variable {DB Trie Txn : Type} [ColumnStore DB] [LawfulColumnStore DB] [TrieTransaction Txn]
variable [TrieDb Trie Txn] [LawfulTransaction Txn] [LawfulTrieDb Trie Txn] [TrieFile Trie]
variable [LawfulTrieFile Trie Txn]

namespace Paths

/-- From nothing, the two databases are opened with all of the genesis, and with no other account. -/
theorem triple_firstStart {hashSlow : Bytes → B256} {genesis : Genesis}
    (collisionFree : genesis.CollisionFree hashSlow)
    (rooted : ∀ trie : Trie, TrieDb.stateRoot trie ≠ 0) :
    Triple Paths.answer Paths.refuse (openBoth hashSlow genesis : Action Txn SetupError Unit)
      (⟨none, none⟩ : Paths DB Trie)
      (fun _ after => ∃ kvdb trie, after = ⟨some kvdb, some trie⟩ ∧ genesis.Present hashSlow kvdb trie ∧
        LawfulTrieDb.view trie = Keyed.applyMap (GenesisAccount.leaf hashSlow) (fun _ => none) genesis.alloc)
      fun _ _ => True := by
  have sane : (⟨none, none⟩ : Paths DB Trie).Sane hashSlow genesis := rfl
  have kvdbOpened : Triple Paths.answer Paths.refuse
      ((RocksDbKvDatabase.openOrCreate hashSlow genesis).mapError SetupError.kvdb : Action Txn SetupError Unit)
      (⟨none, none⟩ : Paths DB Trie) (fun _ after => ∃ kvdb, after = ⟨some kvdb, none⟩ ∧ kvdb.Rootless)
      fun _ _ => True := by
    refine ((triple_openKvdb hashSlow sane).mapError SetupError.kvdb).mono ?_ fun _ _ _ => trivial
    rintro _ _ ⟨⟨kvdb, rfl⟩, rootless, _⟩
    exact ⟨kvdb, rfl, rootless⟩
  refine kvdbOpened.andThen ?_
  rintro _ _ ⟨kvdb, rfl, rootless⟩
  refine Triple.mapError ?_ SetupError.trieDb
  have missing : Triple Paths.answer Paths.refuse
      (perform .openTrie TrieDatabase.found : Action Txn OpenError Bool) (⟨some kvdb, none⟩ : Paths DB Trie)
      (fun opened after => opened = false ∧ after = ⟨some kvdb, none⟩) fun _ _ => True := by
    refine Triple.call trivial (fun message refusal refused => ?_) (fun _ _ => trivial) fun opened performed => ?_
    · cases refused
      exact ⟨_, rfl⟩
    · cases performed
      exact ⟨rfl, rfl⟩
  refine missing.andThen ?_
  rintro _ _ ⟨rfl, rfl⟩
  have created : Triple Paths.answer Paths.refuse (TrieDatabase.createNew : Action Txn OpenError Unit)
      (⟨some kvdb, none⟩ : Paths DB Trie) (fun _ after => after = ⟨some kvdb, some TrieFile.createNew⟩)
      fun _ _ => True :=
    (triple_createNew hashSlow genesis rooted rootless).mono
      (fun _ _ same => same) fun _ _ _ => trivial
  refine created.andThen ?_
  rintro _ _ rfl
  refine (TrieDatabase.triple_applyGenesis_exact collisionFree rooted rootless).mono ?_ fun _ _ _ => trivial
  rintro _ _ ⟨kvdb', trie, rfl, present, _, accounts⟩
  exact ⟨kvdb', trie, rfl, present, accounts⟩

end Paths

end FirstStart

section Codes

/-- A code that is put is one of the genesis, under its hash. -/
def Operation.PutsListed {Txn : Type} (hashSlow : Bytes → B256) (genesis : Genesis) : Operation Txn → Prop
  | .put write => write.cf = .code → ∃ entry ∈ genesis.alloc.entries, ∃ code,
      entry.2.code = some code ∧ write = setCode (hashSlow code) code
  | _ => True

variable {Txn : Type} (hashSlow : Bytes → B256) (genesis : Genesis)

theorem RocksDbKvDatabase.openOrCreate_asks :
    (RocksDbKvDatabase.openOrCreate hashSlow genesis : Action Txn DbError Unit).Asks
      (Operation.PutsListed hashSlow genesis) := by
  have number (write : Put) (chain : write.cf ≠ .code) :
      (perform (.put write) id : Action Txn DbError Unit).Asks (Operation.PutsListed hashSlow genesis) :=
    Asks.call (fun code => absurd code chain) _
  have codes : (Dialogue.forEach (storeGenesisCode hashSlow) genesis.alloc.entries () :
      Action Txn DbError Unit).Asks (Operation.PutsListed hashSlow genesis) := by
    refine Asks.forEach (fun entry member _ => ?_) ()
    unfold storeGenesisCode
    cases coded : entry.2.code with
    | none => trivial
    | some code => exact Asks.call (fun _ => ⟨entry, member, code, coded, rfl⟩) _
  have opens : (openCf : Action Txn DbError Unit).Asks (Operation.PutsListed hashSlow genesis) :=
    Asks.andThen (Asks.call trivial _) fun _ => Asks.call trivial _
  refine Asks.andThen (Asks.call trivial _) fun found => ?_
  refine opens.andThen fun _ => ?_
  split
  · refine codes.andThen fun _ => ?_
    refine (number (setSafe 0) (by decide)).andThen fun _ => ?_
    refine (number (setUnsafe 0) (by decide)).andThen fun _ => ?_
    exact number (setHeader 0 ⟨0⟩) (by decide)
  · trivial

theorem TrieDatabase.openOrCreate_asks :
    (TrieDatabase.openOrCreate hashSlow genesis : Action Txn OpenError Unit).Asks
      (Operation.PutsListed hashSlow genesis) := by
  have account (entry : (_ : Address) × GenesisAccount) (member : entry ∈ genesis.alloc.entries) (tx : Txn) :
      (setGenesisAccount hashSlow tx entry).Asks (Operation.PutsListed hashSlow genesis) := by
    have code : (storeGenesisCode hashSlow entry.2 : Action Txn OpenError B256).Asks
        (Operation.PutsListed hashSlow genesis) := by
      unfold storeGenesisCode
      cases coded : entry.2.code with
      | none => trivial
      | some code =>
        refine Asks.andThen (Asks.call (fun _ => ⟨entry, member, code, coded, rfl⟩) _) fun _ => ?_
        trivial
    refine code.andThen fun codeHash => ?_
    refine Asks.andThen (Asks.call trivial _) fun tx => ?_
    cases entry.2.storage with
    | none => trivial
    | some storage => exact Asks.forEach (fun _ _ _ => Asks.call trivial _) tx
  have creates : (createNew : Action Txn OpenError Unit).Asks (Operation.PutsListed hashSlow genesis) :=
    Asks.andThen (Asks.call trivial _) fun _ => Asks.call trivial _
  refine Asks.andThen (Asks.call trivial _) fun opened => ?_
  split
  · trivial
  · refine creates.andThen fun _ => ?_
    refine Asks.andThen (Asks.call trivial _) fun tx => ?_
    refine (Asks.forEach (fun entry member tx => account entry member tx) tx).andThen fun tx => ?_
    refine Asks.andThen (Asks.call trivial _) fun _ => ?_
    refine Asks.andThen (Asks.call trivial _) fun root => ?_
    exact Asks.call (fun header => by cases header) _

variable {DB Trie : Type} [ColumnStore DB] [LawfulColumnStore DB] [TrieTransaction Txn] [TrieDb Trie Txn]
variable [TrieFile Trie]

/-- Only codes of the genesis are stored. -/
def Paths.ListedCodes (paths : Paths DB Trie) : Prop :=
  ∀ kvdb, paths.kvdb = some kvdb → ∀ codeHash, kvdb.getCode codeHash = .ok none ∨
    ∃ entry ∈ genesis.alloc.entries, ∃ code, entry.2.code = some code ∧ hashSlow code = codeHash ∧
      kvdb.getCode codeHash = .ok (some code)

private theorem Paths.listedCodes_answer {hashSlow : Bytes → B256} {genesis : Genesis}
    {paths : Paths DB Trie}
    {operation : Operation Txn} (allowed : operation.PutsListed hashSlow genesis)
    (listed : paths.ListedCodes hashSlow genesis) :
    (paths.answer operation).2.ListedCodes hashSlow genesis := by
  cases operation with
  | createMissing =>
    intro kvdb opened codeHash
    cases found : paths.kvdb with
    | some held =>
      obtain rfl : held = kvdb := by simpa [answer, found] using opened
      exact listed held found codeHash
    | none =>
      obtain rfl : ⟨ColumnStore.create⟩ = kvdb := by simpa [answer, found] using opened
      exact .inl (congrArg (Except.mapError _) (LawfulColumnStore.getCf_create .code (hashBytes codeHash)))
  | put write =>
    intro kvdb opened codeHash
    cases found : paths.kvdb with
    | none => simp [answer, found] at opened
    | some held =>
      obtain rfl : (held.put write).2 = kvdb := by simpa [answer, found] using opened
      have reads := held.put_reads write .code (hashBytes codeHash)
      by_cases written : (held.put write).1 = .ok () ∧ .code = write.cf ∧ hashBytes codeHash = write.key
      · rw [if_pos written] at reads
        obtain ⟨entry, member, code, coded, rfl⟩ := allowed written.2.1.symm
        have same : hashSlow code = codeHash := (hashBytes_injective written.2.2).symm
        exact .inr ⟨entry, member, code, coded, same, congrArg (Except.mapError _) reads⟩
      · rw [if_neg written] at reads
        rw [RocksDbKvDatabase.getCode_congr reads]
        exact listed held found codeHash
  | commitRw tx =>
    have kept : (paths.answer (.commitRw tx)).2.kvdb = paths.kvdb := by
      unfold answer
      cases paths.trie with
      | none => rfl
      | some trie => cases committed : TrieDb.commitRw trie tx <;> simp [committed]
    exact fun kvdb opened => listed kvdb (kept ▸ opened)
  | openTrie | beginRw =>
    obtain ⟨kvdb, trie⟩ := paths
    cases trie <;> exact listed
  | kvExists | openCf _ | createTrie | openCreated | setAccount _ _ _ | setStorageSlot _ _ _ _ | stateRoot => exact listed

/-- However an attempt from nothing ends, nothing but codes of the genesis is stored as code. -/
theorem Paths.attempt_listedCodes (fates : List Fate) :
    ((⟨none, none⟩ : Paths DB Trie).attempt hashSlow genesis fates).state.ListedCodes hashSlow genesis := by
  have asks : (openBoth hashSlow genesis : Action Txn SetupError Unit).Asks
      (Operation.PutsListed hashSlow genesis) :=
    ((RocksDbKvDatabase.openOrCreate_asks hashSlow genesis).mapError _).andThen fun _ =>
      (TrieDatabase.openOrCreate_asks hashSlow genesis).mapError _
  refine asks.invariant (Paths.ListedCodes hashSlow genesis) ?_ fates none ?_
  · intro paths operation allowed listed
    exact listedCodes_answer allowed listed
  · intro kvdb opened
    cases opened

end Codes

section Dump

variable (hashSlow : Bytes → B256)

def AnvilAccountRecord.ledgerAccount (record : AnvilAccountRecord) : LedgerAccount where
  info := {
    balance := record.balance
    nonce := record.nonce
    codeHash := if record.code.isEmpty then keccakEmpty else hashSlow record.code
    code := if record.code.isEmpty then none else some record.code }
  storage slot := (record.storage.lookup slot).getD 0

/-- The dump itself as a ledger. -/
def AnvilState.ledger (rootOf : (Address → Option Leaf) → B256) (self : AnvilState) : Ledger rootOf where
  accounts address := (self.accounts.lookup address).map (AnvilAccountRecord.ledgerAccount hashSlow)
  codes codeHash := (self.accounts.entries.map (·.2.code)).find? fun code =>
    !code.isEmpty && hashSlow code = codeHash

/-- A code of the dump is the code of its hash, which is not that of the empty code. -/
structure AnvilState.Hashed (codeOf : B256 → Bytecode) (dump : AnvilState) : Prop where
  known : ∀ entry ∈ dump.accounts.entries, entry.2.code.isEmpty = false →
    codeOf (hashSlow entry.2.code) = entry.2.code
  nonempty : ∀ entry ∈ dump.accounts.entries, entry.2.code.isEmpty = false →
    hashSlow entry.2.code ≠ keccakEmpty

variable {hashSlow} {codeOf : B256 → Bytecode} {dump : AnvilState}

private theorem AnvilAccountRecord.intoGenesis_code {record : AnvilAccountRecord} {code : Bytes} :
    record.intoGenesis.code = some code ↔ record.code.isEmpty = false ∧ record.code = code := by
  change (if record.code.isEmpty then none else some record.code) = some code ↔ _
  cases record.code.isEmpty <;> simp

private theorem AnvilState.mem_intoGenesis {entry : (_ : Address) × GenesisAccount} :
    entry ∈ dump.intoGenesis.alloc.entries ↔
      ∃ listed ∈ dump.accounts.entries, ⟨listed.1, listed.2.intoGenesis⟩ = entry :=
  List.mem_map

/-- The codes of the genesis are those of the dump. -/
theorem AnvilState.exists_code {Holds : Bytes → Prop} :
    (∃ entry ∈ dump.intoGenesis.alloc.entries, ∃ code, entry.2.code = some code ∧ Holds code) ↔
      ∃ entry ∈ dump.accounts.entries, entry.2.code.isEmpty = false ∧ Holds entry.2.code := by
  constructor
  · rintro ⟨_, member, code, coded, holds⟩
    obtain ⟨listed, there, rfl⟩ := mem_intoGenesis.mp member
    obtain ⟨filled, rfl⟩ := AnvilAccountRecord.intoGenesis_code.mp coded
    exact ⟨listed, there, filled, holds⟩
  · rintro ⟨listed, member, filled, holds⟩
    exact ⟨_, mem_intoGenesis.mpr ⟨listed, member, rfl⟩, listed.2.code,
      AnvilAccountRecord.intoGenesis_code.mpr ⟨filled, rfl⟩, holds⟩

theorem AnvilState.Hashed.collisionFree (hashed : dump.Hashed hashSlow codeOf) :
    dump.intoGenesis.CollisionFree hashSlow := by
  intro entry member other member' code code' coded coded' same
  obtain ⟨listed, there, rfl⟩ := mem_intoGenesis.mp member
  obtain ⟨listed', there', rfl⟩ := mem_intoGenesis.mp member'
  obtain ⟨filled, rfl⟩ := AnvilAccountRecord.intoGenesis_code.mp coded
  obtain ⟨filled', rfl⟩ := AnvilAccountRecord.intoGenesis_code.mp coded'
  rw [← hashed.known listed there filled, ← hashed.known listed' there' filled', same]

/-- The genesis makes of a record what the trie keeps of its account. -/
theorem AnvilAccountRecord.leaf_intoGenesis (record : AnvilAccountRecord) :
    record.intoGenesis.leaf hashSlow none = some (record.ledgerAccount hashSlow).leaf := by
  have body : record.intoGenesis.body hashSlow = (record.ledgerAccount hashSlow).info.body := by
    change AccountBody.mk record.nonce record.balance
      (((if record.code.isEmpty then none else some record.code).map hashSlow).getD keccakEmpty) =
        ⟨record.nonce, record.balance, if record.code.isEmpty then keccakEmpty else hashSlow record.code⟩
    cases record.code.isEmpty <;> rfl
  have storage (slot : U256) : Keyed.applyMap (fun value _ => TrieDatabase.genesisValue value) (storageAt none)
      record.storage slot = (record.ledgerAccount hashSlow).leaf.storage slot := by
    change _ = if (record.storage.lookup slot).getD 0 = 0 then none
      else some ((record.storage.lookup slot).getD 0)
    rw [Keyed.applyMap_apply]
    cases record.storage.lookup slot <;> rfl
  rw [GenesisAccount.leaf, body]
  refine congrArg some (congrArg (Leaf.mk _) (funext fun slot => Eq.trans ?_ (storage slot)))
  by_cases empty : record.storage.entries.isEmpty
  · have absent : record.intoGenesis.storage = none := if_pos empty
    rw [absent, Keyed.applyMap, List.isEmpty_iff.mp empty]
    rfl
  · have present : record.intoGenesis.storage = some record.storage := if_neg empty
    rw [present]

section Opened

variable {DB Trie Txn : Type} [ColumnStore DB] [TrieTransaction Txn] [TrieDb Trie Txn]
variable [LawfulTransaction Txn] [LawfulTrieDb Trie Txn]
variable {kvdb : RocksDbKvDatabase DB} {trie : Trie} {rootOf : (Address → Option Leaf) → B256}

/-- The trie holds the accounts of the dump and no others, and the store their codes and no others. -/
structure AnvilState.Holds (hashSlow : Bytes → B256) (dump : AnvilState) (kvdb : RocksDbKvDatabase DB)
    (trie : Trie) : Prop where
  accounts : LawfulTrieDb.view trie =
    fun address => (dump.accounts.lookup address).map fun record => (record.ledgerAccount hashSlow).leaf
  codes : ∀ entry ∈ dump.accounts.entries, entry.2.code.isEmpty = false →
    kvdb.getCode (hashSlow entry.2.code) = .ok (some entry.2.code)
  others : ∀ codeHash, (∀ entry ∈ dump.accounts.entries, entry.2.code.isEmpty = false →
    hashSlow entry.2.code ≠ codeHash) → kvdb.getCode codeHash = .ok none

namespace AnvilState.Holds

theorem of_present (present : dump.intoGenesis.Present hashSlow kvdb trie)
    (exact : LawfulTrieDb.view trie =
      Keyed.applyMap (GenesisAccount.leaf hashSlow) (fun _ => none) dump.intoGenesis.alloc)
    (listed : (⟨some kvdb, some trie⟩ : Paths DB Trie).ListedCodes hashSlow dump.intoGenesis) :
    dump.Holds hashSlow kvdb trie := by
  refine ⟨funext fun address => ?_, fun entry member filled => ?_, fun codeHash absent => ?_⟩
  · rw [exact, Keyed.applyMap_apply, intoGenesis, Keyed.lookup_mapValues]
    cases dump.accounts.lookup address with
    | none => rfl
    | some record => exact record.leaf_intoGenesis
  · exact present.codes _ (mem_intoGenesis.mpr ⟨entry, member, rfl⟩) entry.2.code
      (AnvilAccountRecord.intoGenesis_code.mpr ⟨filled, rfl⟩)
  · rcases listed kvdb rfl codeHash with unset | stored
    · exact unset
    · obtain ⟨entry, member, filled, same, -⟩ := exists_code.mp stored
      exact absurd same (absent entry member filled)

/-- Each code is stored under its hash or not at all. -/
theorem getCode (holds : dump.Holds hashSlow kvdb trie) (codeHash : B256) :
    kvdb.getCode codeHash = .ok none ∨ ∃ entry ∈ dump.accounts.entries, entry.2.code.isEmpty = false ∧
      hashSlow entry.2.code = codeHash ∧ kvdb.getCode codeHash = .ok (some entry.2.code) := by
  by_cases absent : ∀ entry ∈ dump.accounts.entries, entry.2.code.isEmpty = false →
      hashSlow entry.2.code ≠ codeHash
  · exact .inl (holds.others codeHash absent)
  · push Not at absent
    obtain ⟨entry, member, filled, rfl⟩ := absent
    exact .inr ⟨entry, member, filled, rfl, holds.codes entry member filled⟩

/-- An account of the trie has a record in the dump. -/
theorem record (holds : dump.Holds hashSlow kvdb trie) {address : Address} {leaf : Leaf}
    (stored : LawfulTrieDb.view trie address = some leaf) :
    ∃ record, ⟨address, record⟩ ∈ dump.accounts.entries ∧ leaf = (record.ledgerAccount hashSlow).leaf := by
  rw [holds.accounts] at stored
  obtain ⟨record, found, rfl⟩ := Option.map_eq_some_iff.mp stored
  exact ⟨record, AList.mem_lookup_iff.mp found, rfl⟩

theorem sound (holds : dump.Holds hashSlow kvdb trie) (hashed : dump.Hashed hashSlow codeOf) :
    (⟨trie, kvdb⟩ : TrieDatabase Trie (RocksDbKvDatabase DB)).Sound codeOf where
  codes codeHash := by
    rcases holds.getCode codeHash with unset | ⟨entry, _, _, _, stored⟩
    · exact ⟨none, unset⟩
    · exact ⟨some entry.2.code, stored⟩
  addressed codeHash code stored := by
    have stored : kvdb.getCode codeHash = .ok (some code) := stored
    rcases holds.getCode codeHash with unset | ⟨entry, member, filled, rfl, there⟩
    · rw [unset] at stored
      cases stored
    · rw [there] at stored
      cases stored
      exact (hashed.known entry member filled).symm
  complete address leaf stored coded := by
    obtain ⟨record, member, rfl⟩ := holds.record stored
    have hash : (record.ledgerAccount hashSlow).leaf.body.codeHash =
        if record.code.isEmpty then keccakEmpty else hashSlow record.code := rfl
    rw [hash] at coded ⊢
    by_cases empty : record.code.isEmpty
    · rw [if_pos empty] at coded
      exact (coded rfl).elim
    · rw [if_neg empty]
      have there : kvdb.getCode (hashSlow record.code) = .ok (some record.code) :=
        holds.codes ⟨address, record⟩ member (Bool.eq_false_iff.mpr empty)
      exact ⟨record.code, there⟩
  nonzero address leaf slot stored := by
    obtain ⟨record, _, rfl⟩ := holds.record stored
    change (if (record.ledgerAccount hashSlow).storage slot = 0 then none
      else some ((record.ledgerAccount hashSlow).storage slot)) ≠ some 0
    by_cases zero : (record.ledgerAccount hashSlow).storage slot = 0
    · rw [if_pos zero]
      simp
    · rw [if_neg zero]
      exact fun same => zero (Option.some.inj same)

theorem loadCode (holds : dump.Holds hashSlow kvdb trie) (hashed : dump.Hashed hashSlow codeOf)
    {address : Address} {record : AnvilAccountRecord} (found : dump.accounts.lookup address = some record) :
    (⟨trie, kvdb⟩ : TrieDatabase Trie (RocksDbKvDatabase DB)).loadCode
        (record.ledgerAccount hashSlow).info.codeHash = .ok (record.ledgerAccount hashSlow).info.code := by
  have member : ⟨address, record⟩ ∈ dump.accounts.entries := AList.mem_lookup_iff.mp found
  change TrieDatabase.loadCode _ (if record.code.isEmpty then keccakEmpty else hashSlow record.code) =
    .ok (if record.code.isEmpty then none else some record.code)
  by_cases empty : record.code.isEmpty
  · rw [if_pos empty, if_pos empty, TrieDatabase.loadCode, if_neg (not_not_intro rfl)]
  · have filled := Bool.eq_false_iff.mpr empty
    rw [if_neg empty, if_neg empty, TrieDatabase.loadCode,
      if_pos (hashed.nonempty ⟨address, record⟩ member filled)]
    exact holds.codes ⟨address, record⟩ member filled

/-- The two databases stand for the dump. -/
theorem ledger_eq (holds : dump.Holds hashSlow kvdb trie) (hashed : dump.Hashed hashSlow codeOf) :
    Ledger.of rootOf (⟨trie, kvdb⟩ : TrieDatabase Trie (RocksDbKvDatabase DB)) =
      dump.ledger hashSlow rootOf := by
  have accounts (address : Address) : (LawfulTrieDb.view trie address).map
        (LedgerAccount.of (⟨trie, kvdb⟩ : TrieDatabase Trie (RocksDbKvDatabase DB))) =
      (dump.accounts.lookup address).map (AnvilAccountRecord.ledgerAccount hashSlow) := by
    rw [holds.accounts]
    cases found : dump.accounts.lookup address with
    | none => simp only [found, Option.map_none]
    | some record =>
      have code := holds.loadCode hashed found
      have storage := funext (LedgerAccount.slotValue_leaf (some (record.ledgerAccount hashSlow)))
      simp only [found, Option.map_some, LedgerAccount.of, LedgerAccount.leaf, AccountInfo.body, code]
      exact congrArg some (congrArg (LedgerAccount.mk _) storage)
  have codes (codeHash : B256) : (kvdb.getCode codeHash).toOption.getD none =
      (dump.accounts.entries.map (·.2.code)).find? fun code =>
        !code.isEmpty && hashSlow code = codeHash := by
    cases found : (dump.accounts.entries.map (·.2.code)).find? fun code =>
        !code.isEmpty && hashSlow code = codeHash with
    | none =>
      rw [List.find?_eq_none] at found
      have unset := holds.others codeHash fun entry member filled same =>
        found entry.2.code (List.mem_map_of_mem member) (by simp [filled, same])
      rw [unset]
      rfl
    | some code =>
      obtain ⟨entry, member, rfl⟩ := List.mem_map.mp (List.mem_of_find?_eq_some found)
      have chosen := List.find?_some found
      rw [Bool.and_eq_true, Bool.not_eq_true', decide_eq_true_eq] at chosen
      obtain ⟨filled, rfl⟩ := chosen
      rw [holds.codes entry member filled]
      rfl
  exact congrArg₂ Ledger.mk (funext accounts) (funext codes)

end AnvilState.Holds

end Opened

end Dump

end Montana.Storage
