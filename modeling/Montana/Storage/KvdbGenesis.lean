import Montana.Storage.Genesis

/-! The genesis of the key-value database, broken off at any operation. -/

namespace Montana.Storage

open Dialogue (Triple)

/-- The safe and the unsafe block number are set. -/
structure RocksDbKvDatabase.Ready [ColumnStore DB] (kvdb : RocksDbKvDatabase DB) : Prop where
  safe : ∃ blockNumber, kvdb.getSafe = .ok (some blockNumber)
  unsafeSet : ∃ blockNumber, kvdb.getUnsafe = .ok (some blockNumber)

/-- The operations between the moment in which a database exists and its last one that
matters: the rest of its creation, the codes, `set_safe` and `set_unsafe` of the one, and of
the other everything from `begin_rw` to the `set_header` of its root. -/
def Operation.Initializes {Txn : Type} : Operation Txn → Prop
  | .openCf created => created = true
  | .openCreated => True
  | .put write => write ≠ setHeader 0 ⟨0⟩
  | .beginRw => True
  | .setAccount _ _ _ => True
  | .setStorageSlot _ _ _ _ => True
  | .commitRw _ => True
  | .stateRoot => True
  | _ => False

section Puts

variable {DB Trie Txn : Type} [ColumnStore DB] [LawfulColumnStore DB] [TrieTransaction Txn]
variable [TrieDb Trie Txn] [TrieFile Trie]

namespace RocksDbKvDatabase

def reads (kvdb : RocksDbKvDatabase DB) : ColumnFamily → Bytes → Except String (Option Bytes) :=
  ColumnStore.getCf kvdb.inner

/-- The genesis header is not set, or set without a state root. -/
def Rootless (kvdb : RocksDbKvDatabase DB) : Prop :=
  kvdb.getHeader 0 = .ok none ∨ kvdb.getHeader 0 = .ok (some ⟨0⟩)

end RocksDbKvDatabase

/-- A put either leaves the reads as they were and breaks off, or changes its key. -/
theorem triple_put {put : Put} {Error : Type} {read : Except DbError Unit → Except Error Unit}
    (passes : read (.ok ()) = .ok ()) (reports : ∀ e, ∃ e', read (.error e) = .error e')
    {kvdb : RocksDbKvDatabase DB} {trie : Option Trie} {Ends : Unit → Paths DB Trie → Prop}
    {Breaks : Operation Txn → Paths DB Trie → Prop}
    (breaks : ∀ kvdb', kvdb'.reads = kvdb.reads → Breaks (.put put) ⟨some kvdb', trie⟩)
    (ends : ∀ kvdb', (∀ cf key, kvdb'.reads cf key =
        if cf = put.cf ∧ key = put.key then .ok (some put.value) else kvdb.reads cf key) →
      Ends () ⟨some kvdb', trie⟩) :
    Triple Paths.answer Paths.refuse (perform (.put put) read) ⟨some kvdb, trie⟩ Ends Breaks := by
  have reads := RocksDbKvDatabase.put_reads kvdb put
  refine Triple.call (breaks kvdb rfl) (fun message refusal refused => ?_) (fun e failed => ?_)
    fun value performed => ?_
  · cases refused
    exact reports _
  · cases outcome : kvdb.put put with
    | mk result kvdb' =>
      rw [outcome] at reads
      simp only [Paths.answer, outcome] at failed ⊢
      cases result with
      | ok done =>
        rw [passes] at failed
        cases failed
      | error e =>
        refine breaks kvdb' (funext fun cf => funext fun key => ?_)
        simpa [RocksDbKvDatabase.reads] using reads cf key
  · cases outcome : kvdb.put put with
    | mk result kvdb' =>
      rw [outcome] at reads
      simp only [Paths.answer, outcome] at performed ⊢
      cases result with
      | ok done =>
        refine ends kvdb' fun cf key => ?_
        simpa [RocksDbKvDatabase.reads] using reads cf key
      | error e =>
        obtain ⟨e', reported⟩ := reports e
        rw [reported] at performed
        cases performed

namespace RocksDbKvDatabase

omit [LawfulColumnStore DB] in
private theorem getBlockNumber_reads {kvdb : RocksDbKvDatabase DB} {key : Bytes} {which : String} :
    (∃ blockNumber, kvdb.getBlockNumber key which = .ok (some blockNumber)) ↔
      ∃ bytes, kvdb.reads .chainState key = .ok (some bytes) ∧ bytes.length = 8 := by
  rw [getBlockNumber, reads]
  rcases ColumnStore.getCf kvdb.inner .chainState key with e | _ | bytes
  · simp
  · simp
  · by_cases whole : bytes.length = 8 <;> simp [whole]

omit [LawfulColumnStore DB] in
/-- Nothing but the chain state decides whether the block numbers are set. -/
theorem ready_congr {kvdb other : RocksDbKvDatabase DB}
    (same : ∀ key, kvdb.reads .chainState key = other.reads .chainState key) :
    kvdb.Ready ↔ other.Ready := by
  have parts (db : RocksDbKvDatabase DB) : db.Ready ↔
      (∃ bytes, db.reads .chainState keySafe = .ok (some bytes) ∧ bytes.length = 8) ∧
        ∃ bytes, db.reads .chainState keyUnsafe = .ok (some bytes) ∧ bytes.length = 8 :=
    ⟨fun ⟨safe, notSafe⟩ => ⟨getBlockNumber_reads.mp safe, getBlockNumber_reads.mp notSafe⟩,
      fun ⟨safe, notSafe⟩ => ⟨getBlockNumber_reads.mpr safe, getBlockNumber_reads.mpr notSafe⟩⟩
  rw [parts, parts, same, same]

omit [LawfulColumnStore DB] in
theorem rootless_congr {kvdb other : RocksDbKvDatabase DB}
    (same : kvdb.reads .headers (toBeBytes 0) = other.reads .headers (toBeBytes 0)) :
    kvdb.Rootless ↔ other.Rootless := by
  rw [Rootless, Rootless, getHeader_congr same]

omit [LawfulColumnStore DB] in
theorem rootless_of_unset {kvdb : RocksDbKvDatabase DB}
    (unset : kvdb.reads .headers (toBeBytes 0) = .ok none) : kvdb.Rootless := by
  rw [reads] at unset
  exact .inl (by rw [getHeader, unset])

/-- What an interruption of the genesis of a new key-value database leaves: the numbers
are set unless it fell before `set_unsafe`. -/
def Started (trie : Option Trie) (operation : Operation Txn) (paths : Paths DB Trie) : Prop :=
  ∃ kvdb : RocksDbKvDatabase DB, paths = ⟨some kvdb, trie⟩ ∧ kvdb.Rootless ∧
    (kvdb.Ready ↔ ¬operation.Initializes)

omit [LawfulColumnStore DB] in
theorem not_ready {kvdb : RocksDbKvDatabase DB}
    (unset : kvdb.reads .chainState keyUnsafe = .ok none) : ¬kvdb.Ready := by
  intro ready
  obtain ⟨bytes, read, _⟩ := getBlockNumber_reads.mp ready.unsafeSet
  rw [unset] at read
  cases read

omit [LawfulColumnStore DB] in
private theorem ready_of_set {kvdb : RocksDbKvDatabase DB}
    (safe : kvdb.reads .chainState keySafe = .ok (some (toBeBytes 0)))
    (unsafeSet : kvdb.reads .chainState keyUnsafe = .ok (some (toBeBytes 0))) : kvdb.Ready :=
  ⟨getBlockNumber_reads.mpr ⟨_, safe, by simp [toBeBytes]⟩,
    getBlockNumber_reads.mpr ⟨_, unsafeSet, by simp [toBeBytes]⟩⟩

omit [LawfulColumnStore DB] in
private theorem rootless_of_zero {kvdb : RocksDbKvDatabase DB}
    (zero : kvdb.reads .headers (toBeBytes 0) = .ok (some (Header.toBytes ⟨0⟩))) : kvdb.Rootless := by
  rw [reads] at zero
  refine .inr ?_
  rw [getHeader, zero]
  exact congrArg (Except.map some) (Header.fromBytes_toBytes _)

omit [LawfulColumnStore DB] [TrieTransaction Txn] [TrieDb Trie Txn] [TrieFile Trie] in
private theorem started_of_unset {kvdb : RocksDbKvDatabase DB} {trie : Option Trie}
    {operation : Operation Txn}
    (unset : kvdb.reads .chainState keyUnsafe = .ok none)
    (headers : kvdb.reads .headers (toBeBytes 0) = .ok none) (initializes : operation.Initializes) :
    Started trie operation ⟨some kvdb, trie⟩ :=
  ⟨kvdb, rfl, rootless_of_unset headers, iff_of_false (not_ready unset) (not_not_intro initializes)⟩

/-- Only codes are stored so far. -/
def OnlyCodes (trie : Option Trie) (paths : Paths DB Trie) : Prop :=
  ∃ kvdb : RocksDbKvDatabase DB, paths = ⟨some kvdb, trie⟩ ∧
    ∀ cf key, cf ≠ .code → kvdb.reads cf key = .ok none

private theorem triple_codes (hashSlow : Bytes → B256) {paths : Paths DB Trie} {trie : Option Trie}
    (entries : List ((_ : Address) × GenesisAccount)) (onlyCodes : OnlyCodes trie paths) :
    Triple Paths.answer Paths.refuse
      (Dialogue.forEach (storeGenesisCode hashSlow) entries () : Action Txn DbError Unit) paths
      (fun _ => OnlyCodes trie) (Started trie) := by
  refine Triple.forEach (fun _ _ => OnlyCodes trie) ?_ onlyCodes
  rintro processed entry rest _ _ _ ⟨kvdb, rfl, others⟩
  unfold storeGenesisCode
  cases entry.2.code with
  | none => exact Triple.done ⟨kvdb, rfl, others⟩
  | some code =>
    refine triple_put rfl (fun e => ⟨e, rfl⟩) (fun kvdb' same => ?_) fun kvdb' written => ?_
    · rw [← same] at others
      exact started_of_unset (others _ _ (by decide)) (others _ _ (by decide))
        (by simp [Operation.Initializes, setCode, setHeader])
    · refine ⟨kvdb', rfl, fun cf key other => ?_⟩
      rw [written, if_neg fun both => other both.1]
      exact others cf key other

private theorem triple_setSafe {paths : Paths DB Trie} {trie : Option Trie}
    (onlyCodes : OnlyCodes trie paths) :
    Triple Paths.answer Paths.refuse (perform (.put (setSafe 0)) id : Action Txn DbError Unit) paths
      (fun _ after => ∃ kvdb : RocksDbKvDatabase DB, after = ⟨some kvdb, trie⟩ ∧
        kvdb.reads .chainState keySafe = .ok (some (toBeBytes 0)) ∧
        kvdb.reads .chainState keyUnsafe = .ok none ∧ ∀ key, kvdb.reads .headers key = .ok none)
      (Started trie) := by
  obtain ⟨kvdb, rfl, others⟩ := onlyCodes
  refine triple_put rfl (fun e => ⟨e, rfl⟩) (fun kvdb' same => ?_) fun kvdb' written => ?_
  · rw [← same] at others
    exact started_of_unset (others _ _ (by decide)) (others _ _ (by decide))
      (by simp [Operation.Initializes, setSafe, setHeader])
  · refine ⟨kvdb', rfl, ?_, ?_, fun key => ?_⟩
    · rw [written, if_pos (by decide)]
      rfl
    · rw [written, if_neg (by decide), others _ _ (by decide)]
    · rw [written, if_neg (by simp [setSafe]), others _ _ (by decide)]

private theorem triple_setUnsafe {kvdb : RocksDbKvDatabase DB} {trie : Option Trie}
    (safe : kvdb.reads .chainState keySafe = .ok (some (toBeBytes 0)))
    (unset : kvdb.reads .chainState keyUnsafe = .ok none)
    (headers : ∀ key, kvdb.reads .headers key = .ok none) :
    Triple Paths.answer Paths.refuse (perform (.put (setUnsafe 0)) id : Action Txn DbError Unit)
      ⟨some kvdb, trie⟩
      (fun _ after => ∃ kvdb : RocksDbKvDatabase DB, after = ⟨some kvdb, trie⟩ ∧ kvdb.Ready ∧
        ∀ key, kvdb.reads .headers key = .ok none)
      (Started trie) := by
  refine triple_put rfl (fun e => ⟨e, rfl⟩) (fun kvdb' same => ?_) fun kvdb' written => ?_
  · rw [← same] at unset headers
    exact started_of_unset unset (headers _) (by simp [Operation.Initializes, setUnsafe, setHeader])
  · refine ⟨kvdb', rfl, ready_of_set ?_ ?_, fun key => ?_⟩
    · rw [written, if_neg (by decide), safe]
    · rw [written, if_pos (by decide)]
      rfl
    · rw [written, if_neg (by simp [setUnsafe]), headers]

private theorem triple_setHeader {kvdb : RocksDbKvDatabase DB} {trie : Option Trie} (ready : kvdb.Ready)
    (unset : ∀ key, kvdb.reads .headers key = .ok none) :
    Triple Paths.answer Paths.refuse (perform (.put (setHeader 0 ⟨0⟩)) id : Action Txn DbError Unit)
      ⟨some kvdb, trie⟩
      (fun _ after => ∃ kvdb : RocksDbKvDatabase DB, after = ⟨some kvdb, trie⟩ ∧ kvdb.Rootless ∧
        kvdb.Ready)
      (Started trie) := by
  refine triple_put rfl (fun e => ⟨e, rfl⟩) (fun kvdb' same => ?_) fun kvdb' written => ?_
  · have kept : kvdb'.Ready := (ready_congr fun key => by rw [same]).mpr ready
    rw [← same] at unset
    exact ⟨kvdb', rfl, rootless_of_unset (unset _), iff_of_true kept (by simp [Operation.Initializes])⟩
  · have kept : kvdb'.Ready := (ready_congr fun key => by rw [written]; simp [setHeader]).mpr ready
    have rootless : kvdb'.Rootless := rootless_of_zero (by rw [written, if_pos ⟨rfl, rfl⟩]; rfl)
    exact ⟨kvdb', rfl, rootless, kept⟩

/-- The genesis of an empty database. -/
theorem triple_applyGenesis (hashSlow : Bytes → B256) (genesis : Genesis)
    {kvdb : RocksDbKvDatabase DB} {trie : Option Trie}
    (empty : ∀ cf key, kvdb.reads cf key = .ok none) :
    Triple Paths.answer Paths.refuse (applyGenesis hashSlow genesis : Action Txn DbError Unit)
      ⟨some kvdb, trie⟩
      (fun _ after => ∃ kvdb : RocksDbKvDatabase DB, after = ⟨some kvdb, trie⟩ ∧ kvdb.Rootless ∧
        kvdb.Ready)
      (Started trie) := by
  have onlyCodes : OnlyCodes trie ⟨some kvdb, trie⟩ := ⟨kvdb, rfl, fun cf key _ => empty cf key⟩
  refine (triple_codes hashSlow genesis.alloc.entries onlyCodes).andThen ?_
  intro _ paths onlyCodes
  refine (triple_setSafe onlyCodes).andThen ?_
  rintro _ _ ⟨kvdb, rfl, safe, unset, headers⟩
  refine (triple_setUnsafe safe unset headers).andThen ?_
  rintro _ _ ⟨kvdb, rfl, ready, headers⟩
  exact triple_setHeader ready headers

end RocksDbKvDatabase

end Puts

end Montana.Storage
