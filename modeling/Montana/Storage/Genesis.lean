import Montana.Lib.Interruption
import Montana.Storage.RocksDb

/-! Opening the two databases of a validator, and their genesis when they are created. -/

namespace Montana.Storage

open Dialogue (forEach)

structure GenesisAccount where
  nonce : Option Nat
  balance : U256
  code : Option Bytes
  storage : Option (AList fun _ : U256 => B256)

/-- The allocations are gone through in the order in which they are listed. -/
structure Genesis where
  alloc : AList fun _ : Address => GenesisAccount

/-- What the `io::Error::other` of `TrieDatabase::apply_genesis` says. -/
inductive GenesisFailure where
  | beginWrite (error : String)
  | storeCode (error : DbError)
  | setAccount (address : Address) (error : String)
  | setStorage (address : Address) (slot : U256) (error : String)
  | commit (error : String)
  | storeHeader (error : DbError)
  deriving DecidableEq, Repr

def GenesisFailure.display (checksum : Address → String) : GenesisFailure → String
  | .beginWrite error => s!"Failed to begin write transaction: {error}"
  | .storeCode error => s!"Failed to store genesis code: {error.display checksum}"
  | .setAccount address error => s!"Failed to set genesis account {checksum address}: {error}"
  | .setStorage address slot error =>
    s!"Failed to set genesis storage {checksum address}:{slot.toNat}: {error}"
  | .commit error => s!"Failed to commit genesis state: {error}"
  | .storeHeader error => s!"Failed to store genesis header: {error.display checksum}"

/-- `triedb::database::OpenError`; an I/O error is told apart by its kind. -/
inductive OpenError where
  | notFound (message : String)
  | io (message : String)
  | genesis (failure : GenesisFailure)
  | other (message : String)
  deriving DecidableEq, Repr

/-- How the node names the two failures. -/
inductive SetupError where
  | kvdb (error : DbError)
  | trieDb (error : OpenError)
  deriving DecidableEq, Repr

/-- `TrieDb::create_new`. -/
class TrieFile (Trie : Type) where
  createNew : Trie

/-- A new trie holds no account. -/
class LawfulTrieFile (Trie : Type) (Txn : outParam Type) [TrieTransaction Txn] [TrieDb Trie Txn]
    [LawfulTransaction Txn] [LawfulTrieDb Trie Txn] [TrieFile Trie] : Prop where
  view_createNew : LawfulTrieDb.view (TrieFile.createNew : Trie) = fun _ => none

/-- What is at the two paths. -/
structure Paths (DB Trie : Type) where
  kvdb : Option (RocksDbKvDatabase DB)
  trie : Option Trie

/-- The operations of the two databases that `open_or_create` uses. `DB::open_cf` and
`TrieDb::create_new` are two each: what makes a missing database exist at its path, and all
that follows. So one that fails may have left nothing, or an empty database. -/
inductive Operation (Txn : Type) where
  | kvExists
  | createMissing
  | openCf (created : Bool)
  | put (put : Put)
  | openTrie
  | createTrie
  | openCreated
  | beginRw
  | setAccount (tx : Txn) (address : Address) (account : TrieAccount)
  | setStorageSlot (tx : Txn) (address : Address) (slot : U256) (value : Option U256)
  | commitRw (tx : Txn)
  | stateRoot

abbrev Operation.Answer {Txn : Type} : Operation Txn → Type
  | .kvExists => Bool
  | .createMissing => Except String Bool
  | .openCf _ => Except String Unit
  | .put _ => Except DbError Unit
  | .openTrie => Except OpenError Unit
  | .createTrie => Except OpenError Unit
  | .openCreated => Except OpenError Unit
  | .beginRw => Except String Txn
  | .setAccount _ _ _ => Except String Txn
  | .setStorageSlot _ _ _ _ => Except String Txn
  | .commitRw _ => Except String Unit
  | .stateRoot => B256

abbrev Action (Txn Error Value : Type) : Type :=
  Dialogue (Operation Txn) Operation.Answer (Except Error Value)

def perform {Txn Error Value : Type} (operation : Operation Txn)
    (read : operation.Answer → Except Error Value) : Action Txn Error Value :=
  Dialogue.call operation read

section Source

variable {Txn : Type} (hashSlow : Bytes → B256)

namespace RocksDbKvDatabase

/-- The code of one account, if it has any. -/
def storeGenesisCode (_ : Unit) (entry : (_ : Address) × GenesisAccount) : Action Txn DbError Unit :=
  match entry.2.code with
  | some code => perform (.put (setCode (hashSlow code) code)) id
  | none => .done (.ok ())

/-- The actual state root will be set after the trie applies genesis. -/
def applyGenesis (genesis : Genesis) : Action Txn DbError Unit :=
  (forEach (storeGenesisCode hashSlow) genesis.alloc.entries ()).andThen fun _ =>
  (perform (.put (setSafe 0)) id).andThen fun _ =>
  (perform (.put (setUnsafe 0)) id).andThen fun _ =>
  perform (.put (setHeader 0 ⟨0⟩)) id

def openFailed {Value : Type} (outcome : Except String Value) : Except DbError Value :=
  outcome.mapError fun e => .keyValue s!"Failed to open RocksDB: {e}"

/-- `DB::open_cf` with `create_if_missing`. -/
def openCf : Action Txn DbError Unit :=
  (perform .createMissing openFailed).andThen fun created =>
  perform (.openCf created) openFailed

/-- Whether the path exists decides whether the database is initialized. -/
def openOrCreate (genesis : Genesis) : Action Txn DbError Unit :=
  (perform .kvExists .ok).andThen fun found =>
  openCf.andThen fun _ =>
  if !found then applyGenesis hashSlow genesis else .done (.ok ())

end RocksDbKvDatabase

namespace TrieDatabase

/-- A zero value deletes the slot. -/
def genesisValue (value : B256) : Option U256 := if value = 0 then none else some value

def setGenesisSlot (address : Address) (tx : Txn) (entry : (_ : U256) × B256) : Action Txn OpenError Txn :=
  perform (.setStorageSlot tx address entry.1 (genesisValue entry.2))
    (·.mapError fun e => .genesis (.setStorage address entry.1 e))

/-- The code of an account is stored before the account. -/
def storeGenesisCode (account : GenesisAccount) : Action Txn OpenError B256 :=
  match account.code with
  | some code =>
    (perform (.put (setCode (hashSlow code) code)) (·.mapError fun e => .genesis (.storeCode e))).andThen
      fun _ => .done (.ok (hashSlow code))
  | none => .done (.ok keccakEmpty)

def setGenesisAccount (tx : Txn) (entry : (_ : Address) × GenesisAccount) : Action Txn OpenError Txn :=
  (storeGenesisCode hashSlow entry.2).andThen fun codeHash =>
  (perform (.setAccount tx entry.1
      { nonce := entry.2.nonce.getD 0, balance := entry.2.balance, storageRoot := 0, codeHash })
    (·.mapError fun e => .genesis (.setAccount entry.1 e))).andThen fun tx =>
  match entry.2.storage with
  | some storage => forEach (setGenesisSlot entry.1) storage.entries tx
  | none => .done (.ok tx)

def applyGenesis (genesis : Genesis) : Action Txn OpenError Unit :=
  (perform .beginRw (·.mapError fun e => .genesis (.beginWrite e))).andThen fun tx =>
  (forEach (setGenesisAccount hashSlow) genesis.alloc.entries tx).andThen fun tx =>
  (perform (.commitRw tx) (·.mapError fun e => .genesis (.commit e))).andThen fun _ =>
  (perform .stateRoot .ok).andThen fun root =>
  perform (.put (setHeader 0 ⟨root⟩)) (·.mapError fun e => .genesis (.storeHeader e))

/-- The arms of the match on what `TrieDb::open` returned. -/
def found : Except OpenError Unit → Except OpenError Bool
  | .ok () => .ok true
  | .error (.notFound _) => .ok false
  | .error e => .error e

/-- `TrieDb::create_new`. -/
def createNew : Action Txn OpenError Unit :=
  (perform .createTrie id).andThen fun _ =>
  perform .openCreated id

def openOrCreate (genesis : Genesis) : Action Txn OpenError Unit :=
  (perform .openTrie found).andThen fun opened =>
  if opened then .done (.ok ())
  else createNew.andThen fun _ => applyGenesis hashSlow genesis

end TrieDatabase

/-- The two databases of a validator, as the node opens them. -/
def openBoth (genesis : Genesis) : Action Txn SetupError Unit :=
  ((RocksDbKvDatabase.openOrCreate hashSlow genesis).mapError .kvdb).andThen fun _ =>
  (TrieDatabase.openOrCreate hashSlow genesis).mapError .trieDb

end Source

namespace Paths

variable {DB Trie Txn : Type} [ColumnStore DB] [TrieTransaction Txn] [TrieDb Trie Txn] [TrieFile Trie]

/-- An operation that is performed. -/
def answer (self : Paths DB Trie) : (operation : Operation Txn) → operation.Answer × Paths DB Trie
  | .kvExists => (self.kvdb.isSome, self)
  | .createMissing => (.ok self.kvdb.isNone, { self with
      kvdb := some (self.kvdb.getD ⟨ColumnStore.create⟩) })
  | .openCf _ => (.ok (), self)
  | .put put =>
    match self.kvdb with
    | some kvdb =>
      match kvdb.put put with
      | (result, kvdb) => (result, { self with kvdb := some kvdb })
    | none => (.error (put.error "not open"), self)
  | .openTrie =>
    match self.trie with
    | some _ => (.ok (), self)
    | none => (.error (.notFound "No such file or directory"), self)
  | .createTrie => (.ok (), { self with trie := some TrieFile.createNew })
  | .openCreated => (.ok (), self)
  | .beginRw =>
    match self.trie with
    | some trie => (TrieDb.beginRw trie, self)
    | none => (.error "not open", self)
  | .setAccount tx address account => (TrieTransaction.setAccount tx address (some account), self)
  | .setStorageSlot tx address slot value => (TrieTransaction.setStorageSlot tx address slot value, self)
  | .commitRw tx =>
    match self.trie with
    | some trie =>
      match TrieDb.commitRw trie tx with
      | .ok trie => (.ok (), { self with trie := some trie })
      | .error e => (.error e, self)
    | none => (.error "not open", self)
  | .stateRoot => ((self.trie.map TrieDb.stateRoot).getD 0, self)

/-- An operation that fails does nothing; the two that cannot fail are performed. A
`DB::open_cf` that fails has thus left nothing, or the database of its first operation. -/
def refuse : (operation : Operation Txn) → String → Option operation.Answer
  | .kvExists, _ => none
  | .createMissing, message => some (.error message)
  | .openCf _, message => some (.error message)
  | .put put, message => some (.error (put.error message))
  | .openTrie, message => some (.error (.io message))
  | .createTrie, message => some (.error (.io message))
  | .openCreated, message => some (.error (.io message))
  | .beginRw, message => some (.error message)
  | .setAccount _ _ _, message => some (.error message)
  | .setStorageSlot _ _ _ _, message => some (.error message)
  | .commitRw _, message => some (.error message)
  | .stateRoot, _ => none

/-- One attempt to open both databases, under these fates. -/
def attempt (hashSlow : Bytes → B256) (genesis : Genesis) (self : Paths DB Trie)
    (fates : List Dialogue.Fate) :
    Dialogue.Ending (Operation Txn) (Except SetupError Unit) (Paths DB Trie) :=
  (openBoth hashSlow genesis).interrupted answer refuse fates none self

end Paths

end Montana.Storage
