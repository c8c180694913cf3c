import Montana.Lib.Keyed
import Montana.Storage.State

/-! The database over a state trie and a key-value store. The trie itself is a
library; what is used of it is its interface and the laws it documents. -/

namespace Montana.Storage

/-- `triedb::account::Account`; the storage root given on a write is a placeholder. -/
structure TrieAccount where
  nonce : Nat
  balance : U256
  storageRoot : B256
  codeHash : B256
  deriving DecidableEq, Repr

/-- The transactions of `triedb`. -/
class TrieTransaction (Txn : Type) where
  getAccount : Txn → Address → Except String (Option TrieAccount)
  getStorageSlot : Txn → Address → U256 → Except String (Option U256)
  setAccount : Txn → Address → Option TrieAccount → Except String Txn
  setStorageSlot : Txn → Address → U256 → Option U256 → Except String Txn
  commitRo : Txn → Except String Unit

/-- `triedb::database::Database`; committing a write transaction changes the trie. -/
class TrieDb (Trie : Type) (Txn : outParam Type) [TrieTransaction Txn] where
  beginRo : Trie → Except String Txn
  beginRw : Trie → Except String Txn
  commitRw : Trie → Txn → Except String Trie
  stateRoot : Trie → B256

structure Header where
  stateRoot : B256
  deriving DecidableEq, Repr

class KeyValueDatabase (KV : Type) where
  getCode : KV → B256 → Except DbError (Option Bytes)
  setCode : KV → B256 → Bytes → Except DbError Unit × KV
  setHeader : KV → Nat → Header → Except DbError Unit × KV

structure TrieDatabase (Trie KV : Type) where
  inner : Trie
  kvdb : KV

namespace TrieDatabase

variable {Trie Txn KV : Type} [TrieTransaction Txn] [TrieDb Trie Txn] [KeyValueDatabase KV]

/-- A read in a transaction of its own. -/
def read (self : TrieDatabase Trie KV) (get : Txn → Except DbError α) : Except DbError α :=
  match TrieDb.beginRo self.inner with
  | .error e => .error (.beginRead e)
  | .ok tx =>
    match get tx with
    | .error e => .error e
    | .ok value =>
      match TrieTransaction.commitRo tx with
      | .error e => .error (.commitRead e)
      | .ok () => .ok value

/-- The code of an account, unless its hash is that of the empty code. -/
def loadCode (self : TrieDatabase Trie KV) (codeHash : B256) : Except DbError (Option Bytecode) :=
  if codeHash ≠ keccakEmpty then KeyValueDatabase.getCode self.kvdb codeHash else .ok none

def basicRef (self : TrieDatabase Trie KV) (address : Address) : Except DbError (Option AccountInfo) :=
  match self.read fun tx => (TrieTransaction.getAccount tx address).mapError (.getAccount address) with
  | .error e => .error e
  | .ok none => .ok none
  | .ok (some acc) =>
    match self.loadCode acc.codeHash with
    | .error e => .error e
    | .ok code => .ok (some { nonce := acc.nonce, balance := acc.balance, codeHash := acc.codeHash, code })

def codeByHashRef (self : TrieDatabase Trie KV) (codeHash : B256) : Except DbError Bytecode :=
  match KeyValueDatabase.getCode self.kvdb codeHash with
  | .error e => .error e
  | .ok code => .ok (code.getD [])

def storageRef (self : TrieDatabase Trie KV) (address : Address) (slot : U256) : Except DbError U256 :=
  match self.read fun tx =>
      (TrieTransaction.getStorageSlot tx address slot).mapError (.getStorage address slot) with
  | .error e => .error e
  | .ok value => .ok (value.getD 0)

/-- Block hashes are not stored. -/
def blockHashRef (_self : TrieDatabase Trie KV) (_blockNumber : Nat) : Except DbError B256 :=
  .ok 0

/-- The code of an updated account goes to the key-value store at once. -/
def storeCode (kvdb : KV) (info : AccountInfo) : Except DbError Unit × KV :=
  match info.code with
  | some code =>
    if !code.isEmpty && info.codeHash ≠ keccakEmpty then
      KeyValueDatabase.setCode kvdb info.codeHash code
    else (.ok (), kvdb)
  | none => (.ok (), kvdb)

def updateAccount (kvdb : KV) (tx : Txn) (address : Address) (account : Account) :
    Except DbError Txn × KV :=
  if account.isSelfdestructed then
    ((TrieTransaction.setAccount tx address none).mapError (.deleteAccount address), kvdb)
  else
    let trieAccount : TrieAccount := {
      nonce := account.info.nonce
      balance := account.info.balance
      storageRoot := 0
      codeHash := account.info.codeHash }
    match TrieTransaction.setAccount tx address (some trieAccount) with
    | .error e => (.error (.setAccount address e), kvdb)
    | .ok tx =>
      match storeCode kvdb account.info with
      | (.error e, kvdb) => (.error e, kvdb)
      | (.ok (), kvdb) => (.ok tx, kvdb)

/-- A zero value deletes the slot. -/
def storageValue (value : EvmStorageSlot) : Option U256 :=
  if value.presentValue = 0 then none else some value.presentValue

def updateSlot (address : Address) (tx : Txn) (entry : (_ : U256) × EvmStorageSlot) :
    Except DbError Txn :=
  (TrieTransaction.setStorageSlot tx address entry.1 (storageValue entry.2)).mapError
    (.setStorage address entry.1)

/-- The loop over the accounts of one transaction: the account, then its slots. -/
def applyChanges (kvdb : KV) (tx : Txn) : List ((_ : Address) × Account) → Except DbError Txn × KV
  | [] => (.ok tx, kvdb)
  | entry :: rest =>
    match updateAccount kvdb tx entry.1 entry.2 with
    | (.error e, kvdb) => (.error e, kvdb)
    | (.ok tx, kvdb) =>
      match entry.2.storage.entries.foldlM (updateSlot entry.1) tx with
      | .error e => (.error e, kvdb)
      | .ok tx => applyChanges kvdb tx rest

/-- The loop over the transactions of a block. -/
def applyTransactions (kvdb : KV) (tx : Txn) : List EvmState → Except DbError Txn × KV
  | [] => (.ok tx, kvdb)
  | changes :: rest =>
    match applyChanges kvdb tx changes.entries with
    | (.error e, kvdb) => (.error e, kvdb)
    | (.ok tx, kvdb) => applyTransactions kvdb tx rest

/-- The trie changes when its transaction commits; code and header are stored beside it. -/
def commitBlock (self : TrieDatabase Trie KV) (blockNumber : Nat)
    (transactionChanges : List EvmState) : Except DbError B256 × TrieDatabase Trie KV :=
  match TrieDb.beginRw self.inner with
  | .error e => (.error (.beginWrite e), self)
  | .ok tx =>
    match applyTransactions self.kvdb tx transactionChanges with
    | (.error e, kvdb) => (.error e, { self with kvdb })
    | (.ok tx, kvdb) =>
      match TrieDb.commitRw self.inner tx with
      | .error e => (.error (.commit e), { self with kvdb })
      | .ok inner =>
        let stateRoot := TrieDb.stateRoot inner
        match KeyValueDatabase.setHeader kvdb blockNumber ⟨stateRoot⟩ with
        | (.error e, kvdb) => (.error e, { inner, kvdb })
        | (.ok (), kvdb) => (.ok stateRoot, { inner, kvdb })

instance : Database (TrieDatabase Trie KV) where
  basicRef self address := (self.basicRef address, self)
  codeByHashRef self codeHash := (self.codeByHashRef codeHash, self)
  storageRef self address slot := (self.storageRef address slot, self)
  blockHashRef self blockNumber := (self.blockHashRef blockNumber, self)
  commit self _ := self
  commitBlock := commitBlock

end TrieDatabase

end Montana.Storage
