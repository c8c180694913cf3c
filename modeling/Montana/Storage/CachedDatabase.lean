import Montana.Storage.Laws

/-! The caching layer over a database. A hit is answered from the cache, a miss goes
to the inner database; committed states are cached at once. -/

namespace Montana.Storage

/-- `CachedDatabase`; a cache is a map from its keys to what is cached. -/
structure CachedDatabase (DB : Type) where
  accounts : Address → Option AccountInfo
  storage : Address → U256 → Option U256
  code : B256 → Option Bytecode
  blockHashes : Nat → Option B256
  inner : DB

namespace CachedDatabase

variable {DB : Type}

def new (inner : DB) : CachedDatabase DB where
  accounts _ := none
  storage _ _ := none
  code _ := none
  blockHashes _ := none
  inner

/-- The code of an account is cached unless it is empty. -/
def cacheCode (cache : B256 → Option Bytecode) (info : AccountInfo) : B256 → Option Bytecode :=
  match info.code with
  | some bytecode =>
    if !bytecode.isEmpty then Function.update cache info.codeHash (some bytecode) else cache
  | none => cache

section Reads

variable [Database DB]

/-- An account that does not exist is not cached. -/
def basicRef (self : CachedDatabase DB) (address : Address) :
    Except DbError (Option AccountInfo) × CachedDatabase DB :=
  match self.accounts address with
  | some info => (.ok (some info), self)
  | none =>
    match Database.basicRef self.inner address with
    | (.error e, inner) => (.error e, { self with inner })
    | (.ok none, inner) => (.ok none, { self with inner })
    | (.ok (some info), inner) => (.ok (some info), { self with
        inner
        accounts := Function.update self.accounts address (some info)
        code := cacheCode self.code info })

def codeByHashRef (self : CachedDatabase DB) (codeHash : B256) :
    Except DbError Bytecode × CachedDatabase DB :=
  match self.code codeHash with
  | some code => (.ok code, self)
  | none =>
    match Database.codeByHashRef self.inner codeHash with
    | (.error e, inner) => (.error e, { self with inner })
    | (.ok code, inner) =>
      if !code.isEmpty then
        (.ok code, { self with inner, code := Function.update self.code codeHash (some code) })
      else (.ok code, { self with inner })

def storageRef (self : CachedDatabase DB) (address : Address) (slot : U256) :
    Except DbError U256 × CachedDatabase DB :=
  match self.storage address slot with
  | some value => (.ok value, self)
  | none =>
    match Database.storageRef self.inner address slot with
    | (.error e, inner) => (.error e, { self with inner })
    | (.ok value, inner) => (.ok value, { self with
        inner
        storage := Function.update self.storage address
          (Function.update (self.storage address) slot (some value)) })

def blockHashRef (self : CachedDatabase DB) (blockNumber : Nat) :
    Except DbError B256 × CachedDatabase DB :=
  match self.blockHashes blockNumber with
  | some hash => (.ok hash, self)
  | none =>
    match Database.blockHashRef self.inner blockNumber with
    | (.error e, inner) => (.error e, { self with inner })
    | (.ok hash, inner) => (.ok hash, { self with
        inner
        blockHashes := Function.update self.blockHashes blockNumber (some hash) })

end Reads

/-- `DatabaseCommit::commit`: one loop for the accounts, one for the slots, one for the code. -/
def commit (self : CachedDatabase DB) (changes : EvmState) : CachedDatabase DB :=
  { self with
    accounts := Keyed.applyMap (fun account _ => some account.info) self.accounts changes
    storage := Keyed.applyMap
      (fun account slots => Keyed.applyMap (fun value _ => some value.presentValue) slots account.storage)
      self.storage changes
    code := changes.entries.foldl (fun cache entry => cacheCode cache entry.2.info) self.code }

/-- The caches are not told whether the block was committed. -/
def commitBlock [Database DB] (self : CachedDatabase DB) (blockNumber : Nat)
    (transactionChanges : List EvmState) : Except DbError B256 × CachedDatabase DB :=
  match Database.commitBlock self.inner blockNumber transactionChanges with
  | (outcome, inner) => (outcome, { self with inner })

instance [Database DB] : Database (CachedDatabase DB) where
  basicRef := basicRef
  codeByHashRef := codeByHashRef
  storageRef := storageRef
  blockHashRef := blockHashRef
  commit := commit
  commitBlock := commitBlock

end CachedDatabase

end Montana.Storage
