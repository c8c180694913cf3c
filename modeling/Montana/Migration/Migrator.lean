import Montana.Migration.Reth
import Montana.Storage.TrieDatabase

/-! The migration of a Reth database into a trie. Panics are `none`. -/

namespace Montana.Migration

open Storage

structure MigratorConfig where
  batchSize : Nat := 5000000
  logInterval : Nat := 100000
  deriving DecidableEq, Repr

structure MigrationStats where
  accountsMigrated : Nat := 0
  storageSlotsMigrated : Nat := 0
  accountErrors : Nat := 0
  storageErrors : Nat := 0
  deriving DecidableEq, Repr

inductive MigrationError where
  | source (error : String)
  | destination (error : String)
  | decode (error : String)
  deriving DecidableEq, Repr

def MigrationError.display : MigrationError → String
  | .source error => s!"source database error: {error}"
  | .destination error => s!"destination database error: {error}"
  | .decode error => s!"decode error: {error}"

/-- Key and value. -/
abbrev Entry := Bytes × Bytes

/-- What a cursor has yet to return, in its order; each step may fail. -/
abbrev Cursor := List (Except String Entry)

/-- `libmdbx::Database`: a transaction, a table in it and a cursor on that. -/
structure Mdbx where
  beginRoTxn : Except String Unit
  openTable : String → Except String Unit
  cursor : String → Except String Cursor

/-- How both migrations open their table. -/
def Mdbx.openCursor (self : Mdbx) (table : String) : Except MigrationError Cursor :=
  match self.beginRoTxn with
  | .error e => .error (.source e)
  | .ok () =>
    match self.openTable table with
    | .error e => .error (.source e)
    | .ok () => (self.cursor table).mapError .source

structure Migrator (Trie : Type) where
  source : Mdbx
  destination : Trie
  config : MigratorConfig

/-- The local variables of a migration, and the trie as of its last commit. -/
structure Batch (Trie Txn : Type) where
  destination : Trie
  dstTxn : Txn
  stats : MigrationStats
  batchCount : Nat

variable {Trie Txn : Type} [TrieTransaction Txn] [TrieDb Trie Txn]

/-- A migration that gave up, and the trie it left behind. -/
structure Failure (Trie : Type) where
  error : MigrationError
  destination : Trie

namespace Batch

/-- `begin_rw` for the next batch. -/
def start (destination : Trie) (stats : MigrationStats) : Except (Failure Trie) (Batch Trie Txn) :=
  match TrieDb.beginRw destination with
  | .error e => .error ⟨.destination e, destination⟩
  | .ok dstTxn => .ok { destination, dstTxn, stats, batchCount := 0 }

def commit (self : Batch Trie Txn) : Except (Failure Trie) Trie :=
  match TrieDb.commitRw self.destination self.dstTxn with
  | .error e => .error ⟨.destination e, self.destination⟩
  | .ok destination => .ok destination

/-- The end of both loop bodies: the entry is counted, progress is logged every so many
migrated entries (the remainder by a zero interval panics), and a full batch is committed. -/
def endEntry (self : Batch Trie Txn) (config : MigratorConfig) :
    Option (Except (Failure Trie) (Batch Trie Txn)) :=
  if config.logInterval = 0 then none
  else if self.batchCount + 1 ≥ config.batchSize then
    match self.commit with
    | .error failure => some (.error failure)
    | .ok destination => some (start destination self.stats)
  else some (.ok { self with batchCount := self.batchCount + 1 })

/-- The body of the loop over the accounts. -/
def processAccountEntry (self : Batch Trie Txn) (entry : Entry) : Option (Batch Trie Txn) :=
  match addressFromSlice entry.1 with
  | none => none
  | some address =>
    match RethAccount.fromCompact entry.2 with
    | none => none
    | some (.ok rethAccount) =>
      match TrieTransaction.setAccount self.dstTxn address (some rethAccount.toTriedbAccount) with
      | .error _ => some { self with stats.accountErrors := self.stats.accountErrors + 1 }
      | .ok dstTxn =>
        some { self with dstTxn, stats.accountsMigrated := self.stats.accountsMigrated + 1 }
    | some (.error _) => some { self with stats.accountErrors := self.stats.accountErrors + 1 }

/-- The loop of `migrate_accounts` over an iterator. -/
def forEntries (config : MigratorConfig) (process : Batch Trie Txn → Entry → Option (Batch Trie Txn)) :
    Cursor → Batch Trie Txn → Option (Except (Failure Trie) (Batch Trie Txn))
  | [], batch => some (.ok batch)
  | .error e :: _, batch => some (.error ⟨.source e, batch.destination⟩)
  | .ok entry :: rest, batch =>
    match process batch entry with
    | none => none
    | some batch =>
      match batch.endEntry config with
      | none => none
      | some (.error failure) => some (.error failure)
      | some (.ok batch) => forEntries config process rest batch

/-- The loop of `migrate_storage`, which moves the cursor on at the end of its body. -/
def whileEntries (config : MigratorConfig) (process : Batch Trie Txn → Entry → Option (Batch Trie Txn))
    (item : Option Entry) : Cursor → Batch Trie Txn → Option (Except (Failure Trie) (Batch Trie Txn))
  | cursor, batch =>
    match item with
    | none => some (.ok batch)
    | some entry =>
      match process batch entry with
      | none => none
      | some batch =>
        match batch.endEntry config with
        | none => none
        | some (.error failure) => some (.error failure)
        | some (.ok batch) =>
          match cursor with
          -- without a next item the loop ends
          | [] => some (.ok batch)
          | .error e :: _ => some (.error ⟨.source e, batch.destination⟩)
          | .ok next :: rest => whileEntries config process (some next) rest batch

end Batch

namespace Migrator

/-- A slot of the account is set to what was decoded for it. -/
def processStorageEntry (dstTxn : Txn) (address : Address) (value : Bytes) (stats : MigrationStats) :
    Txn × MigrationStats :=
  match decodeStorageEntry value with
  | .ok entry =>
    match TrieTransaction.setStorageSlot dstTxn address entry.slot (some entry.value) with
    | .error _ => (dstTxn, { stats with storageErrors := stats.storageErrors + 1 })
    | .ok dstTxn => (dstTxn, { stats with storageSlotsMigrated := stats.storageSlotsMigrated + 1 })
  | .error _ => (dstTxn, { stats with storageErrors := stats.storageErrors + 1 })

/-- The body of the loop over the storage. -/
def processStorageItem (batch : Batch Trie Txn) (entry : Entry) : Option (Batch Trie Txn) :=
  match addressFromSlice entry.1 with
  | none => none
  | some address =>
    let (dstTxn, stats) := processStorageEntry batch.dstTxn address entry.2 batch.stats
    some { batch with dstTxn, stats }

def migrateAccounts (self : Migrator Trie) : Option (Except (Failure Trie) (MigrationStats × Trie)) :=
  match self.source.openCursor "PlainAccountState" with
  | .error e => some (.error ⟨e, self.destination⟩)
  | .ok cursor =>
    match Batch.start self.destination {} with
    | .error failure => some (.error failure)
    | .ok batch =>
      match Batch.forEntries self.config Batch.processAccountEntry cursor batch with
      | none => none
      | some (.error failure) => some (.error failure)
      | some (.ok batch) =>
        match batch.commit with
        | .error failure => some (.error failure)
        | .ok destination => some (.ok (batch.stats, destination))

def migrateStorage (self : Migrator Trie) : Option (Except (Failure Trie) (MigrationStats × Trie)) :=
  match self.source.openCursor "PlainStorageState" with
  | .error e => some (.error ⟨e, self.destination⟩)
  | .ok cursor =>
    match Batch.start self.destination {} with
    | .error failure => some (.error failure)
    | .ok batch =>
      let looped :=
        match cursor with
        | [] => Batch.whileEntries self.config processStorageItem none [] batch
        | .error e :: _ => some (.error ⟨.source e, batch.destination⟩)
        | .ok first :: rest => Batch.whileEntries self.config processStorageItem (some first) rest batch
      match looped with
      | none => none
      | some (.error failure) => some (.error failure)
      | some (.ok batch) =>
        match batch.commit with
        | .error failure => some (.error failure)
        | .ok destination => some (.ok (batch.stats, destination))

/-- Accounts come first, so that the slots find theirs. -/
def migrateAll (self : Migrator Trie) : Option (Except (Failure Trie) (MigrationStats × Trie)) :=
  match self.migrateAccounts with
  | none => none
  | some (.error failure) => some (.error failure)
  | some (.ok (accountStats, destination)) =>
    match { self with destination }.migrateStorage with
    | none => none
    | some (.error failure) => some (.error failure)
    | some (.ok (storageStats, destination)) =>
      some (.ok ({
        accountsMigrated := accountStats.accountsMigrated
        accountErrors := accountStats.accountErrors
        storageSlotsMigrated := storageStats.storageSlotsMigrated
        storageErrors := storageStats.storageErrors }, destination))

end Migrator

end Montana.Migration
