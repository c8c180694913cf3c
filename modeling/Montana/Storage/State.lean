import Mathlib.Data.List.AList
import Montana.Common.Primitives

/-! Accounts as the EVM hands them out, and the errors of the databases. -/

namespace Montana.Storage

abbrev Address := BitVec 160
abbrev U256 := BitVec 256
abbrev B256 := BitVec 256

/-- The hash of the empty code. -/
def keccakEmpty : B256 := 0xc5d2460186f7233c927e7db2dcc703c0e500b653ca82273b7bfad8045d85a470#256

/-- `Bytecode`, by its original bytes. -/
abbrev Bytecode := Bytes

structure AccountInfo where
  balance : U256
  nonce : Nat
  codeHash : B256
  code : Option Bytecode
  deriving DecidableEq, Repr

structure EvmStorageSlot where
  presentValue : U256
  deriving DecidableEq, Repr

/-- An account with its status flags and the slots that were accessed. -/
structure Account where
  info : AccountInfo
  touched : Bool
  created : Bool
  selfdestructed : Bool
  loadedAsNotExisting : Bool
  storage : AList fun _ : U256 => EvmStorageSlot

def Account.isSelfdestructed (account : Account) : Bool := account.selfdestructed

/-- The accounts accessed by one transaction. Each iteration over the map goes
through its entries in the order in which they are listed. -/
abbrev EvmState := AList fun _ : Address => Account

/-- `DbError` by its message, whose parts are kept apart. -/
inductive DbError where
  | keyValue (message : String)
  | beginRead (error : String)
  | getAccount (address : Address) (error : String)
  | getStorage (address : Address) (slot : U256) (error : String)
  | commitRead (error : String)
  | beginWrite (error : String)
  | deleteAccount (address : Address) (error : String)
  | setAccount (address : Address) (error : String)
  | setStorage (address : Address) (slot : U256) (error : String)
  | commit (error : String)
  deriving DecidableEq, Repr

/-- The message, given how an address is written out. -/
def DbError.display (checksum : Address → String) : DbError → String
  | .keyValue message => message
  | .beginRead error => s!"Failed to begin read transaction: {error}"
  | .getAccount address error => s!"Failed to get account {checksum address}: {error}"
  | .getStorage address slot error =>
    s!"Failed to get storage {checksum address}:{slot.toNat}: {error}"
  | .commitRead error => s!"Failed to commit read transaction: {error}"
  | .beginWrite error => s!"Failed to begin write transaction: {error}"
  | .deleteAccount address error => s!"Failed to delete account {checksum address}: {error}"
  | .setAccount address error => s!"Failed to set account {checksum address}: {error}"
  | .setStorage address slot error =>
    s!"Failed to set storage {checksum address}:{slot.toNat}: {error}"
  | .commit error => s!"Failed to commit transaction: {error}"

/-- The block state of a database, as the executor and the EVM use it. Reads may
fill caches, and clones of a database share all their state. -/
class Database (DB : Type) where
  basicRef : DB → Address → Except DbError (Option AccountInfo) × DB
  codeByHashRef : DB → B256 → Except DbError Bytecode × DB
  storageRef : DB → Address → U256 → Except DbError U256 × DB
  blockHashRef : DB → Nat → Except DbError B256 × DB
  commit : DB → EvmState → DB
  commitBlock : DB → Nat → List EvmState → Except DbError B256 × DB

/-- A read of a database, by the EVM or by anyone else who shares it. -/
inductive Read where
  | basic (address : Address)
  | codeByHash (codeHash : B256)
  | storage (address : Address) (slot : U256)
  | blockHash (blockNumber : Nat)
  deriving DecidableEq, Repr

abbrev Read.Answer : Read → Type
  | .basic _ => Except DbError (Option AccountInfo)
  | .codeByHash _ => Except DbError Bytecode
  | .storage _ _ => Except DbError U256
  | .blockHash _ => Except DbError B256

/-- The database answers, and may cache what it answered. -/
def Database.answer [Database DB] (db : DB) : (read : Read) → read.Answer × DB
  | .basic address => basicRef db address
  | .codeByHash codeHash => codeByHashRef db codeHash
  | .storage address slot => storageRef db address slot
  | .blockHash blockNumber => blockHashRef db blockNumber

end Montana.Storage
