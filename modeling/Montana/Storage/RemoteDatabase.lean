import Montana.Storage.State
import Mathlib.Logic.Function.Basic

/-! The database over an RPC provider, with one cache file for each block. -/

namespace Montana.Storage.Remote

/-- What the chain says at a block; a block's hash does not depend on the block asked at. -/
structure RpcProvider where
  getTransactionCount : Address → Nat → Nat
  getBalance : Address → Nat → U256
  getCodeAt : Address → Nat → Bytes
  getStorageAt : Address → U256 → Nat → U256
  getBlockHash : Nat → B256

/-- How a request ends. -/
inductive Reply where
  | answered
  | notFound
  | failed (error : String)
  deriving DecidableEq, Repr

/-- `DbError` by its message. -/
inductive RemoteError where
  | account (address : Address) (error : String)
  | storage (address : Address) (slot : U256) (error : String)
  | block (blockNumber : Nat) (error : String)
  | blockNotFound (blockNumber : Nat)
  deriving DecidableEq, Repr

def RemoteError.display (checksum : Address → String) : RemoteError → String
  | .account address error => s!"RPC error fetching account {checksum address}: {error}"
  | .storage address slot error => s!"RPC error fetching storage {checksum address}:{slot.toNat}: {error}"
  | .block blockNumber error => s!"RPC error fetching block {blockNumber}: {error}"
  | .blockNotFound blockNumber => s!"Block {blockNumber} not found"

/-- Storage key (address, slot) as a string for JSON map keys. -/
def storageKey (checksum : Address → String) (address : Address) (slot : U256) : String :=
  checksum address ++ ":" ++ toString slot.toNat

structure BlockCache where
  accounts : Address → Option AccountInfo
  storage : String → Option U256
  blockHashes : Nat → Option B256

namespace BlockCache

def default : BlockCache := ⟨fun _ => none, fun _ => none, fun _ => none⟩

def insertAccount (self : BlockCache) (address : Address) (info : AccountInfo) : BlockCache :=
  { self with accounts := Function.update self.accounts address (some info) }

def insertStorage (self : BlockCache) (key : String) (value : U256) : BlockCache :=
  { self with storage := Function.update self.storage key (some value) }

def insertBlockHash (self : BlockCache) (blockNumber : Nat) (hash : B256) : BlockCache :=
  { self with blockHashes := Function.update self.blockHashes blockNumber (some hash) }

end BlockCache

/-- `serde_json` on caches; `Text` is what a file may contain. -/
structure CacheJson (Text : Type) where
  toStringPretty : BlockCache → Except String Text
  fromStr : Text → Except String BlockCache

/-- What is written reads back. -/
def CacheJson.Roundtrips (json : CacheJson Text) : Prop :=
  ∀ cache text, json.toStringPretty cache = .ok text → json.fromStr text = .ok cache

/-- How a save ends on the disk. A write that fails halfway leaves a text that cannot be parsed. -/
inductive SaveOutcome (json : CacheJson Text) where
  | written
  | directoryFailed
  | torn (left : { text : Text // ∃ e, json.fromStr text = .error e })

/-- The database with the cache directory, by the files' paths. -/
structure RPCDatabase (Text : Type) where
  fileCache : BlockCache
  stateBlock : Nat
  files : String → Option Text

namespace RPCDatabase

variable (checksum : Address → String) (keccak256 : Bytes → B256) {json : CacheJson Text}

def cachePath (stateBlock : Nat) : String := "static/remote-db/" ++ toString stateBlock ++ ".json"

/-- A file that is absent or cannot be parsed counts as an empty cache. -/
def loadCacheForBlock (json : CacheJson Text) (files : String → Option Text) (stateBlock : Nat) : BlockCache :=
  match files (cachePath stateBlock) with
  | none => .default
  | some contents =>
    match json.fromStr contents with
    | .error _ => .default
    | .ok cache => cache

def new (json : CacheJson Text) (files : String → Option Text) (stateBlock : Nat) : RPCDatabase Text where
  fileCache := loadCacheForBlock json files stateBlock
  stateBlock := stateBlock
  files := files

/-- Errors are logged only. -/
def saveFileCache (self : RPCDatabase Text) (outcome : SaveOutcome json) : RPCDatabase Text :=
  match outcome with
  | .directoryFailed => self
  | .written =>
    match json.toStringPretty self.fileCache with
    | .error _ => self
    | .ok text => { self with files := Function.update self.files (cachePath self.stateBlock) (some text) }
  | .torn left => { self with files := Function.update self.files (cachePath self.stateBlock) (some left.1) }

/-- The account as it is put together from three answers. -/
def accountInfo (provider : RpcProvider) (address : Address) (blockNum : Nat) : AccountInfo :=
  let bytecode := provider.getCodeAt address blockNum
  { balance := provider.getBalance address blockNum
    nonce := provider.getTransactionCount address blockNum
    codeHash := if bytecode.isEmpty then keccakEmpty else keccak256 bytecode
    code := some bytecode }

def fetchAccountInfo (provider : RpcProvider) (self : RPCDatabase Text) (address : Address) (reply : Reply)
    (outcome : SaveOutcome json) : Except RemoteError AccountInfo × RPCDatabase Text :=
  match self.fileCache.accounts address with
  | some info => (.ok info, self)
  | none =>
    match reply with
    | .failed e => (.error (.account address e), self)
    | _ =>
      let info := accountInfo keccak256 provider address self.stateBlock
      (.ok info, { self with fileCache := self.fileCache.insertAccount address info }.saveFileCache outcome)

def fetchStorage (provider : RpcProvider) (self : RPCDatabase Text) (address : Address) (slot : U256)
    (reply : Reply) (outcome : SaveOutcome json) : Except RemoteError U256 × RPCDatabase Text :=
  match self.fileCache.storage (storageKey checksum address slot) with
  | some value => (.ok value, self)
  | none =>
    match reply with
    | .failed e => (.error (.storage address slot e), self)
    | _ =>
      let value := provider.getStorageAt address slot self.stateBlock
      let fileCache := self.fileCache.insertStorage (storageKey checksum address slot) value
      (.ok value, { self with fileCache }.saveFileCache outcome)

def fetchBlockHash (provider : RpcProvider) (self : RPCDatabase Text) (blockNumber : Nat) (reply : Reply)
    (outcome : SaveOutcome json) : Except RemoteError B256 × RPCDatabase Text :=
  match self.fileCache.blockHashes blockNumber with
  | some hash => (.ok hash, self)
  | none =>
    match reply with
    | .failed e => (.error (.block blockNumber e), self)
    | .notFound => (.error (.blockNotFound blockNumber), self)
    | .answered =>
      let hash := provider.getBlockHash blockNumber
      (.ok hash, { self with fileCache := self.fileCache.insertBlockHash blockNumber hash }.saveFileCache outcome)

/-- The account always exists. -/
def basicRef (provider : RpcProvider) (self : RPCDatabase Text) (address : Address) (reply : Reply)
    (outcome : SaveOutcome json) : Except RemoteError (Option AccountInfo) × RPCDatabase Text :=
  match self.fetchAccountInfo keccak256 provider address reply outcome with
  | (.error e, self) => (.error e, self)
  | (.ok info, self) => (.ok (some info), self)

def storageRef (provider : RpcProvider) (self : RPCDatabase Text) (address : Address) (slot : U256)
    (reply : Reply) (outcome : SaveOutcome json) : Except RemoteError U256 × RPCDatabase Text :=
  self.fetchStorage checksum provider address slot reply outcome

def blockHashRef (provider : RpcProvider) (self : RPCDatabase Text) (blockNumber : Nat) (reply : Reply)
    (outcome : SaveOutcome json) : Except RemoteError B256 × RPCDatabase Text :=
  self.fetchBlockHash provider blockNumber reply outcome

/-- The cache is saved under its own block before that changes. No state root is computed. -/
def commitBlock (self : RPCDatabase Text) (blockNumber : Nat) (outcome : SaveOutcome json) :
    Except RemoteError B256 × RPCDatabase Text :=
  let saved := self.saveFileCache outcome
  (.ok 0, { saved with
    stateBlock := blockNumber
    fileCache := loadCacheForBlock json saved.files blockNumber })

end RPCDatabase

end Montana.Storage.Remote
