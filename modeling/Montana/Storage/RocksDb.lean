import Montana.Lib.LittleEndian
import Montana.Storage.CommitFailure

/-! The key-value database over RocksDB: codes, headers and the chain state, each in a
column family of its own. -/

namespace Montana.Storage

inductive ColumnFamily where
  | code
  | headers
  | chainState
  deriving DecidableEq, Repr

/-- `rocksdb::DB`: what is used of it. -/
class ColumnStore (DB : Type) where
  create : DB
  getCf : DB → ColumnFamily → Bytes → Except String (Option Bytes)
  putCf : DB → ColumnFamily → Bytes → Bytes → Except String Unit × DB

/-- A new database is empty, a put is read back under its key, and one that fails
stores nothing. -/
class LawfulColumnStore (DB : Type) [ColumnStore DB] : Prop where
  getCf_create : ∀ cf key, ColumnStore.getCf (ColumnStore.create : DB) cf key = .ok none
  getCf_putCf : ∀ {db db' : DB} {cf : ColumnFamily} {key value : Bytes},
    ColumnStore.putCf db cf key value = (.ok (), db') → ∀ cf' key',
      ColumnStore.getCf db' cf' key' =
        if cf' = cf ∧ key' = key then .ok (some value) else ColumnStore.getCf db cf' key'
  getCf_failed : ∀ {db db' : DB} {cf : ColumnFamily} {key value : Bytes} {e : String},
    ColumnStore.putCf db cf key value = (.error e, db') → ColumnStore.getCf db' = ColumnStore.getCf db

/-- `u64::to_be_bytes`. -/
def toBeBytes (number : Nat) : Bytes := (LittleEndian.encode 8 number).reverse

def fromBeBytes (bytes : Bytes) : Nat := LittleEndian.decode bytes.reverse

/-- The 32 bytes of a hash. -/
def hashBytes (hash : B256) : Bytes := (LittleEndian.encode 32 hash.toNat).reverse

def hashOfBytes (bytes : Bytes) : B256 := BitVec.ofNat 256 (LittleEndian.decode bytes.reverse)

theorem hashOfBytes_hashBytes (hash : B256) : hashOfBytes (hashBytes hash) = hash := by
  rw [hashOfBytes, hashBytes, List.reverse_reverse,
    LittleEndian.decode_encode_of_lt (show hash.toNat < 256 ^ 32 from hash.isLt)]
  exact BitVec.ofNat_toNat 256 hash

theorem hashBytes_injective : Function.Injective hashBytes :=
  Function.LeftInverse.injective hashOfBytes_hashBytes

@[simp] theorem length_hashBytes (hash : B256) : (hashBytes hash).length = 32 := by
  simp [hashBytes]

namespace Header

def toBytes (self : Header) : Bytes := hashBytes self.stateRoot

def fromBytes (bytes : Bytes) : Except DbError Header :=
  if bytes.length ≠ 32 then
    .error (.keyValue s!"Invalid header bytes length: expected 32, got {bytes.length}")
  else .ok ⟨hashOfBytes bytes⟩

theorem fromBytes_toBytes (self : Header) : fromBytes self.toBytes = .ok self := by
  simp [fromBytes, toBytes, hashOfBytes_hashBytes]

end Header

/-- `b"safe"` and `b"unsafe"`. -/
def keySafe : Bytes := [115, 97, 102, 101]

def keyUnsafe : Bytes := [117, 110, 115, 97, 102, 101]

/-- One write, with what its error says. -/
structure Put where
  cf : ColumnFamily
  key : Bytes
  value : Bytes
  what : String
  deriving DecidableEq, Repr

def Put.error (put : Put) (e : String) : DbError := .keyValue s!"Failed to set {put.what}: {e}"

def setCode (codeHash : B256) (code : Bytes) : Put := ⟨.code, hashBytes codeHash, code, "code"⟩

def setHeader (blockNumber : Nat) (header : Header) : Put :=
  ⟨.headers, toBeBytes blockNumber, header.toBytes, "header"⟩

def setSafe (blockNumber : Nat) : Put := ⟨.chainState, keySafe, toBeBytes blockNumber, "safe block"⟩

def setUnsafe (blockNumber : Nat) : Put :=
  ⟨.chainState, keyUnsafe, toBeBytes blockNumber, "unsafe block"⟩

structure RocksDbKvDatabase (DB : Type) where
  inner : DB

namespace RocksDbKvDatabase

variable {DB : Type} [ColumnStore DB]

def put (self : RocksDbKvDatabase DB) (put : Put) : Except DbError Unit × RocksDbKvDatabase DB :=
  match ColumnStore.putCf self.inner put.cf put.key put.value with
  | (.ok (), inner) => (.ok (), ⟨inner⟩)
  | (.error e, inner) => (.error (put.error e), ⟨inner⟩)

def getCode (self : RocksDbKvDatabase DB) (codeHash : B256) : Except DbError (Option Bytes) :=
  (ColumnStore.getCf self.inner .code (hashBytes codeHash)).mapError
    fun e => .keyValue s!"Failed to get code: {e}"

def getHeader (self : RocksDbKvDatabase DB) (blockNumber : Nat) : Except DbError (Option Header) :=
  match ColumnStore.getCf self.inner .headers (toBeBytes blockNumber) with
  | .ok (some bytes) => (Header.fromBytes bytes).map some
  | .ok none => .ok none
  | .error e => .error (.keyValue s!"Failed to get header: {e}")

/-- `get_safe` and `get_unsafe` differ in the key and in what their errors say. -/
def getBlockNumber (self : RocksDbKvDatabase DB) (key : Bytes) (which : String) :
    Except DbError (Option Nat) :=
  match ColumnStore.getCf self.inner .chainState key with
  | .ok (some bytes) =>
    if bytes.length ≠ 8 then
      .error (.keyValue
        s!"Invalid {which} block number bytes length: expected 8, got {bytes.length}")
    else .ok (some (fromBeBytes bytes))
  | .ok none => .ok none
  | .error e => .error (.keyValue s!"Failed to get {which} block: {e}")

def getSafe (self : RocksDbKvDatabase DB) : Except DbError (Option Nat) :=
  self.getBlockNumber keySafe "safe"

def getUnsafe (self : RocksDbKvDatabase DB) : Except DbError (Option Nat) :=
  self.getBlockNumber keyUnsafe "unsafe"

instance : KeyValueDatabase (RocksDbKvDatabase DB) where
  getCode := getCode
  setCode self codeHash code := self.put (setCode codeHash code)
  setHeader self blockNumber header := self.put (setHeader blockNumber header)

instance : HeaderDatabase (RocksDbKvDatabase DB) where
  getHeader := getHeader

variable [LawfulColumnStore DB]

/-- What a put does to the reads: its own key changes, unless the put failed. -/
theorem put_reads (self : RocksDbKvDatabase DB) (put : Put) (cf : ColumnFamily) (key : Bytes) :
    ColumnStore.getCf (self.put put).2.inner cf key =
      if (self.put put).1 = .ok () ∧ cf = put.cf ∧ key = put.key then .ok (some put.value)
      else ColumnStore.getCf self.inner cf key := by
  unfold RocksDbKvDatabase.put
  cases written : ColumnStore.putCf self.inner put.cf put.key put.value with
  | mk result inner =>
    cases result with
    | error e => simp [LawfulColumnStore.getCf_failed written]
    | ok done => simp [LawfulColumnStore.getCf_putCf written]

private theorem put_reads_of_ne {self : RocksDbKvDatabase DB} {put : Put} {cf : ColumnFamily} {key : Bytes}
    (different : cf = put.cf → key ≠ put.key) :
    ColumnStore.getCf (self.put put).2.inner cf key = ColumnStore.getCf self.inner cf key := by
  rw [put_reads, if_neg]
  rintro ⟨_, sameFamily, sameKey⟩
  exact different sameFamily sameKey

omit [LawfulColumnStore DB] in
theorem getCode_congr {self other : RocksDbKvDatabase DB} {codeHash : B256}
    (same : ColumnStore.getCf self.inner .code (hashBytes codeHash) =
      ColumnStore.getCf other.inner .code (hashBytes codeHash)) :
    self.getCode codeHash = other.getCode codeHash :=
  congrArg (Except.mapError _) same

omit [LawfulColumnStore DB] in
theorem getHeader_congr {self other : RocksDbKvDatabase DB} {blockNumber : Nat}
    (same : ColumnStore.getCf self.inner .headers (toBeBytes blockNumber) =
      ColumnStore.getCf other.inner .headers (toBeBytes blockNumber)) :
    self.getHeader blockNumber = other.getHeader blockNumber := by
  rw [getHeader, same, ← getHeader]

/-- RocksDB keeps what `TrieDatabase` relies on. -/
instance : LawfulKeyValueDatabase (RocksDbKvDatabase DB) where
  getCode_setCode_ne kvdb codeHash other code different :=
    getCode_congr (put_reads_of_ne fun _ same => different (hashBytes_injective same))
  getCode_setCode kvdb codeHash code stored read := by
    have reads := put_reads kvdb (setCode codeHash code) .code (hashBytes codeHash)
    by_cases written : (kvdb.put (setCode codeHash code)).1 = .ok ()
    · rw [if_pos ⟨written, rfl, rfl⟩] at reads
      have read : (kvdb.put (setCode codeHash code)).2.getCode codeHash = .ok (some stored) := read
      rw [getCode, reads] at read
      cases read
      exact .inl rfl
    · rw [if_neg fun both => written both.1] at reads
      exact .inr ((getCode_congr reads).symm.trans read)
  getCode_setHeader kvdb blockNumber header codeHash :=
    getCode_congr (put_reads_of_ne fun same => by cases same)

instance : LawfulHeaderDatabase (RocksDbKvDatabase DB) where
  getHeader_setCode kvdb codeHash code :=
    funext fun _ => getHeader_congr (put_reads_of_ne fun same => by cases same)
  getHeader_setHeader {kvdb kvdb'} blockNumber header written := by
    have reads := put_reads kvdb (setHeader blockNumber header) .headers (toBeBytes blockNumber)
    have written : kvdb.put (setHeader blockNumber header) = (.ok (), kvdb') := written
    rw [written, if_pos ⟨rfl, rfl, rfl⟩] at reads
    have read : kvdb'.getHeader blockNumber = (Header.fromBytes header.toBytes).map some := by
      rw [getHeader, reads]
      rfl
    exact read.trans (by rw [Header.fromBytes_toBytes]; rfl)
  getHeader_failed {kvdb kvdb'} blockNumber header e failed := by
    have failed : kvdb.put (setHeader blockNumber header) = (.error e, kvdb') := failed
    refine funext fun other => getHeader_congr ?_
    have reads := put_reads kvdb (setHeader blockNumber header) .headers (toBeBytes other)
    rw [failed, if_neg fun both => by cases both.1] at reads
    exact reads

end RocksDbKvDatabase

end Montana.Storage
