import Montana.Storage.RemoteDatabase
import Montana.Lib.LittleEndian
import Montana.Lib.Runs
import Std.Data.String.ToNat

/-! Each cache file holds what the chain says at its own block, whatever blocks the database
is moved to. -/

namespace Montana.Storage.Remote

/-- How addresses are written out: no two in the same way, and without a colon. -/
structure AddressDisplay (checksum : Address → String) : Prop where
  injective : Function.Injective checksum
  noColon : ∀ address, ':' ∉ (checksum address).toList

private theorem storageKey_injective {checksum : Address → String} (display : AddressDisplay checksum)
    {address other : Address} {slot slot' : U256}
    (same : storageKey checksum address slot = storageKey checksum other slot') :
    address = other ∧ slot = slot' := by
  have lists := congrArg String.toList same
  have colonList : ":".toList = [':'] := by simp
  simp only [storageKey, String.toList_append, List.append_assoc, colonList, List.singleton_append] at lists
  have heads := congrArg (List.takeWhile (· ≠ ':')) lists
  have tails := congrArg (List.dropWhile (· ≠ ':')) lists
  have letters : ∀ address, ∀ c ∈ (checksum address).toList, (decide (c ≠ ':')) = true := by
    intro address c member
    apply decide_eq_true
    rintro rfl
    exact display.noColon address member
  rw [List.takeWhile_append_of_pos (letters address), List.takeWhile_append_of_pos (letters other)] at heads
  rw [List.dropWhile_append_of_pos (letters address), List.dropWhile_append_of_pos (letters other)] at tails
  rw [List.takeWhile_cons_of_neg (by simp), List.takeWhile_cons_of_neg (by simp), List.append_nil,
    List.append_nil] at heads
  rw [List.dropWhile_cons_of_neg (by simp), List.dropWhile_cons_of_neg (by simp)] at tails
  constructor
  · exact display.injective (String.toList_inj.mp heads)
  · apply BitVec.eq_of_toNat_eq
    apply Nat.repr_injective
    exact String.toList_inj.mp (List.cons.inj tails).2

private theorem append_cancel {start name name' rest : String}
    (same : start ++ name ++ rest = start ++ name' ++ rest) :
    name = name' := by
  have lists := congrArg String.toList same
  simp only [String.toList_append, List.append_assoc] at lists
  exact String.toList_inj.mp (List.append_cancel_right (List.append_cancel_left lists))

private theorem cachePath_injective : Function.Injective RPCDatabase.cachePath := by
  intro block other same
  exact Nat.repr_injective (append_cancel same)

section Correct

variable (checksum : Address → String) (keccak256 : Bytes → B256) {json : CacheJson Text}
variable (provider : RpcProvider)

/-- All entries of a cache are what the chain says at this block. -/
structure CacheCorrect (block : Nat) (cache : BlockCache) : Prop where
  accounts : ∀ address info, cache.accounts address = some info →
    info = RPCDatabase.accountInfo keccak256 provider address block
  storage : ∀ address slot value, cache.storage (storageKey checksum address slot) = some value →
    value = provider.getStorageAt address slot block
  blockHashes : ∀ blockNumber hash, cache.blockHashes blockNumber = some hash →
    hash = provider.getBlockHash blockNumber

/-- Every file that can be parsed is correct at its own block. -/
def FilesCorrect (json : CacheJson Text) (files : String → Option Text) : Prop :=
  ∀ block text cache, files (RPCDatabase.cachePath block) = some text → json.fromStr text = .ok cache →
    CacheCorrect checksum keccak256 provider block cache

structure Correct (json : CacheJson Text) (db : RPCDatabase Text) : Prop where
  fileCache : CacheCorrect checksum keccak256 provider db.stateBlock db.fileCache
  files : FilesCorrect checksum keccak256 provider json db.files

variable {checksum keccak256 provider}

private theorem loadCacheForBlock_correct {files : String → Option Text}
    (correct : FilesCorrect checksum keccak256 provider json files) (block : Nat) :
    CacheCorrect checksum keccak256 provider block (RPCDatabase.loadCacheForBlock json files block) := by
  have empty : CacheCorrect checksum keccak256 provider block .default :=
    ⟨(fun _ _ cached => nomatch cached), (fun _ _ _ cached => nomatch cached), (fun _ _ cached => nomatch cached)⟩
  rw [RPCDatabase.loadCacheForBlock]
  split
  · exact empty
  · rename_i contents present
    split
    · exact empty
    · rename_i cache parsed
      exact correct block contents cache present parsed

private theorem new_correct {files : String → Option Text}
    (correct : FilesCorrect checksum keccak256 provider json files) (stateBlock : Nat) :
    Correct checksum keccak256 provider json (RPCDatabase.new json files stateBlock) :=
  ⟨loadCacheForBlock_correct correct stateBlock, correct⟩

/-- A save keeps the cache, and writes it to the file of its block or spoils that file. -/
theorem saveFileCache_correct (roundtrips : json.Roundtrips) {self : RPCDatabase Text}
    (correct : Correct checksum keccak256 provider json self) (outcome : SaveOutcome json) :
    Correct checksum keccak256 provider json (self.saveFileCache outcome) ∧
      (self.saveFileCache outcome).stateBlock = self.stateBlock := by
  have replaced : ∀ text : Text, (∀ cache, json.fromStr text = .ok cache →
      CacheCorrect checksum keccak256 provider self.stateBlock cache) →
      FilesCorrect checksum keccak256 provider json
        (Function.update self.files (RPCDatabase.cachePath self.stateBlock) (some text)) := by
    intro text textCorrect block contents cache present parsed
    by_cases own : block = self.stateBlock
    · subst own
      rw [Function.update_self] at present
      cases present
      exact textCorrect cache parsed
    · rw [Function.update_of_ne fun same => own (cachePath_injective same)] at present
      exact correct.files block contents cache present parsed
  cases outcome with
  | directoryFailed => exact ⟨correct, rfl⟩
  | written =>
    simp only [RPCDatabase.saveFileCache]
    split
    · exact ⟨correct, rfl⟩
    · rename_i text serialized
      refine ⟨⟨correct.fileCache, replaced text fun cache parsed => ?_⟩, rfl⟩
      rw [roundtrips _ _ serialized] at parsed
      cases parsed
      exact correct.fileCache
  | torn left =>
    refine ⟨⟨correct.fileCache, replaced left.1 fun cache parsed => ?_⟩, rfl⟩
    obtain ⟨e, unparsable⟩ := left.2
    rw [unparsable] at parsed
    cases parsed

section Insert

variable {block : Nat} {cache : BlockCache}

theorem CacheCorrect.insertAccount (correct : CacheCorrect checksum keccak256 provider block cache)
    (address : Address) : CacheCorrect checksum keccak256 provider block
      (cache.insertAccount address (RPCDatabase.accountInfo keccak256 provider address block)) where
  accounts other info cached := by
    by_cases own : other = address
    · subst own
      simp only [BlockCache.insertAccount, Function.update_self] at cached
      exact (Option.some.inj cached).symm
    · simp only [BlockCache.insertAccount, Function.update_of_ne own] at cached
      exact correct.accounts other info cached
  storage := correct.storage
  blockHashes := correct.blockHashes

theorem CacheCorrect.insertStorage (display : AddressDisplay checksum)
    (correct : CacheCorrect checksum keccak256 provider block cache) (address : Address) (slot : U256) :
    CacheCorrect checksum keccak256 provider block
      (cache.insertStorage (storageKey checksum address slot) (provider.getStorageAt address slot block)) where
  accounts := correct.accounts
  storage other slot' value cached := by
    by_cases own : storageKey checksum other slot' = storageKey checksum address slot
    · obtain ⟨rfl, rfl⟩ := storageKey_injective display own
      simp only [BlockCache.insertStorage, Function.update_self] at cached
      exact (Option.some.inj cached).symm
    · simp only [BlockCache.insertStorage, Function.update_of_ne own] at cached
      exact correct.storage other slot' value cached
  blockHashes := correct.blockHashes

theorem CacheCorrect.insertBlockHash (correct : CacheCorrect checksum keccak256 provider block cache)
    (blockNumber : Nat) : CacheCorrect checksum keccak256 provider block
      (cache.insertBlockHash blockNumber (provider.getBlockHash blockNumber)) where
  accounts := correct.accounts
  storage := correct.storage
  blockHashes other hash cached := by
    by_cases own : other = blockNumber
    · subst own
      simp only [BlockCache.insertBlockHash, Function.update_self] at cached
      exact (Option.some.inj cached).symm
    · simp only [BlockCache.insertBlockHash, Function.update_of_ne own] at cached
      exact correct.blockHashes other hash cached

end Insert

section Fetch

variable {self : RPCDatabase Text}

private theorem only_answer {Value Error : Type} {value expected : Value} (right : value = expected) :
    ∀ answer, (.ok value : Except Error Value) = .ok answer → answer = expected := by
  intro answer same
  cases same
  exact right

private theorem no_answer {Value Error : Type} (e : Error) (expected : Value) :
    ∀ answer, (.error e : Except Error Value) = .ok answer → answer = expected := by
  intro answer same
  cases same

/-- A hit, a failed request and a fetched value that is cached at the block it was asked for. -/
theorem fetchAccountInfo_correct (roundtrips : json.Roundtrips)
    (correct : Correct checksum keccak256 provider json self) (address : Address) (reply : Reply)
    (outcome : SaveOutcome json) :
    (∀ info, (self.fetchAccountInfo keccak256 provider address reply outcome).1 = .ok info →
      info = RPCDatabase.accountInfo keccak256 provider address self.stateBlock) ∧
    Correct checksum keccak256 provider json
      (self.fetchAccountInfo keccak256 provider address reply outcome).2 := by
  have inserted : Correct checksum keccak256 provider json
      ⟨self.fileCache.insertAccount address (RPCDatabase.accountInfo keccak256 provider address self.stateBlock),
        self.stateBlock, self.files⟩ :=
    ⟨correct.fileCache.insertAccount address, correct.files⟩
  simp only [RPCDatabase.fetchAccountInfo]
  split
  · rename_i info cached
    exact ⟨only_answer (correct.fileCache.accounts address info cached), correct⟩
  · split
    · exact ⟨no_answer _ _, correct⟩
    · exact ⟨only_answer rfl, (saveFileCache_correct roundtrips inserted outcome).1⟩

private theorem fetchStorage_correct (display : AddressDisplay checksum) (roundtrips : json.Roundtrips)
    (correct : Correct checksum keccak256 provider json self) (address : Address) (slot : U256)
    (reply : Reply) (outcome : SaveOutcome json) :
    (∀ value, (self.fetchStorage checksum provider address slot reply outcome).1 = .ok value →
      value = provider.getStorageAt address slot self.stateBlock) ∧
    Correct checksum keccak256 provider json
      (self.fetchStorage checksum provider address slot reply outcome).2 := by
  have inserted : Correct checksum keccak256 provider json
      ⟨self.fileCache.insertStorage (storageKey checksum address slot)
        (provider.getStorageAt address slot self.stateBlock), self.stateBlock, self.files⟩ :=
    ⟨correct.fileCache.insertStorage display address slot, correct.files⟩
  simp only [RPCDatabase.fetchStorage]
  split
  · rename_i value cached
    exact ⟨only_answer (correct.fileCache.storage address slot value cached), correct⟩
  · split
    · exact ⟨no_answer _ _, correct⟩
    · exact ⟨only_answer rfl, (saveFileCache_correct roundtrips inserted outcome).1⟩

private theorem fetchBlockHash_correct (roundtrips : json.Roundtrips)
    (correct : Correct checksum keccak256 provider json self) (blockNumber : Nat) (reply : Reply)
    (outcome : SaveOutcome json) :
    (∀ hash, (self.fetchBlockHash provider blockNumber reply outcome).1 = .ok hash →
      hash = provider.getBlockHash blockNumber) ∧
    Correct checksum keccak256 provider json (self.fetchBlockHash provider blockNumber reply outcome).2 := by
  have inserted : Correct checksum keccak256 provider json
      ⟨self.fileCache.insertBlockHash blockNumber (provider.getBlockHash blockNumber),
        self.stateBlock, self.files⟩ :=
    ⟨correct.fileCache.insertBlockHash blockNumber, correct.files⟩
  simp only [RPCDatabase.fetchBlockHash]
  split
  · rename_i hash cached
    exact ⟨only_answer (correct.fileCache.blockHashes blockNumber hash cached), correct⟩
  · split
    · exact ⟨no_answer _ _, correct⟩
    · exact ⟨no_answer _ _, correct⟩
    · exact ⟨only_answer rfl, (saveFileCache_correct roundtrips inserted outcome).1⟩

end Fetch

/-- The cache of the old block is saved, that of the new one loaded. -/
theorem commitBlock_correct (roundtrips : json.Roundtrips) {self : RPCDatabase Text}
    (correct : Correct checksum keccak256 provider json self) (blockNumber : Nat) (outcome : SaveOutcome json) :
    Correct checksum keccak256 provider json (self.commitBlock blockNumber outcome).2 := by
  have saved := (saveFileCache_correct roundtrips correct outcome).1
  exact ⟨loadCacheForBlock_correct saved.files blockNumber, saved.files⟩

end Correct

/-- A call of the database, how its request ends and how its save does. -/
inductive Call (json : CacheJson Text) where
  | basicRef (address : Address) (reply : Reply) (outcome : SaveOutcome json)
  | storageRef (address : Address) (slot : U256) (reply : Reply) (outcome : SaveOutcome json)
  | blockHashRef (blockNumber : Nat) (reply : Reply) (outcome : SaveOutcome json)
  | commitBlock (blockNumber : Nat) (outcome : SaveOutcome json)

namespace RPCDatabase

variable (checksum : Address → String) (keccak256 : Bytes → B256) {json : CacheJson Text}
variable (provider : RpcProvider)

def call (self : RPCDatabase Text) : Call json → RPCDatabase Text
  | .basicRef address reply outcome => (self.basicRef keccak256 provider address reply outcome).2
  | .storageRef address slot reply outcome => (self.storageRef checksum provider address slot reply outcome).2
  | .blockHashRef blockNumber reply outcome => (self.blockHashRef provider blockNumber reply outcome).2
  | .commitBlock blockNumber outcome => (self.commitBlock blockNumber outcome).2

def run (self : RPCDatabase Text) (calls : List (Call json)) : RPCDatabase Text :=
  calls.foldl (call checksum keccak256 provider) self

/-- Whatever the call returns successfully is the chain's value at the current block. -/
structure ReadsCorrectly (json : CacheJson Text) (db : RPCDatabase Text) : Prop where
  basicRef : ∀ address reply (outcome : SaveOutcome json) info,
    (db.basicRef keccak256 provider address reply outcome).1 = .ok info →
      info = some (accountInfo keccak256 provider address db.stateBlock)
  storageRef : ∀ address slot reply (outcome : SaveOutcome json) value,
    (db.storageRef checksum provider address slot reply outcome).1 = .ok value →
      value = provider.getStorageAt address slot db.stateBlock
  blockHashRef : ∀ blockNumber reply (outcome : SaveOutcome json) hash,
    (db.blockHashRef provider blockNumber reply outcome).1 = .ok hash →
      hash = provider.getBlockHash blockNumber

variable {checksum keccak256 provider}

theorem basicRef_eq (self : RPCDatabase Text) (address : Address) (reply : Reply) (outcome : SaveOutcome json) :
    self.basicRef keccak256 provider address reply outcome =
      ((self.fetchAccountInfo keccak256 provider address reply outcome).1.map some,
        (self.fetchAccountInfo keccak256 provider address reply outcome).2) := by
  rw [basicRef]
  split <;> rename_i fetched <;> rw [fetched] <;> rfl

private theorem reads_correct (display : AddressDisplay checksum) (roundtrips : json.Roundtrips)
    {self : RPCDatabase Text} (correct : Correct checksum keccak256 provider json self) :
    ReadsCorrectly checksum keccak256 provider json self where
  basicRef address reply outcome info read := by
    rw [basicRef_eq] at read
    cases fetched : (self.fetchAccountInfo keccak256 provider address reply outcome).1 with
    | error e =>
      rw [fetched] at read
      cases read
    | ok account =>
      rw [fetched] at read
      cases read
      rw [(fetchAccountInfo_correct roundtrips correct address reply outcome).1 account fetched]
  storageRef address slot reply outcome :=
    (fetchStorage_correct display roundtrips correct address slot reply outcome).1
  blockHashRef blockNumber reply outcome :=
    (fetchBlockHash_correct roundtrips correct blockNumber reply outcome).1

private theorem call_correct (display : AddressDisplay checksum) (roundtrips : json.Roundtrips)
    {self : RPCDatabase Text} (correct : Correct checksum keccak256 provider json self) (next : Call json) :
    Correct checksum keccak256 provider json (self.call checksum keccak256 provider next) := by
  cases next with
  | basicRef address reply outcome =>
    rw [call, basicRef_eq]
    exact (fetchAccountInfo_correct roundtrips correct address reply outcome).2
  | storageRef address slot reply outcome =>
    exact (fetchStorage_correct display roundtrips correct address slot reply outcome).2
  | blockHashRef blockNumber reply outcome =>
    exact (fetchBlockHash_correct roundtrips correct blockNumber reply outcome).2
  | commitBlock blockNumber outcome => exact commitBlock_correct roundtrips correct blockNumber outcome

/-- After every sequence of calls each read returns the chain's value at the current block or an
error, and each cache file holds values of its own block only. -/
theorem cache_never_mixes (display : AddressDisplay checksum) (roundtrips : json.Roundtrips)
    {files : String → Option Text} (initially : FilesCorrect checksum keccak256 provider json files)
    (stateBlock : Nat) (calls : List (Call json)) :
    ReadsCorrectly checksum keccak256 provider json
        ((new json files stateBlock).run checksum keccak256 provider calls) ∧
      FilesCorrect checksum keccak256 provider json
        ((new json files stateBlock).run checksum keccak256 provider calls).files := by
  have correct : Correct checksum keccak256 provider json
      ((new json files stateBlock).run checksum keccak256 provider calls) :=
    Runs.invariant_run (Correct checksum keccak256 provider json) calls
      (fun _ next _ correct => call_correct display roundtrips correct next)
      (new_correct initially stateBlock)
  exact ⟨reads_correct display roundtrips correct, correct.files⟩

end RPCDatabase

section Examples

def hexDigit (value : Nat) : Char :=
  if value < 10 then Char.ofNat (48 + value) else Char.ofNat (87 + value)

def hexValue (c : Char) : Nat := if c.toNat < 58 then c.toNat - 48 else c.toNat - 87

def hexBytes (bytes : Bytes) : List Char :=
  bytes.flatMap fun byte => [hexDigit (byte.toNat / 16), hexDigit (byte.toNat % 16)]

def parseHex : List Char → Bytes
  | high :: low :: rest => UInt8.ofNat (16 * hexValue high + hexValue low) :: parseHex rest
  | _ => []

/-- An address of digits only is written out like this. -/
def hexAddress (address : Address) : String :=
  "0x" ++ String.ofList (hexBytes (LittleEndian.encode 20 address.toNat).reverse)

private theorem parseHex_hexBytes (bytes : Bytes) : parseHex (hexBytes bytes) = bytes := by
  have digits : ∀ value < 16, hexValue (hexDigit value) = value := by decide
  induction bytes with
  | nil => rfl
  | cons byte rest ih =>
    have below := byte.toNat_lt
    have high := digits (byte.toNat / 16) (by omega)
    have low := digits (byte.toNat % 16) (by omega)
    have whole : UInt8.ofNat (16 * (byte.toNat / 16) + byte.toNat % 16) = byte := by
      rw [Nat.div_add_mod]
      exact UInt8.ofNat_toNat
    simp only [hexBytes, List.flatMap_cons, List.cons_append, List.nil_append, parseHex, high, low, whole]
    exact congrArg (byte :: ·) ih

private theorem hexAddress_display : AddressDisplay hexAddress where
  injective := by
    intro address other same
    have lists := congrArg String.toList same
    simp only [hexAddress, String.toList_append, String.toList_ofList] at lists
    have bytes := congrArg parseHex (List.append_cancel_left lists)
    rw [parseHex_hexBytes, parseHex_hexBytes] at bytes
    have numbers := congrArg LittleEndian.decode (List.reverse_inj.mp bytes)
    rw [LittleEndian.decode_encode_of_lt (show address.toNat < 256 ^ 20 from address.isLt),
      LittleEndian.decode_encode_of_lt (show other.toNat < 256 ^ 20 from other.isLt)] at numbers
    exact BitVec.eq_of_toNat_eq numbers
  noColon address := by
    have digits : ∀ value < 16, hexDigit value ≠ ':' := by decide
    intro member
    simp only [hexAddress, String.toList_append, String.toList_ofList, List.mem_append, hexBytes,
      List.mem_flatMap, List.mem_cons, List.not_mem_nil, or_false] at member
    rcases member with literal | ⟨byte, -, high | low⟩
    · simp at literal
    · have below := byte.toNat_lt
      exact digits (byte.toNat / 16) (by omega) high.symm
    · exact digits (byte.toNat % 16) (Nat.mod_lt _ (by decide)) low.symm

/-- Files of caches, and files that contain something else. -/
def plainJson : CacheJson (Option BlockCache) where
  toStringPretty cache := .ok (some cache)
  fromStr
    | none => .error "expected value"
    | some cache => .ok cache

private theorem plainJson_roundtrips : plainJson.Roundtrips := by
  intro cache text written
  cases written
  rfl

/-- A slot that holds the number of the block. -/
def countingChain : RpcProvider where
  getTransactionCount _ _ := 0
  getBalance _ _ := 0
  getCodeAt _ _ := []
  getStorageAt _ _ block := BitVec.ofNat 256 block
  getBlockHash _ := 0

/-- Block 7, then block 8 and back to 7, whose file was written in between. -/
def thereAndBack : List (Call plainJson) :=
  [.storageRef 1 2 .answered .written, .commitBlock 8 .written, .storageRef 1 2 .answered .written,
   .commitBlock 7 .written]

theorem cache_never_mixes_back :
    ∃ value, (((RPCDatabase.new plainJson (fun _ => none) 7).run hexAddress (fun _ => 0) countingChain
        thereAndBack).storageRef hexAddress countingChain 1 2 (.failed "offline")
          (.directoryFailed : SaveOutcome plainJson)).1 = .ok value ∧
      value = countingChain.getStorageAt 1 2 7 := by
  have noFiles : FilesCorrect hexAddress (fun _ => 0) countingChain plainJson (fun _ => none) :=
    fun _ _ _ present => nomatch present
  refine ⟨7, rfl, ?_⟩
  exact (RPCDatabase.cache_never_mixes hexAddress_display plainJson_roundtrips noFiles 7 thereAndBack).1.storageRef
    1 2 (.failed "offline") .directoryFailed 7 rfl

end Examples

end Montana.Storage.Remote
