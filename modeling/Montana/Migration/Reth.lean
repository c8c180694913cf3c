import Montana.Storage.RocksDb

/-! Values of the tables of a Reth database, as they are decoded. -/

namespace Montana.Migration

open Storage

/-- `Address::from_slice`, which panics on any other length. -/
def addressFromSlice (key : Bytes) : Option Address :=
  if key.length = 20 then some (BitVec.ofNat 160 (fromBeBytes key)) else none

/-- Both readers of compact integers: the bytes are padded to the width of the integer.
Without room for the padding, or without the bytes, slicing panics. -/
def readCompact (width : Nat) (bytes : Bytes) (len : Nat) : Option (Nat × Bytes) :=
  if len = 0 then some (0, bytes)
  else if width < len ∨ bytes.length < len then none
  else some (fromBeBytes (List.replicate (width - len) 0 ++ bytes.take len), bytes.drop len)

def readCompactU64 (bytes : Bytes) (len : Nat) : Option (Nat × Bytes) := readCompact 8 bytes len

def readCompactU256 (bytes : Bytes) (len : Nat) : Option (U256 × Bytes) :=
  (readCompact 32 bytes len).map fun (value, rest) => (BitVec.ofNat 256 value, rest)

inductive DecodeError where
  | insufficientData (expected got : Nat)
  deriving DecidableEq, Repr

def DecodeError.display : DecodeError → String
  | .insufficientData expected got => s!"insufficient data: expected {expected} bytes, got {got}"

structure RethAccount where
  nonce : Nat
  balance : U256
  bytecodeHash : Option B256
  deriving DecidableEq, Repr

/-- Empty trie root hash. -/
def emptyRootHash : B256 := 0x56e81f171bcc55a6ff8345e692c0f86e5b48e01b996cadc001622fb5e363b421#256

namespace RethAccount

/-- Two bytes of flags, then nonce, balance and code hash. The length of the nonce has four
bits and that of the balance six, so that both can be too long for their integers. -/
def fromCompact (bytes : Bytes) : Option (Except DecodeError RethAccount) :=
  match bytes with
  | low :: high :: buf =>
    let flags := low.toNat + 256 * high.toNat
    let nonceLen := flags % 16
    let balanceLen := flags / 16 % 64
    let hasBytecodeHash := flags / 1024 % 2 ≠ 0
    let requiredLen := nonceLen + balanceLen + if hasBytecodeHash then 32 else 0
    if buf.length < requiredLen then
      some (.error (.insufficientData (requiredLen + 2) bytes.length))
    else
      match readCompactU64 buf nonceLen with
      | none => none
      | some (nonce, buf) =>
        match readCompactU256 buf balanceLen with
        | none => none
        | some (balance, buf) =>
          some (.ok {
            nonce
            balance
            bytecodeHash := if hasBytecodeHash then some (hashOfBytes (buf.take 32)) else none })
  | _ => some (.error (.insufficientData 2 bytes.length))

/-- The storage root is a placeholder. -/
def toTriedbAccount (self : RethAccount) : TrieAccount where
  nonce := self.nonce
  balance := self.balance
  storageRoot := emptyRootHash
  codeHash := self.bytecodeHash.getD keccakEmpty

example : fromCompact [0x01, 0x00, 0x05] = some (.ok ⟨5, 0, none⟩) := by decide

end RethAccount

structure StorageEntry where
  slot : B256
  value : U256
  deriving DecidableEq, Repr

inductive StorageDecodeError where
  | insufficientData (expected got : Nat)
  | invalidValueLength (got : Nat)
  deriving DecidableEq, Repr

def StorageDecodeError.display : StorageDecodeError → String
  | .insufficientData expected got => s!"insufficient data: expected {expected} bytes, got {got}"
  | .invalidValueLength got => s!"value too long for U256: {got} bytes"

/-- The slot, then its value without leading zeros. -/
def decodeStorageEntry (bytes : Bytes) : Except StorageDecodeError StorageEntry :=
  if bytes.length < 32 then .error (.insufficientData 32 bytes.length)
  else
    let valueBytes := bytes.drop 32
    if valueBytes.isEmpty then .ok ⟨hashOfBytes (bytes.take 32), 0⟩
    else if valueBytes.length ≤ 32 then
      .ok ⟨hashOfBytes (bytes.take 32),
        hashOfBytes (List.replicate (32 - valueBytes.length) 0 ++ valueBytes)⟩
    else .error (.invalidValueLength valueBytes.length)

end Montana.Migration
