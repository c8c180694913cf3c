import Montana.Migration.Reth

/-! Reth's own encoding of accounts and storage entries, which the decoders invert. -/

namespace Montana.Migration

open Storage

/-- Big-endian without leading zeros. -/
def stripped (value : Nat) : Bytes := (LittleEndian.minimal value).reverse

private theorem stripped_length_le {width value : Nat} (fits : value < 256 ^ width) :
    (stripped value).length ≤ width := by
  rw [stripped, List.length_reverse]
  exact LittleEndian.length_minimal_le fits

/-- Whatever it is padded with on the left is not read. -/
theorem fromBeBytes_padded (width value : Nat) :
    fromBeBytes (List.replicate width 0 ++ stripped value) = value := by
  rw [fromBeBytes, List.reverse_append, stripped, List.reverse_reverse, List.reverse_replicate,
    LittleEndian.decode_append_zeros, LittleEndian.decode_minimal]

private theorem readCompact_stripped {width value : Nat} (fits : value < 256 ^ width) (rest : Bytes) :
    readCompact width (stripped value ++ rest) (stripped value).length = some (value, rest) := by
  have short := stripped_length_le fits
  rw [readCompact]
  by_cases empty : (stripped value).length = 0
  · have zero := fromBeBytes_padded 0 value
    rw [List.length_eq_zero_iff.mp empty] at zero ⊢
    cases zero
    rfl
  · have enough : (stripped value).length ≤ (stripped value ++ rest).length := by simp
    rw [if_neg empty, if_neg (by omega), List.take_left, List.drop_left, fromBeBytes_padded]

namespace RethAccount

/-- The lengths of nonce and balance and whether there is a code hash. -/
def compactFlags (account : RethAccount) : Nat :=
  (stripped account.nonce).length + 16 * (stripped account.balance.toNat).length +
    if account.bytecodeHash.isSome then 1024 else 0

/-- Reth's Compact encoding. -/
def toCompact (account : RethAccount) : Bytes :=
  LittleEndian.encode 2 account.compactFlags ++ (stripped account.nonce ++
    (stripped account.balance.toNat ++ (account.bytecodeHash.map hashBytes).getD []))

/-- The lengths fit into their fields and do not run into each other. -/
theorem compactFlags_fields {account : RethAccount} (small : account.nonce < 2 ^ 64) :
    account.compactFlags < 65536 ∧
      account.compactFlags % 16 = (stripped account.nonce).length ∧
      account.compactFlags / 16 % 64 = (stripped account.balance.toNat).length ∧
      (account.compactFlags / 1024 % 2 ≠ 0 ↔ account.bytecodeHash.isSome) := by
  have nonce : (stripped account.nonce).length ≤ 8 := stripped_length_le (show account.nonce < 256 ^ 8 from small)
  have balance : (stripped account.balance.toNat).length ≤ 32 :=
    stripped_length_le (show account.balance.toNat < 256 ^ 32 from account.balance.isLt)
  rw [compactFlags]
  split
  · next present => exact ⟨by omega, by omega, by omega, iff_of_true (by omega) present⟩
  · next absent => exact ⟨by omega, by omega, by omega, iff_of_false (by omega) absent⟩

theorem fromCompact_toCompact {account : RethAccount} (small : account.nonce < 2 ^ 64) (rest : Bytes) :
    fromCompact (account.toCompact ++ rest) = some (.ok account) := by
  obtain ⟨fits, nonceLen, balanceLen, hasHash⟩ := compactFlags_fields small
  have flags : (UInt8.ofNat account.compactFlags).toNat +
      256 * (UInt8.ofNat (account.compactFlags / 256)).toNat = account.compactFlags := by
    simp only [UInt8.toNat_ofNat']
    omega
  have nonce := readCompact_stripped (show account.nonce < 256 ^ 8 from small)
  have balance := readCompact_stripped (show account.balance.toNat < 256 ^ 32 from account.balance.isLt)
  have bytes : account.toCompact ++ rest = UInt8.ofNat account.compactFlags ::
      UInt8.ofNat (account.compactFlags / 256) :: (stripped account.nonce ++
        (stripped account.balance.toNat ++ ((account.bytecodeHash.map hashBytes).getD [] ++ rest))) := by
    simp [toCompact, LittleEndian.encode]
  rw [bytes, fromCompact]
  simp only [flags, nonceLen, balanceLen, hasHash, readCompactU64, nonce, readCompactU256, balance,
    Option.map_some, BitVec.ofNat_toNat, BitVec.setWidth_eq]
  cases code : account.bytecodeHash with
  | none =>
    simp only [Option.map_none, Option.getD_none, Option.isSome_none, Bool.false_eq_true, if_false]
    rw [if_neg (by simp), ← code]
  | some hash =>
    have whole : (hashBytes hash ++ rest).take 32 = hashBytes hash := by
      rw [← length_hashBytes hash, List.take_left]
    simp only [Option.map_some, Option.getD_some, Option.isSome_some, if_true, whole, hashOfBytes_hashBytes]
    rw [if_neg (by simp; omega), ← code]

end RethAccount

namespace StorageEntry

/-- The slot, then the value without leading zeros. -/
def toBytes (entry : StorageEntry) : Bytes := hashBytes entry.slot ++ stripped entry.value.toNat

theorem decodeStorageEntry_toBytes (entry : StorageEntry) : decodeStorageEntry entry.toBytes = .ok entry := by
  have short : (stripped entry.value.toNat).length ≤ 32 :=
    stripped_length_le (show entry.value.toNat < 256 ^ 32 from entry.value.isLt)
  have slot : entry.toBytes.take 32 = hashBytes entry.slot := by
    rw [toBytes, ← length_hashBytes entry.slot, List.take_left]
  have value : entry.toBytes.drop 32 = stripped entry.value.toNat := by
    rw [toBytes, ← length_hashBytes entry.slot, List.drop_left]
  have whole : ¬ entry.toBytes.length < 32 := by simp [toBytes]
  have padded (width : Nat) : hashOfBytes (List.replicate width 0 ++ stripped entry.value.toNat) =
      entry.value := by
    have read := fromBeBytes_padded width entry.value.toNat
    rw [fromBeBytes] at read
    rw [hashOfBytes, read]
    exact BitVec.ofNat_toNat 256 entry.value
  simp only [decodeStorageEntry, if_neg whole, slot, value, hashOfBytes_hashBytes, padded, short, if_true]
  split
  · next empty =>
    have zero := padded 0
    rw [List.isEmpty_iff.mp empty] at zero
    rw [show (0 : U256) = entry.value from zero]
  · rfl

end StorageEntry

/-- The decoders give back what was encoded, whatever follows an account, so that no two
accounts or entries have the same encoding. -/
theorem decoders_invert_encoding :
    (∀ (account : RethAccount) (rest : Bytes), account.nonce < 2 ^ 64 →
      RethAccount.fromCompact (account.toCompact ++ rest) = some (.ok account)) ∧
    (∀ entry : StorageEntry, decodeStorageEntry entry.toBytes = .ok entry) ∧
    (∀ account other : RethAccount, account.nonce < 2 ^ 64 → other.nonce < 2 ^ 64 → account ≠ other →
      account.toCompact ≠ other.toCompact) ∧
    ∀ entry other : StorageEntry, entry ≠ other → entry.toBytes ≠ other.toBytes := by
  refine ⟨fun account rest small => RethAccount.fromCompact_toCompact small rest,
    StorageEntry.decodeStorageEntry_toBytes, fun account other small small' different same => different ?_,
    fun entry other different same => different ?_⟩
  · have first := RethAccount.fromCompact_toCompact small []
    have second := RethAccount.fromCompact_toCompact small' []
    rw [same] at first
    exact Except.ok.inj (Option.some.inj (first.symm.trans second))
  · have first := entry.decodeStorageEntry_toBytes
    rw [same] at first
    exact Except.ok.inj (first.symm.trans other.decodeStorageEntry_toBytes)

theorem decoders_invert_account :
    RethAccount.fromCompact (RethAccount.toCompact ⟨300, 5, some 9⟩ ++ [1, 2, 3]) =
        some (.ok ⟨300, 5, some 9⟩) ∧
      RethAccount.toCompact ⟨300, 5, none⟩ ≠ RethAccount.toCompact ⟨1, 5, none⟩ :=
  ⟨decoders_invert_encoding.1 _ _ (by decide),
    decoders_invert_encoding.2.2.1 _ _ (by decide) (by decide) (by decide)⟩

end Montana.Migration
