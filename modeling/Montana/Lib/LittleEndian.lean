import Mathlib.Data.Nat.Digits.Lemmas

/-! Natural numbers of bounded size as bytes, the least significant one first. -/

namespace LittleEndian

def encode : Nat → Nat → List UInt8
  | 0, _ => []
  | width + 1, value => UInt8.ofNat value :: encode width (value / 256)

def decode (bytes : List UInt8) : Nat :=
  Nat.ofDigits 256 (bytes.map UInt8.toNat)

@[simp] theorem length_encode (width value : Nat) : (encode width value).length = width := by
  induction width generalizing value with
  | zero => rfl
  | succ width ih => simp [encode, ih]

/-- What does not fit is cut off at the top. -/
theorem decode_encode (width value : Nat) : decode (encode width value) = value % 256 ^ width := by
  induction width generalizing value with
  | zero => simp [encode, decode, Nat.mod_one]
  | succ width ih =>
    have low : (UInt8.ofNat value).toNat = value % 256 := by simp
    have high := ih (value / 256)
    unfold decode at high ⊢
    rw [encode, List.map_cons, Nat.ofDigits_cons, high, low, Nat.pow_succ', Nat.mod_mul]

theorem decode_encode_of_lt {width value : Nat} (fits : value < 256 ^ width) :
    decode (encode width value) = value := by
  rw [decode_encode, Nat.mod_eq_of_lt fits]

theorem decode_lt (bytes : List UInt8) : decode bytes < 256 ^ bytes.length := by
  have digits : ∀ digit ∈ bytes.map UInt8.toNat, digit < 256 := by
    intro digit member
    obtain ⟨byte, _, rfl⟩ := List.mem_map.mp member
    exact byte.toNat_lt
  have bounded := Nat.ofDigits_lt_base_pow_length (by decide) digits
  rwa [List.length_map] at bounded

/-- Every number has one encoding in each width that holds it. -/
theorem encode_decode (bytes : List UInt8) : encode bytes.length (decode bytes) = bytes := by
  induction bytes with
  | nil => rfl
  | cons byte rest ih =>
    have small : byte.toNat < 256 := byte.toNat_lt
    have split : decode (byte :: rest) = byte.toNat + 256 * decode rest := Nat.ofDigits_cons
    have low : UInt8.ofNat (byte.toNat + 256 * decode rest) = byte := by
      refine UInt8.toNat_inj.mp ?_
      rw [UInt8.toNat_ofNat', Nat.add_mul_mod_self_left, Nat.mod_eq_of_lt small]
    have high : (byte.toNat + 256 * decode rest) / 256 = decode rest := by omega
    rw [List.length_cons, encode, split, low, high, ih]

/-- In as few bytes as hold it. -/
def minimal (value : Nat) : List UInt8 := (Nat.digits 256 value).map UInt8.ofNat

theorem decode_minimal (value : Nat) : decode (minimal value) = value := by
  have digits : (minimal value).map UInt8.toNat = Nat.digits 256 value := by
    rw [minimal, List.map_map]
    refine List.map_congr_left (fun digit member => ?_) |>.trans (List.map_id _)
    exact UInt8.toNat_ofNat_of_lt (Nat.digits_lt_base (by decide) member)
  rw [decode, digits, Nat.ofDigits_digits]

theorem length_minimal_le {width value : Nat} (fits : value < 256 ^ width) :
    (minimal value).length ≤ width := by
  rw [minimal, List.length_map]
  exact (Nat.digits_length_le_iff (by decide) value).mpr fits

theorem decode_append_zeros (bytes : List UInt8) (count : Nat) :
    decode (bytes ++ List.replicate count 0) = decode bytes := by
  rw [decode, List.map_append, List.map_replicate]
  exact Nat.ofDigits_append_replicate_zero ..

end LittleEndian
