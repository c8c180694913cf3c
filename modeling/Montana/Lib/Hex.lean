import Mathlib.Data.List.Basic

/-! Bytes written as pairs of hex digits. -/

namespace Hex

def IsDigit (c : Char) : Prop :=
  '0' ≤ c ∧ c ≤ '9' ∨ 'a' ≤ c ∧ c ≤ 'f' ∨ 'A' ≤ c ∧ c ≤ 'F'

instance (c : Char) : Decidable (IsDigit c) := inferInstanceAs (Decidable (_ ∨ _ ∨ _))

/-- The number that a digit stands for, in either case. -/
def value (c : Char) : Nat :=
  if c ≤ '9' then c.toNat - 48 else if c ≤ 'F' then c.toNat - 55 else c.toNat - 87

/-- Pairs of digits, and nothing else. -/
def Grammatical (digits : List Char) : Prop :=
  digits.length % 2 = 0 ∧ ∀ c ∈ digits, IsDigit c

instance (digits : List Char) : Decidable (Grammatical digits) :=
  @instDecidableAnd _ _ (Nat.decEq _ _) (List.decidableBAll _ digits)

/-- The bytes that pairs of digits denote, the high digit of each first. -/
def bytes : List Char → List UInt8
  | high :: low :: rest => UInt8.ofNat (16 * value high + value low) :: bytes rest
  | _ => []

/-- Two lower-case digits for each byte. -/
def encode (bytes : List UInt8) : List Char :=
  bytes.flatMap fun byte => [Nat.digitChar (byte.toNat / 16), Nat.digitChar (byte.toNat % 16)]

theorem le_iff_toNat_le (a b : Char) : a ≤ b ↔ a.toNat ≤ b.toNat := by
  rw [Char.le_def, UInt32.le_iff_toNat_le]
  rfl

/-- The three ranges as numbers. -/
theorem isDigit_iff (c : Char) : IsDigit c ↔
    48 ≤ c.toNat ∧ c.toNat ≤ 57 ∨ 97 ≤ c.toNat ∧ c.toNat ≤ 102 ∨ 65 ≤ c.toNat ∧ c.toNat ≤ 70 := by
  simp only [IsDigit, le_iff_toNat_le]
  rfl

theorem value_lt {c : Char} (digit : IsDigit c) : value c < 16 := by
  rw [isDigit_iff] at digit
  simp only [value, le_iff_toNat_le, show '9'.toNat = 57 from rfl, show 'F'.toNat = 70 from rfl]
  split_ifs <;> omega

/-- All digits are ASCII. -/
theorem utf8Size_of_isDigit {c : Char} (digit : IsDigit c) : c.utf8Size = 1 := by
  rw [isDigit_iff] at digit
  rw [Char.utf8Size_eq_one_iff, UInt32.le_iff_toNat_le]
  change c.toNat ≤ 127
  omega

theorem grammatical_nil : Grammatical [] := by simp [Grammatical]

theorem not_grammatical_singleton (c : Char) : ¬ Grammatical [c] := by simp [Grammatical]

theorem grammatical_pair {high low : Char} {rest : List Char} :
    Grammatical (high :: low :: rest) ↔ IsDigit high ∧ IsDigit low ∧ Grammatical rest := by
  have even : (rest.length + 1 + 1) % 2 = 0 ↔ rest.length % 2 = 0 := by omega
  simp only [Grammatical, List.length_cons, even, List.forall_mem_cons]
  tauto

/-- The digits of one half byte. -/
theorem digitChar_spec : ∀ half < 16, IsDigit (Nat.digitChar half) ∧ value (Nat.digitChar half) = half := by
  decide

theorem encode_cons (byte : UInt8) (rest : List UInt8) :
    encode (byte :: rest) =
      Nat.digitChar (byte.toNat / 16) :: Nat.digitChar (byte.toNat % 16) :: encode rest := rfl

/-- What was written is in the grammar and denotes the bytes it was written from. -/
theorem encode_spec (data : List UInt8) : Grammatical (encode data) ∧ bytes (encode data) = data := by
  induction data with
  | nil => exact ⟨grammatical_nil, rfl⟩
  | cons byte rest ih =>
    have small : byte.toNat < 256 := byte.toNat_lt
    obtain ⟨highDigit, highValue⟩ := digitChar_spec (byte.toNat / 16) (by omega)
    obtain ⟨lowDigit, lowValue⟩ := digitChar_spec (byte.toNat % 16) (by omega)
    have whole : 16 * (byte.toNat / 16) + byte.toNat % 16 = byte.toNat := by omega
    rw [encode_cons]
    constructor
    · exact grammatical_pair.mpr ⟨highDigit, lowDigit, ih.1⟩
    · rw [bytes, highValue, lowValue, whole, UInt8.ofNat_toNat, ih.2]

end Hex
