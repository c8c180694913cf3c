import Mathlib.Algebra.GroupWithZero.Nat
import Mathlib.Order.MinMax
import Mathlib.Order.Monotone.Basic
import Mathlib.Order.Nat

/-! Arithmetic on unsigned machine words that saturates, or that fails on overflow. -/

namespace Words

variable {w : Nat}

def maxValue (w : Nat) : Nat := 2 ^ w - 1

/-- The nearest word. -/
def clamp (w : Nat) (value : Nat) : Nat := min value (maxValue w)

def saturatingAdd (a b : BitVec w) : BitVec w := BitVec.ofNat w (clamp w (a.toNat + b.toNat))

def saturatingMul (a b : BitVec w) : BitVec w := BitVec.ofNat w (clamp w (a.toNat * b.toNat))

def checkedAdd (a b : BitVec w) : Option (BitVec w) :=
  if a.toNat + b.toNat < 2 ^ w then some (a + b) else none

def checkedMul (a b : BitVec w) : Option (BitVec w) :=
  if a.toNat * b.toNat < 2 ^ w then some (a * b) else none

def checkedDiv (a b : BitVec w) : Option (BitVec w) :=
  if b = 0 then none else some (a / b)

theorem clamp_mono (w : Nat) : Monotone (clamp w) :=
  fun _ _ fewer => min_le_min fewer (Nat.le_refl _)

theorem clamp_le (w value : Nat) : clamp w value ≤ value := Nat.min_le_left _ _

theorem clamp_of_le {value : Nat} (fits : value ≤ maxValue w) : clamp w value = value :=
  Nat.min_eq_left fits

theorem toNat_le_maxValue (a : BitVec w) : a.toNat ≤ maxValue w := Nat.le_sub_one_of_lt a.isLt

/-- Adding after clamping is the same as clamping the sum. -/
theorem clamp_add_clamp (w a b : Nat) : clamp w (clamp w a + b) = clamp w (a + b) := by
  unfold clamp
  omega

theorem toNat_ofNat_clamp (value : Nat) : (BitVec.ofNat w (clamp w value)).toNat = clamp w value := by
  have small : clamp w value ≤ 2 ^ w - 1 := Nat.min_le_right _ _
  have positive : 0 < 2 ^ w := Nat.two_pow_pos w
  rw [BitVec.toNat_ofNat, Nat.mod_eq_of_lt (by omega)]

@[simp] theorem toNat_saturatingAdd (a b : BitVec w) :
    (saturatingAdd a b).toNat = clamp w (a.toNat + b.toNat) := toNat_ofNat_clamp _

@[simp] theorem toNat_saturatingMul (a b : BitVec w) :
    (saturatingMul a b).toNat = clamp w (a.toNat * b.toNat) := toNat_ofNat_clamp _

theorem checkedAdd_of_lt {a b : BitVec w} (fits : a.toNat + b.toNat < 2 ^ w) :
    ∃ sum, checkedAdd a b = some sum ∧ sum.toNat = a.toNat + b.toNat :=
  ⟨a + b, if_pos fits, by rw [BitVec.toNat_add, Nat.mod_eq_of_lt fits]⟩

theorem checkedMul_of_lt {a b : BitVec w} (fits : a.toNat * b.toNat < 2 ^ w) :
    ∃ product, checkedMul a b = some product ∧ product.toNat = a.toNat * b.toNat :=
  ⟨a * b, if_pos fits, by rw [BitVec.toNat_mul, Nat.mod_eq_of_lt fits]⟩

theorem checkedDiv_of_pos (a : BitVec w) {b : BitVec w} (positive : 0 < b.toNat) :
    ∃ quotient, checkedDiv a b = some quotient ∧ quotient.toNat = a.toNat / b.toNat := by
  refine ⟨a / b, if_neg ?_, BitVec.toNat_udiv⟩
  rintro rfl
  simp at positive

end Words
