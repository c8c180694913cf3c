import Mathlib.Order.Nat
import Mathlib.Order.Monotone.Basic

/-! Amounts raised by whole percentages, rounded down. -/

namespace Percentages

def raise (percent amount : Nat) : Nat := amount * (100 + percent) / 100

theorem raise_mono (percent : Nat) : Monotone (raise percent) :=
  fun _ _ less => Nat.div_le_div_right (Nat.mul_le_mul_right _ less)

theorem raise_eq (percent amount : Nat) : raise percent amount = amount + amount * percent / 100 := by
  rw [raise, Nat.mul_add, Nat.mul_comm amount 100, Nat.mul_add_div (by decide)]

theorem le_raise (percent amount : Nat) : amount ≤ raise percent amount := by
  rw [raise_eq]
  exact Nat.le_add_right _ _

/-- Rounding swallows a percentage that is worth less than one. -/
theorem lt_raise_iff {percent amount : Nat} : amount < raise percent amount ↔ 100 ≤ amount * percent := by
  rw [raise_eq, Nat.lt_add_right_iff_pos, Nat.div_pos_iff]
  simp

end Percentages
