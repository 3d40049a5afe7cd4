import Mathlib.Data.Rat.Floor
import Mathlib.Algebra.Order.Floor.Semifield
import Mathlib.Tactic.FieldSimp
import Mathlib.Tactic.Ring
import Mathlib.Tactic.Positivity
import Mathlib.Tactic.Linarith

/-! # Rounding half up

A nonnegative rational goes to the nearest natural number, a tie to the larger. Three
integer computations give it from a numerator and a divisor, and a decimal's shift
says which of the two sides of the point applies.
-/

namespace HalfUp

def halfUp (q : ℚ) : ℕ := ⌊q + 1 / 2⌋₊

theorem natCast (n : ℕ) : halfUp n = n := by
  have below : ⌊(1 / 2 : ℚ)⌋₊ = 0 := Nat.floor_eq_zero.mpr (by norm_num)
  rw [halfUp, add_comm, Nat.floor_add_natCast (by norm_num), below, Nat.zero_add]

theorem natCast_le {n : ℕ} {q : ℚ} (h : n ≤ q) : n ≤ halfUp q :=
  Nat.le_floor (by linarith)

theorem div (c : ℕ) {d : ℕ} (pos : 0 < d) : halfUp (c / d) = (2 * c + d) / (2 * d) := by
  have split : (c / d + 1 / 2 : ℚ) = ((2 * c + d : ℕ) : ℚ) / (2 * d : ℕ) := by
    have : (d : ℚ) ≠ 0 := by exact_mod_cast pos.ne'
    push_cast
    field_simp
  rw [halfUp, split, Nat.floor_div_eq_div]

/-- The rounded quotient is the one whose double lies within a divisor of the numerator's. -/
theorem eq_iff (c : ℕ) {d n : ℕ} (pos : 0 < d) :
    halfUp (c / d) = n ↔ 2 * d * n ≤ 2 * c + d ∧ 2 * c < 2 * d * n + d := by
  rw [div c pos, Nat.div_eq_iff (by omega)]
  have expand : n * (2 * d) = 2 * d * n := Nat.mul_comm ..
  constructor
  · intro h
    omega
  · intro h
    omega

theorem half_divisor (c : ℕ) {d : ℕ} (pos : 0 < d) (even : 2 ∣ d) :
    (c + d / 2) / d = halfUp (c / d) := by
  obtain ⟨half, rfl⟩ := even
  rw [div c pos, ← Nat.mul_div_mul_left (c + 2 * half / 2) (2 * half) (by decide : 0 < 2)]
  congr 1
  omega

theorem twice_remainder (c : ℕ) {d : ℕ} (pos : 0 < d) :
    (if d ≤ 2 * (c % d) then c / d + 1 else c / d) = halfUp (c / d) := by
  have parts := Nat.div_add_mod c d
  have small := Nat.mod_lt c pos
  have next : 2 * d * (c / d + 1) = 2 * (d * (c / d)) + 2 * d := by ring
  have here : 2 * d * (c / d) = 2 * (d * (c / d)) := Nat.mul_assoc ..
  symm
  split
  · exact (eq_iff c pos).mpr (by omega)
  · exact (eq_iff c pos).mpr (by omega)

/-- The same comparison without doubling the remainder. -/
theorem remainder (c : ℕ) {d : ℕ} (pos : 0 < d) :
    (if d - c % d ≤ c % d then c / d + 1 else c / d) = halfUp (c / d) := by
  have small := Nat.mod_lt c pos
  rw [← twice_remainder c pos]
  congr 1
  exact propext (by omega)

theorem eq_zero {c d : ℕ} (small : 2 * c < d) : halfUp (c / d) = 0 :=
  (eq_iff c (by omega)).mpr (by omega)

/-! ## Shifting the decimal point -/

theorem shift_left (c : ℕ) {shift : ℤ} (h : 0 ≤ shift) :
    halfUp (c * 10 ^ shift) = c * 10 ^ shift.toNat := by
  have cast : (c * 10 ^ shift : ℚ) = (c * 10 ^ shift.toNat : ℕ) := by
    conv_lhs => rw [← Int.toNat_of_nonneg h]
    push_cast
    rw [zpow_natCast]
  rw [cast, natCast]

theorem shift_right (c : ℕ) {shift : ℤ} (h : shift < 0) :
    halfUp (c * 10 ^ shift) = halfUp (c / (10 ^ (-shift).toNat : ℕ)) := by
  have opposite : shift = -((-shift).toNat : ℤ) := by omega
  conv_lhs => rw [opposite, zpow_neg, zpow_natCast, ← div_eq_mul_inv]
  push_cast
  rfl

end HalfUp
