import ExchangeClient.Decimal.Basic
import Mathlib.Algebra.Field.Rat
import Mathlib.Algebra.Order.Field.Rat
import Mathlib.Tactic.FieldSimp
import Mathlib.Tactic.Linarith
import Mathlib.Tactic.NormNum
import Mathlib.Tactic.Positivity
import Mathlib.Tactic.Ring

/-!
# The number that a decimal writes

`Decimal.value` is the rational number `± mantissa / 10 ^ scale`.  The comparisons of the
library go through `units`, the count of the smallest places; this file says that they
compare values: `numEq_iff_value`, `numLe_iff_value` and `isZero_iff_value`.
-/

namespace ExchangeClient
namespace Decimal

/-- The rational number that a decimal writes. -/
def value (d : Decimal) : ℚ :=
  (if d.negative then -1 else 1) * (d.mantissa / 10 ^ d.scale)

/-- The units are the value, counted in the smallest place. -/
theorem units_eq_value (d : Decimal) : (d.units : ℚ) = d.value * 10 ^ 28 := by
  have hpow : (10 : ℚ) ^ 28 = 10 ^ d.scale * 10 ^ (28 - d.scale) := by
    rw [← pow_add, Nat.add_sub_cancel' d.scale_le]
  have hunits : (d.units : ℚ) =
      (if d.negative then -1 else 1) * (d.mantissa * 10 ^ (28 - d.scale)) := by
    unfold units
    split <;> push_cast [Nat.pow_eq] <;> rfl
  rw [hunits, value, hpow]
  field_simp

theorem units_eq_iff {a b : Decimal} : a.units = b.units ↔ a.value = b.value := by
  rw [← Int.cast_inj (α := ℚ), units_eq_value, units_eq_value]
  exact mul_left_inj' (by positivity)

theorem units_le_iff {a b : Decimal} : a.units ≤ b.units ↔ a.value ≤ b.value := by
  rw [← Int.cast_le (R := ℚ), units_eq_value, units_eq_value]
  exact mul_le_mul_iff_of_pos_right (by positivity)

/-- **Equality of decimals is equality of values**, however the two are written. -/
theorem numEq_iff_value {a b : Decimal} : a.numEq b = true ↔ a.value = b.value := by
  rw [numEq_iff, units_eq_iff]

/-- **The order of decimals is the order of values.** -/
theorem numLe_iff_value {a b : Decimal} : a.numLe b = true ↔ a.value ≤ b.value := by
  rw [numLe_iff, units_le_iff]

theorem isZero_iff_value {d : Decimal} : d.isZero = true ↔ d.value = 0 := by
  rw [isZero_iff, ← Int.cast_inj (α := ℚ), units_eq_value, Int.cast_zero]
  exact mul_eq_zero_iff_right (by positivity)

end Decimal
end ExchangeClient
