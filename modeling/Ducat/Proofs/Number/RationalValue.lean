import Ducat.Number.Decimal
import Mathlib.Data.Rat.Cast.Defs
import Mathlib.Algebra.Order.Field.Rat
import Mathlib.Tactic.FieldSimp
import Mathlib.Tactic.Positivity
import Mathlib.Tactic.Ring

/-! The rational numbers that decimals stand for. One number has many forms, and only a division
can change it where the arithmetic of rationals would not. -/

namespace Ducat

@[simp] theorem cast_powerOfTen (exponent : Nat) :
    ((powerOfTen exponent : Nat) : ℚ) = 10 ^ exponent := by
  exact_mod_cast (rfl : powerOfTen exponent = 10 ^ exponent)

namespace Decimal

def value (number : Decimal) : ℚ := number.digits * 10 ^ (-number.scale)

theorem value_eq_of_scale_add {number other : Decimal} (zeros : Nat)
    (scale : other.scale = number.scale + zeros)
    (digits : other.digits = number.digits * powerOfTen zeros) :
    other.value = number.value := by
  have cancelled : (10 : ℚ) ^ zeros * 10 ^ (-(number.scale + zeros)) = 10 ^ (-number.scale) := by
    rw [← zpow_natCast, ← zpow_add₀ (by norm_num)]
    congr 1
    omega
  unfold value
  rw [scale, digits]
  push_cast
  rw [cast_powerOfTen, mul_assoc, cancelled]

@[simp] theorem value_extendTo (number : Decimal) (scale : Int) :
    (number.extendTo scale).value = number.value :=
  value_eq_of_scale_add (scale - number.scale).toNat rfl (number.digits_extendTo scale)

@[simp] theorem value_ofInt (number : Int) : (ofInt number).value = number := by
  simp [ofInt, value]

theorem value_eq_zero_of_isZero {number : Decimal} (zero : number.isZero) : number.value = 0 := by
  have digits : number.digits = 0 := by simpa [isZero] using zero
  simp [value, digits]

theorem extendTo_scale {number : Decimal} {scale : Int} (ordered : number.scale ≤ scale) :
    (number.extendTo scale).scale = scale := by
  change number.scale + (scale - number.scale).toNat = scale
  omega

theorem value_eq_digits_extendTo {number : Decimal} {scale : Int}
    (ordered : number.scale ≤ scale) :
    number.value = (number.extendTo scale).digits * 10 ^ (-scale) := by
  rw [← number.value_extendTo scale, value, extendTo_scale ordered]

@[simp] theorem value_add (left right : Decimal) :
    (left.add right).value = left.value + right.value := by
  unfold add
  split
  case isTrue zero => simp [plusZero, value_eq_zero_of_isZero zero]
  split
  case isTrue zero => simp [plusZero, value_eq_zero_of_isZero zero]
  case isFalse =>
    rw [value_eq_digits_extendTo (le_max_left left.scale right.scale),
      value_eq_digits_extendTo (le_max_right left.scale right.scale), ← add_mul]
    simp [value]

@[simp] theorem value_subtract (left right : Decimal) :
    (left.subtract right).value = left.value - right.value := by
  rw [value_eq_digits_extendTo (le_max_left left.scale right.scale),
    value_eq_digits_extendTo (le_max_right left.scale right.scale), ← sub_mul]
  simp [value, subtract]

@[simp] theorem value_negate (number : Decimal) : number.negate.value = -number.value := by
  simp [value, negate]

theorem powerOfTen_trailingZeros_dvd (limit number : Nat) :
    powerOfTen (trailingZeros limit number) ∣ number := by
  induction limit generalizing number with
  | zero => exact one_dvd number
  | succ limit induction =>
      unfold trailingZeros
      split
      case isTrue divisible =>
        rw [powerOfTen_succ]
        exact Nat.mul_dvd_of_dvd_div (Nat.dvd_of_mod_eq_zero divisible) (induction (number / 10))
      case isFalse => exact one_dvd number

@[simp] theorem value_normalize (number : Decimal) : number.normalize.value = number.value := by
  unfold normalize
  split
  case isTrue zero =>
    rw [value_eq_zero_of_isZero zero]
    simp [value]
  case isFalse =>
    have divides := powerOfTen_trailingZeros_dvd (Digits.count number.digits.natAbs)
      number.digits.natAbs
    symm
    apply value_eq_of_scale_add (trailingZeros (Digits.count number.digits.natAbs)
      number.digits.natAbs)
    · dsimp only
      omega
    · exact (Int.ediv_mul_cancel (Int.natCast_dvd.mpr divides)).symm

theorem value_product (left right : Decimal) :
    (product left right).value = left.value * right.value := by
  have scales : (10 : ℚ) ^ (-(left.scale + right.scale)) =
      10 ^ (-left.scale) * 10 ^ (-right.scale) := by
    rw [← zpow_add₀ (by norm_num), neg_add]
  simp only [value, product, scales]
  push_cast
  ring

theorem value_eq_one_of_isPlainOne {number : Decimal} (one : number.isPlainOne) :
    number.value = 1 := by
  simp only [isPlainOne, Bool.and_eq_true, decide_eq_true_eq, beq_iff_eq] at one
  have equal : number.value = (⟨1, 0⟩ : Decimal).value := by
    apply value_eq_of_scale_add number.scale.toNat
    · dsimp only
      omega
    · rw [one.2, one_mul]
  rw [equal]
  simp [value]

/-- Neither the form of a factor nor a shortcut for the factor one changes a product. -/
@[simp] theorem value_multiply (left right : Decimal) :
    (left.multiply right).value = left.value * right.value := by
  unfold multiply
  split
  case isTrue one => simp [value_eq_one_of_isPlainOne one]
  split
  case isTrue one => simp [value_eq_one_of_isPlainOne one]
  case isFalse => exact value_product left right

@[simp] theorem value_convert (amount rate : Decimal) :
    (amount.convert rate).value = amount.value * rate.value := by
  unfold convert
  split
  case isTrue one => simp [value_eq_one_of_isPlainOne one]
  split
  case isTrue one => simp [value_eq_one_of_isPlainOne one]
  case isFalse => exact value_product amount rate

theorem order_eq_compare_value (left right : Decimal) :
    left.order right = compare left.value right.value := by
  have positive : (0 : ℚ) < 10 ^ (-max left.scale right.scale) := zpow_pos (by norm_num) _
  rw [order_eq_compare_extendTo, value_eq_digits_extendTo (le_max_left left.scale right.scale),
    value_eq_digits_extendTo (le_max_right left.scale right.scale)]
  rcases lt_trichotomy (left.extendTo (max left.scale right.scale)).digits
    (right.extendTo (max left.scale right.scale)).digits with less | equal | greater
  · rw [compare_lt_iff_lt.mpr less, compare_lt_iff_lt.mpr]
    exact mul_lt_mul_of_pos_right (by exact_mod_cast less) positive
  · rw [compare_eq_iff_eq.mpr equal, compare_eq_iff_eq.mpr]
    rw [equal]
  · rw [compare_gt_iff_gt.mpr greater, compare_gt_iff_gt.mpr]
    exact mul_lt_mul_of_pos_right (by exact_mod_cast greater) positive

end Decimal

end Ducat
