import Ducat.Number.DecimalFloat
import Ducat.Proofs.Number.RationalValue
import Mathlib.Data.Rat.Floor

/-! The whole part of a decimal is that of the rational number for which it stands. -/

namespace Ducat

def wholePart (number : ℚ) : ℤ := if 0 ≤ number then ⌊number⌋ else ⌈number⌉

theorem wholePart_intCast (number : ℤ) : wholePart number = number := by
  simp [wholePart]

theorem wholePart_intCast_div (dividend : ℤ) (divisor : ℕ) :
    wholePart (dividend / divisor) = dividend.tdiv divisor := by
  unfold wholePart
  split
  case isTrue unsigned =>
    rcases Nat.eq_zero_or_pos divisor with zero | positive
    · simp [zero]
    · have dividendUnsigned : 0 ≤ dividend := by
        have product := mul_nonneg unsigned (Nat.cast_nonneg (α := ℚ) divisor)
        rw [div_mul_cancel₀ _ (by exact_mod_cast positive.ne')] at product
        exact_mod_cast product
      rw [Rat.floor_intCast_div_natCast, Int.tdiv_eq_ediv_of_nonneg dividendUnsigned]
  case isFalse negative =>
    have dividendNegative : 0 ≤ -dividend := by
      by_contra positive
      apply negative
      exact div_nonneg (by exact_mod_cast (by omega : 0 ≤ dividend)) (Nat.cast_nonneg divisor)
    calc
      ⌈(dividend / divisor : ℚ)⌉ = -⌊((-dividend : ℤ) / divisor : ℚ)⌋ := by
        rw [← Int.ceil_neg]
        congr 1
        push_cast
        ring
      _ = -((-dividend).tdiv divisor) := by
        rw [Rat.floor_intCast_div_natCast, Int.tdiv_eq_ediv_of_nonneg dividendNegative]
      _ = dividend.tdiv divisor := by rw [Int.neg_tdiv, Int.neg_neg]

namespace Decimal

theorem truncate_eq_wholePart (number : Decimal) : number.truncate = wholePart number.value := by
  by_cases fractional : 0 ≤ number.scale
  · have quotient : number.value = number.digits / (powerOfTen number.scale.toNat : ℕ) := by
      rw [value, cast_powerOfTen, zpow_neg, div_eq_mul_inv, ← zpow_natCast,
        Int.toNat_of_nonneg fractional]
    rw [number.truncate_eq_tdiv fractional, quotient, wholePart_intCast_div]
  · have product : number.value =
        (number.digits * powerOfTen (-number.scale).toNat : ℤ) := by
      have shift : ((-number.scale).toNat : ℤ) = -number.scale :=
        Int.toNat_of_nonneg (by omega)
      push_cast
      rw [value, cast_powerOfTen, ← zpow_natCast, shift]
    rw [truncate, if_neg fractional, product, wholePart_intCast]

/-- Behind a number that is not zero, so many zeros leave no number of 64 bits. -/
theorem ofInt?_truncate_of_scale_le {number : Decimal} (filled : number.digits ≠ 0)
    (zeros : number.scale ≤ -zerosOutOfRange) : Integer.ofInt? number.truncate = none := by
  have large : powerOfTen zerosOutOfRange ≤ powerOfTen (-number.scale).toNat :=
    powerOfTen_le_powerOfTen (by omega)
  have enough : 10000000000000000000 ≤ powerOfTen (-number.scale).toNat := large
  have whole : ¬ 0 ≤ number.scale := by
    unfold zerosOutOfRange at zeros
    omega
  rw [truncate, if_neg whole, Integer.ofInt?, if_neg]
  unfold Integer.minimum Integer.maximum
  generalize powerOfTen (-number.scale).toNat = power at enough
  rcases Int.lt_or_gt_of_ne filled with negative | positive
  · have bound : number.digits * power ≤ -1 * power :=
      Int.mul_le_mul_of_nonneg_right (by omega) (by omega)
    omega
  · have bound : 1 * (power : ℤ) ≤ number.digits * power :=
      Int.mul_le_mul_of_nonneg_right (by omega) (by omega)
    omega

/-- That no power of ten is taken beyond the range makes no difference. -/
theorem toInteger?_eq_ofInt?_wholePart (number : Decimal) :
    number.toInteger? = Integer.ofInt? (wholePart number.value) := by
  rw [← truncate_eq_wholePart, toInteger?]
  by_cases zeros : number.scale ≤ -zerosOutOfRange
  · rw [max_eq_right zeros]
    by_cases filled : number.digits = 0
    · rw [truncate_eq_wholePart, truncate_eq_wholePart, value, value, filled]
      simp
    · have clamped : Integer.ofInt? (truncate ⟨number.digits, -zerosOutOfRange⟩) = none :=
        ofInt?_truncate_of_scale_le filled (Int.le_refl _)
      rw [ofInt?_truncate_of_scale_le filled zeros, clamped]
  · rw [max_eq_left (by omega)]

end Decimal

end Ducat
