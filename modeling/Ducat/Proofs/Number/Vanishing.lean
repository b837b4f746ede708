import Ducat.Number.Decimal
import Mathlib.Tactic.SplitIfs

/-! Only zero is written as zero: the shortest digits of every other floating-point number stand
for a decimal that is not zero either. -/

namespace Ducat

theorem powerOfTen_le_powerOfTwo {digits bits : Nat} (enough : 10 * ((digits + 2) / 3) ≤ bits) :
    powerOfTen digits ≤ powerOfTwo bits :=
  calc
    powerOfTen digits ≤ powerOfTen (3 * ((digits + 2) / 3)) := powerOfTen_le_powerOfTen (by omega)
    _ = (10 ^ 3) ^ ((digits + 2) / 3) := Nat.pow_mul 10 3 _
    _ ≤ (2 ^ 10) ^ ((digits + 2) / 3) := Nat.pow_le_pow_left (by decide) _
    _ = 2 ^ (10 * ((digits + 2) / 3)) := (Nat.pow_mul 2 10 _).symm
    _ ≤ powerOfTwo bits := Nat.pow_le_pow_right (by decide) enough

theorem powerOfTwo_le_powerOfTen {bits digits : Nat} (enough : 4 * ((bits + 12) / 13) ≤ digits) :
    powerOfTwo bits ≤ powerOfTen digits :=
  calc
    powerOfTwo bits ≤ 2 ^ (13 * ((bits + 12) / 13)) := Nat.pow_le_pow_right (by decide) (by omega)
    _ = (2 ^ 13) ^ ((bits + 12) / 13) := Nat.pow_mul 2 13 _
    _ ≤ (10 ^ 4) ^ ((bits + 12) / 13) := Nat.pow_le_pow_left (by decide) _
    _ = 10 ^ (4 * ((bits + 12) / 13)) := (Nat.pow_mul 10 4 _).symm
    _ ≤ powerOfTen digits := powerOfTen_le_powerOfTen enough

theorem powerOfTwo_add (first second : Nat) :
    powerOfTwo (first + second) = powerOfTwo first * powerOfTwo second :=
  Nat.pow_add 2 first second

theorem powerOfTwo_le_powerOfTwo {first second : Nat} (ordered : first ≤ second) :
    powerOfTwo first ≤ powerOfTwo second :=
  Nat.pow_le_pow_right (by decide) ordered

theorem powerOfTwo_mul_powerOfTen_le {left right : Nat} {power : Int}
    (small : power ≤ 0 → 4 * ((left - right + 12) / 13) ≤ (-power).toNat)
    (large : 0 ≤ power → left ≤ right ∧ 10 * ((power.toNat + 2) / 3) ≤ right - left) :
    powerOfTwo left * powerOfTen power.toNat ≤ powerOfTwo right * powerOfTen (-power).toNat := by
  rcases Int.le_total power 0 with nonpositive | nonnegative
  · have missing := powerOfTwo_le_powerOfTen (small nonpositive)
    rw [Int.toNat_of_nonpos nonpositive]
    calc
      powerOfTwo left * powerOfTen 0 = powerOfTwo left := Nat.mul_one _
      _ ≤ powerOfTwo (right + (left - right)) := powerOfTwo_le_powerOfTwo (by omega)
      _ = powerOfTwo right * powerOfTwo (left - right) := powerOfTwo_add _ _
      _ ≤ powerOfTwo right * powerOfTen (-power).toNat := Nat.mul_le_mul_left _ missing
  · rcases large nonnegative with ⟨ordered, enough⟩
    have spare := powerOfTen_le_powerOfTwo enough
    calc
      powerOfTwo left * powerOfTen power.toNat ≤ powerOfTwo left * powerOfTwo (right - left) :=
        Nat.mul_le_mul_left _ spare
      _ = powerOfTwo (left + (right - left)) := (powerOfTwo_add _ _).symm
      _ = powerOfTwo right := by rw [Nat.add_sub_cancel' ordered]
      _ ≤ powerOfTwo right * powerOfTen (-power).toNat :=
        Nat.le_mul_of_pos_right _ (powerOfTen_pos _)

namespace Shortest

variable {grid : Grid} {multiple : Nat}

theorem Grid.pos_of_admits (lower : 0 < grid.lower) (admitted : grid.admits multiple) :
    0 < multiple := by
  rcases Nat.eq_zero_or_pos multiple with rfl | positive
  · unfold admits at admitted
    split at admitted <;> simp only [Nat.zero_mul, Bool.and_eq_true, decide_eq_true_eq] at admitted
      <;> omega
  · exact positive

theorem Grid.pos_of_pick? (lower : 0 < grid.lower) (picked : grid.pick? = some multiple) :
    0 < multiple := by
  unfold pick? at picked
  dsimp only at picked
  split at picked
  next below _ =>
    cases picked
    have positive := pos_of_admits lower below
    unfold nearest
    dsimp only
    split <;> omega
  next below _ =>
    cases picked
    exact pos_of_admits lower below
  next =>
    cases picked
    exact Nat.succ_pos _
  next => cases picked

/-- At a fine enough power of ten the nearest multiple is not zero, whether it is admitted or
not. -/
theorem Grid.nearest_pos (fine : grid.unit ≤ 2 * grid.value) (positive : 0 < grid.unit) :
    0 < grid.nearest := by
  unfold nearest
  dsimp only
  split
  next closer =>
    rcases Nat.lt_or_ge grid.value grid.unit with less | enough
    · rw [Nat.mod_eq_of_lt less] at closer
      omega
    · exact Nat.div_pos enough positive
  next => exact Nat.succ_pos _

theorem Interval.lower_grid_pos {interval : Interval} (lower : 0 < interval.lower) (power : Int) :
    0 < (interval.grid power).lower :=
  Nat.mul_pos lower (Nat.mul_pos (powerOfTwo_pos _) (powerOfTen_pos _))

theorem search_digits_pos {interval : Interval} (lower : 0 < interval.lower) {steps : Nat}
    {power : Int}
    (fine : (interval.grid (power - steps)).unit ≤ 2 * (interval.grid (power - steps)).value) :
    0 < (search interval steps power).digits := by
  induction steps generalizing power with
  | zero =>
      rw [Int.natCast_zero, Int.sub_zero] at fine
      exact Grid.nearest_pos fine (Nat.mul_pos (powerOfTwo_pos _) (powerOfTen_pos _))
  | succ steps induction =>
      unfold search
      split
      next picked => exact Grid.pos_of_pick? (Interval.lower_grid_pos lower power) picked
      next =>
        apply induction
        have same : power - 1 - steps = power - (steps + 1 : Nat) := by omega
        rw [same]
        exact fine

/-- A number of 64 bits is no less than the last power of ten that is tried. -/
theorem fine_ofParts {mantissa : Nat} {exponent : Int} (positive : 0 < mantissa)
    (short : mantissa < powerOfTwo 53) (lower : -1074 ≤ exponent) (upper : exponent ≤ 971) :
    let grid := (Interval.ofParts mantissa exponent).grid (ceilingPower mantissa exponent - 20)
    grid.unit ≤ 2 * grid.value := by
  have bits : mantissa.log2 < 53 := (Nat.log2_lt (by omega)).mpr short
  have leading : powerOfTwo mantissa.log2 ≤ mantissa := Nat.log2_self_le (by omega)
  dsimp only [Interval.ofParts, Interval.grid]
  generalize scale : ceilingPower mantissa exponent - 20 = power
  unfold ceilingPower at scale
  have units : powerOfTwo (-(exponent - 2)).toNat * powerOfTen power.toNat ≤
      powerOfTwo (3 + mantissa.log2 + (exponent - 2).toNat) * powerOfTen (-power).toNat :=
    powerOfTwo_mul_powerOfTen_le (by omega) (by omega)
  calc
    powerOfTwo (-(exponent - 2)).toNat * powerOfTen power.toNat
      ≤ powerOfTwo (3 + mantissa.log2 + (exponent - 2).toNat) * powerOfTen (-power).toNat := units
    _ = 8 * powerOfTwo mantissa.log2 *
        (powerOfTwo (exponent - 2).toNat * powerOfTen (-power).toNat) := by
      rw [powerOfTwo_add, powerOfTwo_add, Nat.mul_assoc (_ * _)]
      rfl
    _ ≤ 8 * mantissa * (powerOfTwo (exponent - 2).toNat * powerOfTen (-power).toNat) :=
      Nat.mul_le_mul_right _ (Nat.mul_le_mul_left 8 leading)
    _ = 2 * (4 * mantissa * (powerOfTwo (exponent - 2).toNat * powerOfTen (-power).toNat)) := by
      rw [← Nat.mul_assoc 2, ← Nat.mul_assoc 2]

theorem ofParts_digits_pos {mantissa : Nat} {exponent : Int} (positive : 0 < mantissa)
    (short : mantissa < powerOfTwo 53) (lower : -1074 ≤ exponent) (upper : exponent ≤ 971) :
    0 < (ofParts mantissa exponent).digits := by
  have above : 0 < (Interval.ofParts mantissa exponent).lower := by
    dsimp only [Interval.ofParts]
    split <;> omega
  rw [ofParts, if_neg (Nat.ne_of_gt positive)]
  exact search_digits_pos above (fine_ofParts positive short lower upper)

end Shortest

namespace Double

theorem parts_of_ofFloat {number : Float} {negative : Bool} {mantissa : Nat} {exponent : Int}
    (finite : ofFloat number = .finite negative mantissa exponent) :
    mantissa < powerOfTwo 53 ∧ -1074 ≤ exponent ∧ exponent ≤ 971 := by
  have split53 : powerOfTwo 53 = 2 ^ 53 := rfl
  have split52 : powerOfTwo 52 = 2 ^ 52 := rfl
  have split11 : powerOfTwo 11 = 2 ^ 11 := rfl
  unfold ofFloat at finite
  dsimp only at finite
  rw [split52, split11] at finite
  rw [split53]
  split_ifs at finite <;> cases finite <;> omega

theorem isZero_ofFloat_iff (number : Float) :
    (ofFloat number).isZero ↔ number.toBits = 0 ∨ number.toBits = 0x8000000000000000 := by
  have size : number.toBits.toNat < 2 ^ 64 := number.toBits.toNat_lt
  have split52 : powerOfTwo 52 = 2 ^ 52 := rfl
  have split11 : powerOfTwo 11 = 2 ^ 11 := rfl
  have bits : number.toBits = 0 ∨ number.toBits = 0x8000000000000000 ↔
      number.toBits.toNat = 0 ∨ number.toBits.toNat = 2 ^ 63 := by
    rw [← UInt64.toNat_inj, ← UInt64.toNat_inj]
    rfl
  rw [bits]
  unfold ofFloat
  dsimp only
  rw [split52, split11]
  split_ifs <;> simp only [isZero, beq_iff_eq, Bool.false_eq_true, false_iff] <;> omega

end Double

namespace Decimal

theorem isZero_of_ofFloat? {number : Float} {decimal : Decimal}
    (converted : ofFloat? number = some decimal) :
    decimal.isZero = (Double.ofFloat number).isZero := by
  unfold ofFloat? at converted
  split at converted
  next negative mantissa exponent parts =>
    cases converted
    rw [parts]
    rcases Double.parts_of_ofFloat parts with ⟨short, lower, upper⟩
    rcases Nat.eq_zero_or_pos mantissa with rfl | positive
    · cases negative <;> rfl
    · have digits := Shortest.ofParts_digits_pos positive short lower upper
      have whole := Nat.mul_pos digits
        (powerOfTen_pos (Shortest.ofParts mantissa exponent).exponent.toNat)
      generalize (Shortest.ofParts mantissa exponent).digits * _ = magnitude at whole
      have signed : Digits.signed negative magnitude ≠ 0 := by
        unfold Digits.signed
        split <;> omega
      exact (beq_false_of_ne signed).trans (beq_false_of_ne (Nat.ne_of_gt positive)).symm
  next => cases converted

end Decimal

end Ducat
