import Ducat.Number.Shortest

/-! Exact decimal numbers of any size. The digits and the scale are kept as they arise, so one
number may have several forms; the rules below fix which form each operation yields. -/

namespace Ducat

/-- The number `digits / 10 ^ scale`. -/
structure Decimal where
  digits : Int
  scale : Int
deriving DecidableEq, Repr

namespace Decimal

def ofInt (number : Int) : Decimal := ⟨number, 0⟩

def ofFloat? (number : Float) : Option Decimal :=
  match Double.ofFloat number with
  | .finite negative mantissa exponent =>
      let shortest := Shortest.ofParts mantissa exponent
      let whole := shortest.digits * powerOfTen shortest.exponent.toNat
      some ⟨Digits.signed negative whole, max 0 (-shortest.exponent)⟩
  | _ => none

def isZero (number : Decimal) : Bool := number.digits == 0

/-- The same number with more fractional digits. A smaller scale changes nothing, and zero takes
no power of ten, however great the scale. -/
def extendTo (number : Decimal) (scale : Int) : Decimal :=
  let missing := (scale - number.scale).toNat
  ⟨if number.isZero then 0 else number.digits * powerOfTen missing, number.scale + missing⟩

theorem digits_extendTo (number : Decimal) (scale : Int) :
    (number.extendTo scale).digits =
      number.digits * powerOfTen (scale - number.scale).toNat := by
  by_cases zero : number.digits = 0 <;> simp [extendTo, isZero, zero]

def isPlainOne (number : Decimal) : Bool :=
  0 ≤ number.scale && number.scale ≤ 38 && number.digits == powerOfTen number.scale.toNat

def zeroExtension : Int := 15

/-- The form of a sum with zero: the other term, with some of the zero's fractional digits. -/
def plusZero (number zero : Decimal) : Decimal :=
  number.extendTo (number.scale + min zeroExtension (zero.scale - number.scale))

def add (left right : Decimal) : Decimal :=
  if right.isZero then plusZero left right
  else if left.isZero then plusZero right left
  else
    let scale := max left.scale right.scale
    ⟨(left.extendTo scale).digits + (right.extendTo scale).digits, scale⟩

def subtract (left right : Decimal) : Decimal :=
  let scale := max left.scale right.scale
  ⟨(left.extendTo scale).digits - (right.extendTo scale).digits, scale⟩

def negate (number : Decimal) : Decimal := ⟨-number.digits, number.scale⟩

def trailingZeros : Nat → Nat → Nat
  | 0, _ => 0
  | limit + 1, number =>
      if number % 10 = 0 then trailingZeros limit (number / 10) + 1 else 0

def normalize (number : Decimal) : Decimal :=
  if number.isZero then ⟨0, 0⟩
  else
    let magnitude := number.digits.natAbs
    let zeros := trailingZeros (Digits.count magnitude) magnitude
    ⟨number.digits / powerOfTen zeros, number.scale - zeros⟩

def product (left right : Decimal) : Decimal :=
  ⟨left.digits * right.digits, left.scale + right.scale⟩

/-- An amount taken `right` times. A factor of one leaves the other factor, normalized. -/
def multiply (left right : Decimal) : Decimal :=
  if left.isPlainOne then right.normalize
  else if right.isPlainOne then left.normalize
  else product left right

/-- An amount converted at a rate. A factor of one leaves the other factor as it is. -/
def convert (amount rate : Decimal) : Decimal :=
  if amount.isPlainOne then rate
  else if rate.isPlainOne then amount
  else product amount rate

/-- A quotient has this many digits, unless it ends earlier. -/
def quotientDigits : Nat := 100

/-- Goes on with a division for at most `steps` digits, then rounds a half up. -/
def divideOn (divisor : Nat) : Nat → Nat → Nat → Int → Nat × Int
  | 0, quotient, remainder, scale =>
      (if 5 ≤ 10 * remainder / divisor then quotient + 1 else quotient, scale)
  | steps + 1, quotient, remainder, scale =>
      if remainder = 0 then (quotient, scale)
      else
        divideOn divisor steps (10 * quotient + 10 * remainder / divisor)
          (10 * remainder % divisor) (scale + 1)

/-- The zeros that make `dividend` as great as `divisor`, and no more. -/
def leadingShift (dividend divisor : Nat) : Nat :=
  let shift := Digits.count divisor - Digits.count dividend
  if dividend * powerOfTen shift < divisor then shift + 1 else shift

def quotient (dividend divisor : Nat) (scale : Int) : Nat × Int :=
  let shift := leadingShift dividend divisor
  let shifted := dividend * powerOfTen shift
  let whole := shifted / divisor
  divideOn divisor (quotientDigits - Digits.count whole) whole (shifted % divisor)
    (scale + shift)

def divide (left right : Decimal) : Decimal :=
  if left.isZero || right.isPlainOne then left
  else if left.digits = right.digits then ⟨1, left.scale - right.scale⟩
  else
    let (magnitude, scale) :=
      quotient left.digits.natAbs right.digits.natAbs (left.scale - right.scale)
    ⟨Digits.signed ((left.digits < 0) != (right.digits < 0)) magnitude, scale⟩

/-- The digits with the zeros that bring them to the scale of `other`. More zeros than `other`
has digits change no comparison with it, and are left out. -/
def digitsBeside (number other : Decimal) : Int :=
  let missing := (other.scale - number.scale).toNat
  number.digits * powerOfTen (min missing (Digits.count other.digits.natAbs))

def order (left right : Decimal) : Ordering :=
  compare (left.digitsBeside right) (right.digitsBeside left)

theorem compare_powerOfTen_count (left right : Int) (zeros : Nat) :
    compare (left * powerOfTen (min zeros (Digits.count right.natAbs))) right =
      compare (left * powerOfTen zeros) right := by
  by_cases few : zeros ≤ Digits.count right.natAbs
  · rw [Nat.min_eq_left few]
  · have enough := Digits.lt_powerOfTen_count right.natAbs
    have more := powerOfTen_le_powerOfTen (Nat.le_of_not_le few)
    rw [Nat.min_eq_right (Nat.le_of_not_le few)]
    rcases Int.lt_trichotomy left 0 with negative | zero | positive
    · have below (power : Nat) (large : right.natAbs < power) :
          compare (left * power) right = .lt := by
        have bound : left * power ≤ -1 * power :=
          Int.mul_le_mul_of_nonneg_right (by omega) (by omega)
        rw [Int.compare_eq_lt]
        omega
      rw [below _ enough, below _ (by omega)]
    · simp [zero]
    · have above (power : Nat) (large : right.natAbs < power) :
          compare (left * power) right = .gt := by
        have bound : 1 * (power : Int) ≤ left * power :=
          Int.mul_le_mul_of_nonneg_right (by omega) (by omega)
        rw [Int.compare_eq_gt]
        omega
      rw [above _ enough, above _ (by omega)]

theorem order_eq_compare_extendTo (left right : Decimal) :
    left.order right =
      compare (left.extendTo (max left.scale right.scale)).digits
        (right.extendTo (max left.scale right.scale)).digits := by
  rw [digits_extendTo, digits_extendTo]
  rcases Int.le_total left.scale right.scale with ordered | ordered
  · have enough : (left.scale - right.scale).toNat = 0 := by omega
    rw [Int.max_eq_right ordered, Int.sub_self]
    simpa [order, digitsBeside, enough, powerOfTen] using
      compare_powerOfTen_count left.digits right.digits _
  · have enough : (right.scale - left.scale).toNat = 0 := by omega
    rw [Int.max_eq_left ordered, Int.sub_self, ← Int.compare_swap, order,
      ← Int.compare_swap (right.digitsBeside left)]
    congr 1
    simpa [digitsBeside, enough, powerOfTen] using
      compare_powerOfTen_count right.digits left.digits _

def truncate (number : Decimal) : Int :=
  if 0 ≤ number.scale then
    let dropped := min number.scale.toNat (Digits.count number.digits.natAbs)
    number.digits.tdiv (powerOfTen dropped)
  else number.digits * powerOfTen (-number.scale).toNat

theorem truncate_eq_tdiv (number : Decimal) (fractional : 0 ≤ number.scale) :
    number.truncate = number.digits.tdiv (powerOfTen number.scale.toNat) := by
  have large (power : Nat) (bound : number.digits.natAbs < power) :
      number.digits.tdiv power = 0 := by
    rw [← Int.natAbs_eq_zero, Int.natAbs_tdiv]
    exact Nat.div_eq_of_lt bound
  simp only [truncate, fractional, if_true]
  by_cases few : number.scale.toNat ≤ Digits.count number.digits.natAbs
  · rw [Nat.min_eq_left few]
  · have enough := Digits.lt_powerOfTen_count number.digits.natAbs
    have more := powerOfTen_le_powerOfTen (Nat.le_of_not_le few)
    rw [Nat.min_eq_right (Nat.le_of_not_le few), large _ enough, large _ (by omega)]

end Decimal

end Ducat
