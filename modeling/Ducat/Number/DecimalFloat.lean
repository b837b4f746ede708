import Ducat.Number.Decimal
import Ducat.Number.Nearest

/-! The floating-point number that stands for a decimal number. -/

namespace Ducat

namespace Decimal

/-- Repeated squaring, one rounding at each product: `result * base ^ exponent`. -/
def floatPower : Nat → Float → Float → Nat → Float
  | 0, result, _, _ => result
  | steps + 1, result, base, exponent =>
      let next := if exponent % 2 = 1 then result * base else result
      let half := exponent / 2
      if half = 0 then next else floatPower steps next (base * base) half

def floatPowerOfTen (exponent : Nat) : Float :=
  floatPower (exponent.log2 + 1) 1.0 10.0 exponent

def groupSize : Nat := 19

def keptDigits : Nat := 25

/-- The number of groups of digits beyond those that are kept, where the digits are counted by
the decimal length of the next but one power of two. -/
def surplusGroups (magnitude : Nat) : Nat :=
  let bits := magnitude.log2 + 1
  let digits := Digits.count (powerOfTwo (bits + 1)) - 1
  (digits - keptDigits) / groupSize

def greatestScale : Int := 2147483647

/-- The nearest number for up to 25 digits with a positive scale; otherwise close to it, and
infinite where it would be too large. -/
def magnitudeFloat? (magnitude : Nat) (scale : Int) : Option Float :=
  if scale = 0 then some (Double.nearest magnitude 0)
  else
    let surplus := groupSize * surplusGroups magnitude
    let kept := magnitude / powerOfTen surplus
    let keptScale := scale - surplus
    if greatestScale < keptScale then none
    else if 0 < keptScale then some (Double.nearest kept (-keptScale))
    else some (Double.nearest kept 0 * floatPowerOfTen (-keptScale).toNat)

/-- There is none where the digits that are kept still have too great a scale, although the
nearest would be zero, nor where it would be infinite. -/
def toFloat? (number : Decimal) : Option Float :=
  if number.isZero then some 0.0
  else
    let magnitude := magnitudeFloat? number.digits.natAbs number.scale
    (magnitude.map (Double.signFactor (number.digits < 0))).filter fun float =>
      (Double.ofFloat float).isFinite

/-- More than this many zeros behind the digits take every number but zero out of the range of
the whole numbers, as this many do. -/
def zerosOutOfRange : Nat := 19

def toInteger? (number : Decimal) : Option Int64 :=
  let scale := max number.scale (-zerosOutOfRange)
  Integer.ofInt? (truncate ⟨number.digits, scale⟩)

end Decimal

end Ducat
