import Ducat.Number.Double
import Ducat.Number.Numeral

/-! The shortest decimal digits that tell a floating-point number from every other one, and the
text made of them. -/

namespace Ducat

namespace Shortest

/-- A positive number between the bounds of the reals that are rounded to it, all three as
multiples of a quarter of the spacing `2 ^ exponent` of its neighbours. -/
structure Interval where
  lower : Nat
  value : Nat
  upper : Nat
  /-- Whether the bounds themselves are rounded to the number. -/
  closed : Bool
  exponent : Int

/-- Below a power of two the neighbours are closer by half, except at the smallest exponent. -/
def Interval.ofParts (mantissa : Nat) (exponent : Int) : Interval :=
  let below := if mantissa = powerOfTwo 52 ∧ -1074 < exponent then 1 else 2
  { lower := 4 * mantissa - below
    value := 4 * mantissa
    upper := 4 * mantissa + 2
    closed := mantissa % 2 == 0
    exponent := exponent - 2 }

/-- Measures against the multiples of a power of ten: `multiple` times that power is the
interval's number `multiple * unit`. -/
structure Grid where
  lower : Nat
  value : Nat
  upper : Nat
  unit : Nat
  closed : Bool

def Interval.grid (interval : Interval) (power : Int) : Grid :=
  let factor := powerOfTwo interval.exponent.toNat * powerOfTen (-power).toNat
  { lower := interval.lower * factor
    value := interval.value * factor
    upper := interval.upper * factor
    unit := powerOfTwo (-interval.exponent).toNat * powerOfTen power.toNat
    closed := interval.closed }

def Grid.admits (grid : Grid) (multiple : Nat) : Bool :=
  let point := multiple * grid.unit
  if grid.closed then grid.lower ≤ point && point ≤ grid.upper
  else grid.lower < point && point < grid.upper

/-- The multiple that is closest to the number, the greater one of two that are equally close. -/
def Grid.nearest (grid : Grid) : Nat :=
  let below := grid.value / grid.unit
  if 2 * (grid.value % grid.unit) < grid.unit then below else below + 1

def Grid.pick? (grid : Grid) : Option Nat :=
  let below := grid.value / grid.unit
  match grid.admits below, grid.admits (below + 1) with
  | true, true => some grid.nearest
  | true, false => some below
  | false, true => some (below + 1)
  | false, false => none

/-- Tries ever finer powers of ten. Seventeen digits are always enough. -/
def search (interval : Interval) : Nat → Int → Numeral
  | 0, power => ⟨(interval.grid power).nearest, power⟩
  | steps + 1, power =>
      match (interval.grid power).pick? with
      | some digits => ⟨digits, power⟩
      | none => search interval steps (power - 1)

/-- A power of ten that is greater than `mantissa * 2 ^ exponent`, by less than a hundredfold:
the decimal logarithm of two is a little less than 0.30103. -/
def ceilingPower (mantissa : Nat) (exponent : Int) : Int :=
  (mantissa.log2 + 1 + exponent) * 30103 / 100000 + 1

def ofParts (mantissa : Nat) (exponent : Int) : Numeral :=
  if mantissa = 0 then ⟨0, 0⟩
  else search (.ofParts mantissa exponent) 20 (ceilingPower mantissa exponent)

end Shortest

namespace Double

def text (number : Float) : String :=
  match ofFloat number with
  | .notANumber => "NaN"
  | .infinite negative => Digits.signedText negative "inf"
  | .finite negative mantissa exponent =>
      Digits.signedText negative (Shortest.ofParts mantissa exponent).positional

def isWhole (number : Float) : Bool :=
  match ofFloat number with
  | .finite _ mantissa exponent => 0 ≤ (Shortest.ofParts mantissa exponent).exponent
  | _ => false

def textWithPoint (number : Float) : String :=
  if isWhole number then text number ++ ".0" else text number

end Double

end Ducat
