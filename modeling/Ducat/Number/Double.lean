import Ducat.Number.Integer
import Ducat.Number.Power

/-! What the 64 bits of a floating-point number stand for. -/

namespace Ducat

/-- A finite number is `mantissa * 2 ^ exponent`, with its sign. -/
inductive Double where
  | notANumber
  | infinite (negative : Bool)
  | finite (negative : Bool) (mantissa : Nat) (exponent : Int)
deriving DecidableEq, Repr

namespace Double

def ofFloat (number : Float) : Double :=
  let bits := number.toBits.toNat
  let negative : Bool := powerOfTwo 63 ≤ bits
  let field : Nat := bits / powerOfTwo 52 % powerOfTwo 11
  let fraction : Nat := bits % powerOfTwo 52
  if field = powerOfTwo 11 - 1 then
    if fraction = 0 then .infinite negative else .notANumber
  else if field = 0 then .finite negative fraction (-1074)
  else .finite negative (powerOfTwo 52 + fraction) ((field : Int) - 1075)

def isFinite : Double → Bool
  | .finite .. => true
  | _ => false

def isZero : Double → Bool
  | .finite _ mantissa _ => mantissa == 0
  | _ => false

def truncated? : Double → Option Int
  | .finite negative mantissa exponent =>
      let magnitude :=
        if 0 ≤ exponent then mantissa * powerOfTwo exponent.toNat
        else mantissa / powerOfTwo (-exponent).toNat
      some (Digits.signed negative magnitude)
  | _ => none

/-- The largest whole number below which every whole number is a floating-point number. -/
def exactLimit : Nat := powerOfTwo 53 - 1

def ofInteger? (number : Int64) : Option Float :=
  if number.toInt.natAbs ≤ exactLimit then some (Float.ofInt number.toInt) else none

def toInteger? (number : Float) : Option Int64 :=
  (ofFloat number).truncated?.bind Integer.ofInt?

/-- Places a number in the order in which both zeros are one and what is not a number comes
last, equal to itself. -/
def rank (number : Float) : Int :=
  match ofFloat number with
  | .notANumber => powerOfTwo 63
  | _ =>
      let bits := number.toBits.toNat
      if bits < powerOfTwo 63 then bits else -((bits - powerOfTwo 63 : Nat) : Int)

end Double

end Ducat
