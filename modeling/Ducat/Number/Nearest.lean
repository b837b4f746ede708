import Ducat.Number.Digits
import Ducat.Number.Double

/-! Floating-point numbers from decimal text. -/

namespace Ducat

namespace Double

/-- The floating-point number nearest to `digits * 10 ^ exponent`. Far outside the range of
floating-point numbers the result is infinite or zero whatever the digits are. -/
def nearest (digits : Nat) (exponent : Int) : Float :=
  let magnitude := Digits.count digits + exponent
  if digits = 0 then 0.0
  else if 400 < magnitude then 1.0 / 0.0
  else if magnitude < -400 then 0.0
  else Float.ofScientific digits (exponent < 0) exponent.natAbs

def ofDigits (whole fraction : List Char) : Float :=
  nearest (Digits.value (whole ++ fraction)) (-fraction.length)

def signFactor (negative : Bool) (magnitude : Float) : Float :=
  if negative then -magnitude else magnitude

def exponent? : List Char → Option Int
  | [] => some 0
  | mark :: rest =>
      if mark == 'e' || mark == 'E' then
        let (negative, digits) := Digits.splitSign rest
        (Digits.value? digits).map (Digits.signed negative)
      else none

/-- Reads digits with at most one point among or beside them, at least one digit, and perhaps an
exponent. -/
def decimal? (characters : List Char) : Option Float := do
  let whole := characters.takeWhile Char.isDigit
  let (fraction, behind) :=
    match characters.dropWhile Char.isDigit with
    | '.' :: rest => (rest.takeWhile Char.isDigit, rest.dropWhile Char.isDigit)
    | rest => ([], rest)
  if whole.isEmpty && fraction.isEmpty then none
  let exponent ← exponent? behind
  return nearest (Digits.value (whole ++ fraction)) (exponent - fraction.length)

/-- Reads an optional sign and then a decimal number, or a word for infinity or for what is not
a number, in any case. -/
def read? (text : String) : Option Float :=
  let (negative, characters) := Digits.splitSign text.toList
  let word := characters.map Char.toLower
  let magnitude :=
    if word = "inf".toList || word = "infinity".toList then some (1.0 / 0.0)
    else if word = "nan".toList then some (0.0 / 0.0)
    else decimal? characters
  magnitude.map (signFactor negative)

end Double

end Ducat
