import Ducat.Number.Decimal

/-! The text of a decimal number. -/

namespace Ducat

namespace Decimal

/-- A number with more than this many zeros between its point and its digits is written with an
exponent. -/
def leadingZeroLimit : Int := 5

/-- A number with more than this many zeros to add behind its digits is written with an
exponent. -/
def trailingZeroLimit : Int := 15

def scientific (digits : List Char) (exponent : Int) : String :=
  let mantissa :=
    match digits with
    | first :: second :: rest => first :: '.' :: second :: rest
    | single => single
  String.ofList mantissa ++ "E" ++ toString exponent

def magnitudeText (magnitude : Nat) (scale : Int) : String :=
  let digits := Nat.toDigits 10 magnitude
  if scale - digits.length > leadingZeroLimit then
    scientific digits (digits.length - 1 - scale)
  else if -scale > trailingZeroLimit then
    String.ofList digits ++ "e+" ++ toString (-scale)
  else (Numeral.mk magnitude (-scale)).positional

def text (number : Decimal) : String :=
  if number.isZero then "0"
  else
    Digits.signedText (number.digits < 0) (magnitudeText number.digits.natAbs number.scale)

end Decimal

end Ducat
