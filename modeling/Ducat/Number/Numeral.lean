import Ducat.Number.Digits

/-! Decimal digits with a power of ten, and their positional notation. -/

namespace Ducat

/-- The number `digits * 10 ^ exponent`. -/
structure Numeral where
  digits : Nat
  exponent : Int
deriving DecidableEq, Repr

namespace Numeral

def zeros (count : Nat) : List Char := List.replicate count '0'

def positional (numeral : Numeral) : String :=
  let digits := Nat.toDigits 10 numeral.digits
  if 0 ≤ numeral.exponent then
    String.ofList (digits ++ zeros numeral.exponent.toNat)
  else
    let places := (-numeral.exponent).toNat
    if digits.length ≤ places then
      String.ofList ('0' :: '.' :: zeros (places - digits.length) ++ digits)
    else
      let whole := digits.length - places
      String.ofList (digits.take whole ++ '.' :: digits.drop whole)

end Numeral

end Ducat
