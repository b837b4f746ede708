import Ducat.Number.Power

/-! Whole numbers written in decimal digits, perhaps with a sign in front. -/

namespace Ducat

namespace Digits

def valueOf (digit : Char) : Nat := digit.toNat - '0'.toNat

def value (digits : List Char) : Nat :=
  digits.foldl (fun number digit => 10 * number + valueOf digit) 0

def value? (characters : List Char) : Option Nat :=
  if characters.isEmpty || !characters.all Char.isDigit then none else some (value characters)

def count (number : Nat) : Nat := (Nat.toDigits 10 number).length

theorem lt_powerOfTen_count (number : Nat) : number < powerOfTen (count number) :=
  (Nat.length_toDigits_le_iff (by decide) Nat.length_toDigits_pos).1 (Nat.le_refl _)

def splitSign : List Char → Bool × List Char
  | '-' :: rest => (true, rest)
  | '+' :: rest => (false, rest)
  | rest => (false, rest)

def signed (negative : Bool) (magnitude : Nat) : Int :=
  if negative then -(magnitude : Int) else magnitude

def signedText (negative : Bool) (text : String) : String :=
  if negative then "-" ++ text else text

end Digits

end Ducat
