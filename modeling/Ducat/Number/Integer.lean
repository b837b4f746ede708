import Ducat.Number.Digits

/-! Whole numbers of 64 bits, whose operations fail where the exact result does not fit. -/

namespace Ducat

namespace Integer

def minimum : Int := -0x8000000000000000

def maximum : Int := 0x7FFFFFFFFFFFFFFF

def ofInt? (value : Int) : Option Int64 :=
  if minimum ≤ value ∧ value ≤ maximum then some (Int64.ofInt value) else none

theorem toInt_of_ofInt? {value : Int} {number : Int64} (fits : ofInt? value = some number) :
    number.toInt = value := by
  unfold ofInt? at fits
  split at fits
  case isTrue range =>
    cases fits
    unfold minimum maximum at range
    exact Int64.toInt_ofInt_of_le (by omega) (by omega)
  case isFalse => cases fits

theorem ofInt?_toInt (number : Int64) : ofInt? number.toInt = some number := by
  have lower := number.le_toInt
  have upper := number.toInt_lt
  have range : minimum ≤ number.toInt ∧ number.toInt ≤ maximum := by
    unfold minimum maximum
    omega
  rw [ofInt?, if_pos range, Int64.ofInt_toInt]

def text (number : Int64) : String := toString number.toInt

def read? (text : String) : Option Int64 :=
  let (negative, digits) := Digits.splitSign text.toList
  (Digits.value? digits).bind fun magnitude => ofInt? (Digits.signed negative magnitude)

end Integer

end Ducat
