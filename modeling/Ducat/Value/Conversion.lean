import Ducat.Number.DecimalFloat
import Ducat.RuntimeError

/-! Conversions between the kinds of number, which fail where no number stands for the other. -/

namespace Ducat

namespace Value

def floatOfInteger (number : Int64) : Except RuntimeError Float :=
  match Double.ofInteger? number with
  | some converted => .ok converted
  | none => .error (.invalidNumber (Integer.text number) .float)

def integerOfFloat (number : Float) : Except RuntimeError Int64 :=
  match Double.toInteger? number with
  | some converted => .ok converted
  | none => .error (.invalidNumber (Double.text number) .int)

def decimalOfFloat (number : Float) : Except RuntimeError Decimal :=
  match Decimal.ofFloat? number with
  | some converted => .ok converted
  | none => .error (.invalidNumber (Double.text number) .money)

def floatOfDecimal (number : Decimal) : Except RuntimeError Float :=
  match number.toFloat? with
  | some converted => .ok converted
  | none => .error (.invalidNumber number.text .float)

def integerOfDecimal (number : Decimal) : Except RuntimeError Int64 :=
  match number.toInteger? with
  | some converted => .ok converted
  | none => .error (.invalidNumber number.text .int)

end Value

end Ducat
