import Ducat.Rates
import Ducat.Value.Conversion

/-! Casts of values to declared types. -/

namespace Ducat

namespace Money

/-- The same money in another currency. Its own currency needs no rate. -/
def convert (money : Money) (target : String) (rates : Rates) : Except RuntimeError Money :=
  if money.currency = target then .ok money
  else
    match rates.rate? money.currency target with
    | none => .error (.missingRate money.currency target)
    | some rate => do
        return ⟨money.amount.convert (← Value.decimalOfFloat rate), target⟩

end Money

namespace Value

def integerOfText (characters : String) : Except RuntimeError Int64 :=
  match Integer.read? characters with
  | some number => .ok number
  | none => .error (.invalidNumber characters .int)

def floatOfText (characters : String) : Except RuntimeError Float :=
  match (Double.read? characters).filter fun number => (Double.ofFloat number).isFinite with
  | some number => .ok number
  | none => .error (.invalidNumber characters .float)

def toMoney (value : Value) (currency : Option String) (rates : Rates) :
    Except RuntimeError Value :=
  match value, currency with
  | .int number, some target => .ok (.money ⟨.ofInt number.toInt, target⟩)
  | .float number, some target => do
      return .money ⟨← decimalOfFloat number, target⟩
  | .money amount, some target => do return .money (← amount.convert target rates)
  | _, _ => .error (.unsupportedCast value.type (.money currency))

def cast (value : Value) (target : ValueType) (rates : Rates) : Except RuntimeError Value :=
  match value, target with
  | .int _, .int | .float _, .float | .string _, .string | .bool _, .bool => .ok value
  | .int number, .float => do return .float (← floatOfInteger number)
  | .float number, .int => do return .int (← integerOfFloat number)
  | .money amount, .int => do return .int (← integerOfDecimal amount.amount)
  | .money amount, .float => do return .float (← floatOfDecimal amount.amount)
  | .string characters, .int => do return .int (← integerOfText characters)
  | .string characters, .float => do return .float (← floatOfText characters)
  | .int _, .string | .float _, .string | .bool _, .string | .money _, .string =>
      .ok (.string value.text)
  | _, .money currency => toMoney value currency rates
  | _, _ => .error (.unsupportedCast value.type target)

end Value

end Ducat
