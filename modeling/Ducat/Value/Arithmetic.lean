import Ducat.Value.Conversion

/-! Arithmetic on values. Whole numbers never wrap around, and money is exact except in a
division. -/

namespace Ducat

namespace Value

def whole (operation : IntegerOperation) (result : Int) : Except RuntimeError Value :=
  match Integer.ofInt? result with
  | some number => .ok (.int number)
  | none => .error (.overflow operation)

def requireSameType (left right : Value) : Except RuntimeError Unit :=
  if left.type = right.type then .ok () else .error (.differentTypes left right)

def add (left right : Value) : Except RuntimeError Value := do
  requireSameType left right
  match left, right with
  | .int first, .int second => whole (.binary .add) (first.toInt + second.toInt)
  | .float first, .float second => .ok (.float (first + second))
  | .string first, .string second => .ok (.string (first ++ second))
  | .money first, .money second =>
      .ok (.money (first.withAmount (first.amount.add second.amount)))
  | _, _ => .error (.unsupportedOperands .add left.type right.type)

def subtract (left right : Value) : Except RuntimeError Value := do
  requireSameType left right
  match left, right with
  | .int first, .int second => whole (.binary .subtract) (first.toInt - second.toInt)
  | .float first, .float second => .ok (.float (first - second))
  | .money first, .money second =>
      .ok (.money (first.withAmount (first.amount.subtract second.amount)))
  | _, _ => .error (.unsupportedOperands .subtract left.type right.type)

def scale (money : Money) (factor : Decimal) : Value :=
  .money (money.withAmount (money.amount.multiply factor))

/-- A whole number beside a floating-point number counts as one, and money can be scaled from
either side. -/
def multiply (left right : Value) : Except RuntimeError Value :=
  match left, right with
  | .int first, .int second => whole (.binary .multiply) (first.toInt * second.toInt)
  | .int first, .float second => do return .float ((← floatOfInteger first) * second)
  | .float first, .int second => do return .float (first * (← floatOfInteger second))
  | .float first, .float second => .ok (.float (first * second))
  | .money amount, .int factor => .ok (scale amount (.ofInt factor.toInt))
  | .int factor, .money amount => .ok (scale amount (.ofInt factor.toInt))
  | .money amount, .float factor => do return scale amount (← decimalOfFloat factor)
  | .float factor, .money amount => do return scale amount (← decimalOfFloat factor)
  | _, _ => .error (.unsupportedOperands .multiply left.type right.type)

/-- Whether `right` is a zero by which `left` could otherwise be divided. -/
def isZeroDivisor (left right : Value) : Bool :=
  match left, right with
  | .int _, .int divisor | .float _, .int divisor | .money _, .int divisor =>
      divisor.toInt == 0
  | .int _, .float divisor | .float _, .float divisor | .money _, .float divisor =>
      (Double.ofFloat divisor).isZero
  | .money _, .money divisor => divisor.amount.isZero
  | _, _ => false

def shrink (money : Money) (divisor : Decimal) : Value :=
  .money (money.withAmount (money.amount.divide divisor))

def quotient (left right : Value) : Except RuntimeError Value :=
  match left, right with
  | .int first, .int second => whole (.binary .divide) (first.toInt.tdiv second.toInt)
  | .int first, .float second => do return .float ((← floatOfInteger first) / second)
  | .float first, .int second => do return .float (first / (← floatOfInteger second))
  | .float first, .float second => .ok (.float (first / second))
  | .money amount, .int divisor => .ok (shrink amount (.ofInt divisor.toInt))
  | .money amount, .float divisor => do return shrink amount (← decimalOfFloat divisor)
  | .money first, .money second => do
      return .float (← floatOfDecimal (first.amount.divide second.amount))
  | _, _ => .error (.unsupportedOperands .divide left.type right.type)

/-- Two amounts in one currency have a ratio that is a floating-point number. -/
def divide (left right : Value) : Except RuntimeError Value :=
  match left, right with
  | .money first, .money second =>
      if first.currency ≠ second.currency then .error (.differentTypes left right)
      else if isZeroDivisor left right then .error .divisionByZero
      else quotient left right
  | _, _ => if isZeroDivisor left right then .error .divisionByZero else quotient left right

def negate : Value → Except RuntimeError Value
  | .int number => whole .negation (-number.toInt)
  | .float number => .ok (.float (-number))
  | .money amount => .ok (.money (amount.withAmount amount.amount.negate))
  | value => .error (.notNegatable value.type)

end Value

namespace ArithmeticOperator

def apply : ArithmeticOperator → Value → Value → Except RuntimeError Value
  | add => Value.add
  | subtract => Value.subtract
  | multiply => Value.multiply
  | divide => Value.divide

end ArithmeticOperator

end Ducat
