import Ducat.Operator
import Ducat.Value

/-! Expressions, as they are written in a program. -/

namespace Ducat

inductive Literal where
  | int (number : Int64)
  | float (number : Float)
  | string (content : String)
  | bool (truth : Bool)

namespace Literal

def value : Literal → Value
  | int number => .int number
  | float number => .float number
  | string content => .string content
  | bool truth => .bool truth

end Literal

/-- Brackets are part of the expression. A sign in front of an operand binds more tightly than a
cast behind it. -/
inductive Expression where
  | literal (literal : Literal)
  | reference (name : String)
  | call (function : String) (arguments : List Expression)
  | bracketed (inner : Expression)
  | negation (operand : Expression)
  | cast (operand : Expression) (target : ValueType)
  | arithmetic (operator : ArithmeticOperator) (left right : Expression)
  | comparison (operator : ComparisonOperator) (left right : Expression)
  | logical (operator : LogicalOperator) (left right : Expression)
  | not (operand : Expression)

end Ducat
