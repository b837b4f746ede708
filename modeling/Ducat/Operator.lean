/-! The operators that stand between two operands. -/

namespace Ducat

inductive ArithmeticOperator where
  | add
  | subtract
  | multiply
  | divide
deriving DecidableEq, Repr

inductive ComparisonOperator where
  | equal
  | notEqual
  | greater
  | greaterOrEqual
  | less
  | lessOrEqual
deriving DecidableEq, Repr

inductive LogicalOperator where
  | or
  | and
deriving DecidableEq, Repr

namespace ArithmeticOperator

def name : ArithmeticOperator → String
  | add => "addition"
  | subtract => "subtraction"
  | multiply => "multiplication"
  | divide => "division"

end ArithmeticOperator

namespace ComparisonOperator

def holds : ComparisonOperator → Ordering → Bool
  | equal, order => order == .eq
  | notEqual, order => order != .eq
  | greater, order => order == .gt
  | greaterOrEqual, order => order != .lt
  | less, order => order == .lt
  | lessOrEqual, order => order != .gt

end ComparisonOperator

namespace LogicalOperator

/-- The left operand that decides the result by itself. -/
def decisive : LogicalOperator → Bool
  | or => true
  | and => false

end LogicalOperator

end Ducat
