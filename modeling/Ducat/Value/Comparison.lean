import Ducat.RuntimeError

/-! The order of values of one type. -/

namespace Ducat

namespace Value

/-- Strings are ordered by code points, `false` comes before `true`, and amounts are compared
whatever their forms. -/
def order (left right : Value) : Except RuntimeError Ordering :=
  match left, right with
  | .int first, .int second => .ok (compare first.toInt second.toInt)
  | .float first, .float second => .ok (compare (Double.rank first) (Double.rank second))
  | .string first, .string second => .ok (compare first second)
  | .bool first, .bool second => .ok (compare first second)
  | .money first, .money second =>
      if first.currency = second.currency then .ok (first.amount.order second.amount)
      else .error (.differentTypes left right)
  | _, _ => .error (.differentTypes left right)

end Value

namespace ComparisonOperator

def apply (operator : ComparisonOperator) (left right : Value) : Except RuntimeError Bool :=
  (left.order right).map operator.holds

end ComparisonOperator

end Ducat
