/-! The types that a program can declare, and their names. -/

namespace Ducat

/-- The type of money names its currency. Money without a named currency is no type of any value,
and neither is `void`. -/
inductive ValueType where
  | int
  | float
  | string
  | bool
  | money (currency : Option String)
  | void
deriving DecidableEq, Repr

namespace ValueType

def text : ValueType → String
  | int => "int"
  | float => "float"
  | string => "string"
  | bool => "bool"
  | money (some currency) => currency
  | money none => "currency"
  | void => "void"

end ValueType

end Ducat
