import Ducat.Expression

/-! Statements, as they are written in a program. -/

namespace Ducat

inductive Statement where
  | assign (name : String) (value : Expression)
  | declare (type : ValueType) (name : String) (value : Expression)
  /-- Leaves the function, with a value or without one. -/
  | leave (value : Option Expression)
  | branch (condition : Expression) (consequence : Statement)
  | choice (condition : Expression) (consequence alternative : Statement)
  | loop (condition : Expression) (body : List Statement)
  /-- A call whose value, if there is one, is not used. -/
  | call (function : String) (arguments : List Expression)
  | block (statements : List Statement)

end Ducat
