import Ducat.Evaluation.Action

/-! Functions that every program can call without defining them. -/

namespace Ducat

inductive Builtin where
  | print
  | typeOf
deriving DecidableEq, Repr

namespace Builtin

def name : Builtin → String
  | print => "print"
  | typeOf => "typeof"

def ofName? (name : String) : Option Builtin :=
  [print, typeOf].find? fun builtin => builtin.name == name

def arity : Builtin → Nat
  | print => 1
  | typeOf => 1

def writeLines : List Value → Action Unit
  | [] => return ()
  | value :: rest => do
      Action.writeLine value.text
      writeLines rest

def run : Builtin → List Value → Action (Option Value)
  | print, values => do
      writeLines values
      Action.flush
      return none
  | typeOf, values => return values.head?.map fun value => .string value.type.text

end Builtin

end Ducat
