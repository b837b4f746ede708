import Ducat.Evaluation.Builtin
import Ducat.Program

/-! Which function a call runs, and what it is checked for. -/

namespace Ducat

def checkArgumentCount (function : String) (expected found : Nat) :
    Except RuntimeError Unit :=
  if expected = found then .ok () else .error (.argumentCount function expected found)

namespace ValueType

def check (type : ValueType) (value : Value) : Except RuntimeError Unit :=
  if type.accepts value then .ok () else .error (.typeMismatch type value)

end ValueType

namespace Value

def truth : Value → Except RuntimeError Bool
  | .bool truth => .ok truth
  | value => .error (.typeMismatch .bool value)

end Value

inductive Flow where
  | proceed
  | leave (value : Option Value)

namespace Flow

def value? : Flow → Option Value
  | proceed => none
  | leave value => value

end Flow

namespace Parameter

def check (parameter : Parameter) (value : Value) : Except RuntimeError Unit :=
  match parameter.type with
  | some type => type.check value
  | none => .ok ()

end Parameter

namespace Definition

/-- Binds parameters to arguments in order, and fails at the first of a wrong type. -/
def bindAll (scope : Scope) : List (Parameter × Value) → Except RuntimeError Scope
  | [] => .ok scope
  | (parameter, value) :: rest => do
      parameter.check value
      bindAll (scope.insert parameter.name value) rest

def bind (definition : Definition) (arguments : List Value) : Except RuntimeError Scope :=
  bindAll ∅ (definition.parameters.zip arguments)

def checkReturn (definition : Definition) (flow : Flow) :
    Except RuntimeError (Option Value) :=
  match definition.returnType, flow.value? with
  | .void, none => .ok none
  | .void, some value => .error (.typeMismatch .void value)
  | type, none => .error (.noValueReturned definition.name type)
  | type, some value => do
      type.check value
      return some value

end Definition

inductive Callee where
  | defined (definition : Definition)
  | builtin (builtin : Builtin)

namespace Callee

/-- The function of a name that takes so many arguments. The program's own functions come before
the others. -/
def find (program : Program) (name : String) (argumentCount : Nat) :
    Except RuntimeError Callee :=
  match program.definition? name with
  | some definition => do
      checkArgumentCount definition.name definition.parameters.length argumentCount
      return .defined definition
  | none =>
      match Builtin.ofName? name with
      | some found => do
          checkArgumentCount found.name found.arity argumentCount
          return .builtin found
      | none => .error (.missingFunction name)

end Callee

end Ducat
