import Ducat.Operator
import Ducat.Value

/-! The reasons for which a running program stops early, and how they are told. -/

namespace Ducat

inductive NumberKind where
  | int
  | float
  | money
deriving DecidableEq, Repr

namespace NumberKind

def name : NumberKind → String
  | int => "int"
  | float => "float"
  | money => "currency"

end NumberKind

inductive IntegerOperation where
  | binary (operator : ArithmeticOperator)
  | negation
deriving DecidableEq, Repr

namespace IntegerOperation

def name : IntegerOperation → String
  | binary operator => operator.name
  | negation => "negation"

end IntegerOperation

inductive RuntimeError where
  | missingEntry (name : String)
  | missingFunction (name : String)
  | unknownVariable (name : String)
  | variableExists (name : String)
  | argumentCount (function : String) (expected found : Nat)
  | typeMismatch (expected : ValueType) (found : Value)
  | noValueReturned (function : String) (expected : ValueType)
  /-- A call stands for a value, but its function returned none. -/
  | missingValue (function : String)
  | notNegatable (type : ValueType)
  | unsupportedOperands (operator : ArithmeticOperator) (left right : ValueType)
  | differentTypes (left right : Value)
  | divisionByZero
  | unsupportedCast (source target : ValueType)
  | missingRate (source target : String)
  | invalidNumber (text : String) (target : NumberKind)
  | overflow (operation : IntegerOperation)
  | callDepthExceeded (function : String) (limit : Nat)
  | noActiveCall
  | outputFailed (reason : String)

namespace RuntimeError

def message : RuntimeError → String
  | missingEntry name => s!"Missing declaration of main function identified by: {name}."
  | missingFunction name => s!"Missing declaration of function identified by: {name}."
  | unknownVariable name => s!"Variable with identifier: {name} is not defined."
  | variableExists name => s!"Variable with identifier {name} has already been initiated."
  | argumentCount function expected found =>
      s!"Number of expected arguments for function {function}: {expected}; " ++
        s!"number of passed arguments: {found}."
  | typeMismatch expected found =>
      s!"Expected value of type {expected.text} but received {found.description}."
  | noValueReturned function expected =>
      s!"Function {function} should return type {expected.text} but no value was returned."
  | missingValue function => s!"Function {function} does not produce a value."
  | notNegatable type =>
      s!"Unsupported value type: {type.text} handled in operation {IntegerOperation.negation.name}."
  | unsupportedOperands operator left right =>
      s!"Unsupported combination of value types: {left.text}, {right.text} " ++
        s!"passed to operation {operator.name}."
  | differentTypes left right =>
      s!"Values of different types cannot be combined: {left.description} and " ++
        s!"{right.description}."
  | divisionByZero => "Division by zero."
  | unsupportedCast source target => s!"Cannot cast from {source.text} to {target.text}."
  | missingRate source target =>
      s!"Cannot cast from {source} to {target}. Missing currency exchange rate."
  | invalidNumber text target => s!"Value '{text}' cannot be converted to {target.name}."
  | overflow operation => s!"Integer overflow while trying to compute {operation.name}."
  | callDepthExceeded function limit =>
      s!"Call of function {function} exceeds the maximum call depth of {limit}."
  | noActiveCall => "No function call is active."
  | outputFailed reason => s!"Failed to write program output: {reason}."

end RuntimeError

end Ducat
