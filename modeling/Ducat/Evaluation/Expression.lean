import Ducat.Evaluation.Callee
import Ducat.Value.Arithmetic
import Ducat.Value.Cast
import Ducat.Value.Comparison

/-! Evaluation of expressions. How a function of the program is run is a parameter. -/

namespace Ducat

structure Setting where
  program : Program
  rates : Rates
  /-- Runs a function of the program on its arguments. -/
  invoke : Definition → List Value → Action (Option Value)

namespace Setting

def apply (setting : Setting) : Callee → List Value → Action (Option Value)
  | .defined definition, arguments => setting.invoke definition arguments
  | .builtin builtin, arguments => builtin.run arguments

/-- Calls a function by name. It is found before `arguments`, of which there are `count`, are
evaluated. -/
def call (setting : Setting) (function : String) (count : Nat) (arguments : Action (List Value)) :
    Action (Option Value) := do
  let callee ← Callee.find setting.program function count
  setting.apply callee (← arguments)

end Setting

mutual

/-- Operands and arguments are evaluated from left to right, and the right operand of a logical
operator only if the left one does not decide. -/
def Expression.evaluate (setting : Setting) : Expression → Action Value
  | .literal constant => return constant.value
  | .reference name => Action.read name
  | .call function arguments => do
      let result ← setting.call function arguments.length
        (Expression.evaluateAll setting arguments)
      match result with
      | some value => return value
      | none => Action.fail (.missingValue function)
  | .bracketed inner => inner.evaluate setting
  | .negation operand => do
      let value ← operand.evaluate setting
      value.negate
  | .cast operand target => do
      let value ← operand.evaluate setting
      value.cast target setting.rates
  | .arithmetic operator left right => do
      let left ← left.evaluate setting
      let right ← right.evaluate setting
      operator.apply left right
  | .comparison operator left right => do
      let left ← left.evaluate setting
      let right ← right.evaluate setting
      return .bool (← operator.apply left right)
  | .logical operator left right => do
      let left ← (← left.evaluate setting).truth
      if left = operator.decisive then return .bool left
      else return .bool (← (← right.evaluate setting).truth)
  | .not operand => do
      let truth ← (← operand.evaluate setting).truth
      return .bool (!truth)

def Expression.evaluateAll (setting : Setting) : List Expression → Action (List Value)
  | [] => return []
  | first :: rest => do
      let value ← first.evaluate setting
      return value :: (← Expression.evaluateAll setting rest)

end

end Ducat
