import Ducat.Evaluation.Expression

/-! Execution of statements. -/

namespace Ducat

namespace Expression

def test (setting : Setting) (condition : Expression) : Action Bool := do
  (← condition.evaluate setting).truth

end Expression

/-- Repeats `body` as long as `test` holds and the function is not left, at most `steps` times. -/
def repeatWhile (test : Action Bool) (body : Action Flow) : Nat → Action Flow
  | 0 => Action.exhaust
  | steps + 1 => fun machine =>
      match test machine with
      | .exhausted => .exhausted
      | .finished (.error error) machine => .finished (.error error) machine
      | .finished (.ok false) machine => .finished (.ok .proceed) machine
      | .finished (.ok true) machine =>
          match body machine with
          | .finished (.ok .proceed) machine => repeatWhile test body steps machine
          | outcome => outcome

theorem repeatWhile_succ (test : Action Bool) (body : Action Flow) (steps : Nat) :
    repeatWhile test body (steps + 1) = do
      if ← test then
        match ← body with
        | .proceed => repeatWhile test body steps
        | .leave value => return .leave value
      else return .proceed := by
  funext machine
  cases tested : test machine with
  | exhausted =>
      rw [Action.bind_of_exhausted tested]
      simp only [repeatWhile, tested]
  | finished result between =>
      cases result with
      | error error =>
          rw [Action.bind_of_error tested]
          simp only [repeatWhile, tested]
      | ok truth =>
          rw [Action.bind_of_ok tested]
          cases truth with
          | false =>
              simp only [repeatWhile, tested]
              rfl
          | true =>
              rw [if_pos rfl]
              cases executed : body between with
              | exhausted =>
                  rw [Action.bind_of_exhausted executed]
                  simp only [repeatWhile, tested, executed]
              | finished result after =>
                  cases result with
                  | error error =>
                      rw [Action.bind_of_error executed]
                      simp only [repeatWhile, tested, executed]
                  | ok flow =>
                      rw [Action.bind_of_ok executed]
                      simp only [repeatWhile, tested, executed]
                      cases flow <;> rfl

mutual

def Statement.execute (setting : Setting) (steps : Nat) : Statement → Action Flow
  | .assign name value => do
      let value ← value.evaluate setting
      Action.assign name value
      return .proceed
  | .declare type name value => do
      let value ← value.evaluate setting
      type.check value
      Action.define name value
      return .proceed
  | .leave none => return .leave none
  | .leave (some value) => do
      let value ← value.evaluate setting
      return .leave (some value)
  | .branch condition consequence => do
      if ← condition.test setting then consequence.execute setting steps
      else return .proceed
  | .choice condition consequence alternative => do
      if ← condition.test setting then consequence.execute setting steps
      else alternative.execute setting steps
  | .loop condition body =>
      repeatWhile (condition.test setting)
        (Action.inScope (Statement.executeAll setting steps body)) steps
  | .call function arguments => do
      let _ ← setting.call function arguments.length
        (Expression.evaluateAll setting arguments)
      return .proceed
  | .block statements => Action.inScope (Statement.executeAll setting steps statements)

def Statement.executeAll (setting : Setting) (steps : Nat) : List Statement → Action Flow
  | [] => return .proceed
  | first :: rest => do
      match ← first.execute setting steps with
      | .proceed => Statement.executeAll setting steps rest
      | .leave value => return .leave value

end

namespace Statement

def executeBlock (setting : Setting) (steps : Nat) (statements : List Statement) : Action Flow :=
  Action.inScope (executeAll setting steps statements)

end Statement

end Ducat
