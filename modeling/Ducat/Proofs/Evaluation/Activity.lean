import Ducat.Evaluation.Call

/-! What a running program is occupied with, and the parts of which that is made: those that it
evaluates, executes or calls itself, one after the other. -/

namespace Ducat

namespace Expression

def firstOperand? : Expression → Option Expression
  | .literal _ | .reference _ | .call _ _ => none
  | .bracketed operand | .negation operand | .cast operand _ | .not operand => some operand
  | .arithmetic _ left _ | .comparison _ left _ | .logical _ left _ => some left

/-- The operand that is evaluated behind a first one of the given value. -/
def secondOperand? (first : Value) : Expression → Option Expression
  | .arithmetic _ _ right | .comparison _ _ right => some right
  | .logical operator _ right =>
      match first with
      | .bool truth => if truth = operator.decisive then none else some right
      | _ => none
  | _ => none

end Expression

namespace Statement

def expression? : Statement → Option Expression
  | .assign _ value | .declare _ _ value => some value
  | .leave value => value
  | .branch condition _ | .choice condition _ _ | .loop condition _ => some condition
  | .call _ _ | .block _ => none

/-- The statement that is executed next if that expression has the given value. -/
def chosen? (value : Value) : Statement → Option Statement
  | .branch _ consequence =>
      match value with
      | .bool true => some consequence
      | _ => none
  | .choice _ consequence alternative =>
      match value with
      | .bool true => some consequence
      | .bool false => some alternative
      | _ => none
  | .loop _ body =>
      match value with
      | .bool true => some (.block body)
      | _ => none
  | _ => none

end Statement

inductive Activity where
  | evaluation (expression : Expression)
  /-- Evaluates the arguments of a call, or those that are left of them. -/
  | evaluations (expressions : List Expression)
  | application (callee : Callee) (arguments : List Value)
  | execution (statement : Statement)
  /-- Executes the statements of a block, or those that are left of them. -/
  | executions (statements : List Statement)

namespace Activity

def call? : Activity → Option (String × List Expression)
  | evaluation (.call function arguments) => some (function, arguments)
  | execution (.call function arguments) => some (function, arguments)
  | _ => none

end Activity

theorem Callee.definition?_of_find {program : Program} {name : String} {count : Nat}
    {definition : Definition} (found : find program name count = .ok (.defined definition)) :
    program.definition? name = some definition := by
  unfold find at found
  cases defined : program.definition? name with
  | none =>
      rw [defined] at found
      dsimp only at found
      split at found
      · unfold checkArgumentCount at found
        split at found <;> cases found
      · cases found
  | some other =>
      rw [defined] at found
      dsimp only [checkArgumentCount] at found
      split at found <;> cases found
      rfl

end Ducat
