import Ducat.Proofs.Evaluation.Activity

/-! What can be required of values, and of the code that passes them on. -/

namespace Ducat

/-- A property of values that evaluation passes on if the code has a property of its own, which
passes to the parts of the code. -/
structure Discipline where
  good : Value → Prop
  allowsExpression : Expression → Prop
  allowsStatement : Statement → Prop
  literal : ∀ constant : Literal, good constant.value
  truth : ∀ truth, good (.bool truth)
  text : ∀ characters, good (.string characters)
  negation : ∀ {value result : Value}, good value → value.negate = .ok result → good result
  cast : ∀ {operand : Expression} {target : ValueType} {rates : Rates} {value result : Value},
    allowsExpression (.cast operand target) → good value →
      value.cast target rates = .ok result → good result
  arithmetic : ∀ (operator : ArithmeticOperator) {left right result : Value},
    good left → good right → operator.apply left right = .ok result → good result
  firstOperand : ∀ {expression first : Expression}, allowsExpression expression →
    expression.firstOperand? = some first → allowsExpression first
  secondOperand : ∀ {expression second : Expression} (value : Value),
    allowsExpression expression → expression.secondOperand? value = some second →
      allowsExpression second
  arguments : ∀ {function : String} {arguments : List Expression},
    allowsExpression (.call function arguments) ∨ allowsStatement (.call function arguments) →
      ∀ argument ∈ arguments, allowsExpression argument
  expression : ∀ {statement : Statement} {expression : Expression}, allowsStatement statement →
    statement.expression? = some expression → allowsExpression expression
  chosen : ∀ {statement next : Statement} (value : Value), allowsStatement statement →
    statement.chosen? value = some next → allowsStatement next
  block : ∀ {statements : List Statement}, allowsStatement (.block statements) →
    ∀ statement ∈ statements, allowsStatement statement

namespace Discipline

def free : Discipline where
  good _ := True
  allowsExpression _ := True
  allowsStatement _ := True
  literal _ := trivial
  truth _ := trivial
  text _ := trivial
  negation _ _ := trivial
  cast _ _ _ := trivial
  arithmetic _ _ _ _ _ _ _ := trivial
  firstOperand _ _ := trivial
  secondOperand _ _ _ := trivial
  arguments _ _ _ := trivial
  expression _ _ := trivial
  chosen _ _ _ := trivial
  block _ _ _ := trivial

variable (discipline : Discipline)

def AllowsCallee : Callee → Prop
  | .defined definition => discipline.allowsStatement (.block definition.body)
  | .builtin _ => True

def AllowsProgram (program : Program) : Prop :=
  ∀ name definition, program.definition? name = some definition →
    discipline.allowsStatement (.block definition.body)

def AllowsActivity : Activity → Prop
  | .evaluation expression => discipline.allowsExpression expression
  | .evaluations expressions => ∀ expression ∈ expressions, discipline.allowsExpression expression
  | .application callee arguments =>
      discipline.AllowsCallee callee ∧ ∀ value ∈ arguments, discipline.good value
  | .execution statement => discipline.allowsStatement statement
  | .executions statements => ∀ statement ∈ statements, discipline.allowsStatement statement

/-- With both tables of rates the casts that are allowed give the same. -/
def SameCasts (rates otherRates : Rates) : Prop :=
  ∀ {operand : Expression} {target : ValueType} {value : Value},
    discipline.allowsExpression (.cast operand target) → discipline.good value →
      value.cast target otherRates = value.cast target rates

theorem sameCasts_self (rates : Rates) : discipline.SameCasts rates rates :=
  fun _ _ => rfl

variable {discipline}

theorem SameCasts.symm {rates otherRates : Rates} (same : discipline.SameCasts rates otherRates) :
    discipline.SameCasts otherRates rates :=
  fun allowed isGood => (same allowed isGood).symm

theorem AllowsProgram.callee {program : Program} (allowed : discipline.AllowsProgram program)
    {name : String} {count : Nat} {callee : Callee}
    (found : Callee.find program name count = .ok callee) : discipline.AllowsCallee callee := by
  cases callee with
  | builtin => trivial
  | defined definition => exact allowed name definition (Callee.definition?_of_find found)

theorem AllowsActivity.arguments {activity : Activity}
    (allowed : discipline.AllowsActivity activity) {function : String}
    {arguments : List Expression} (isCall : activity.call? = some (function, arguments)) :
    ∀ argument ∈ arguments, discipline.allowsExpression argument := by
  cases activity with
  | evaluation expression =>
      cases expression <;> cases isCall
      exact discipline.arguments (.inl allowed)
  | execution statement =>
      cases statement <;> cases isCall
      exact discipline.arguments (.inr allowed)
  | evaluations | application | executions => cases isCall

theorem free_allowsCallee (callee : Callee) : free.AllowsCallee callee := by
  cases callee <;> trivial

theorem free_allowsProgram (program : Program) : free.AllowsProgram program :=
  fun _ _ _ => trivial

end Discipline

end Ducat
