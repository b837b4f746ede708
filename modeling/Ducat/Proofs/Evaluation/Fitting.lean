import Ducat.Proofs.Evaluation.Discipline
import Ducat.Proofs.Evaluation.Operation
import Ducat.Proofs.Grammar.Accepted

/-! Code that can be written down stays so in its parts, and a program that was read from a text
consists of such code. -/

namespace Ducat

namespace Expression.Fits

variable {level : Level} {expression : Expression}

theorem disjunction (fits : expression.Fits level) : expression.Fits .disjunction :=
  fits.widen (by cases level <;> decide)

theorem firstOperand {first : Expression} (fits : expression.Fits level)
    (isFirst : expression.firstOperand? = some first) : first.Fits .disjunction := by
  induction fits with
  | literal | reference | call => cases isFirst
  | bracketed fits | negation fits | cast fits | not fits | arithmetic fits | comparison fits
  | logical fits =>
      cases isFirst
      exact fits.disjunction
  | loosen _ induction => exact induction isFirst

theorem secondOperand {second : Expression} (fits : expression.Fits level) (value : Value)
    (isSecond : expression.secondOperand? value = some second) : second.Fits .disjunction := by
  induction fits with
  | literal | reference | call | bracketed | negation | cast | not => cases isSecond
  | arithmetic _ fits | comparison _ fits =>
      cases isSecond
      exact fits.disjunction
  | logical _ fits =>
      rw [eq_of_secondOperand?_logical isSecond]
      exact fits.disjunction
  | loosen _ induction => exact induction isSecond

theorem arguments {function : String} {arguments : List Expression}
    (fits : (Expression.call function arguments).Fits level) :
    ∀ argument ∈ arguments, argument.Fits .disjunction := by
  generalize isCall : Expression.call function arguments = expression at fits
  induction fits with
  | call _ fits =>
      cases isCall
      exact fits
  | loosen _ induction => exact induction isCall
  | _ => cases isCall

theorem target {operand : Expression} {target : ValueType}
    (fits : (Expression.cast operand target).Fits level) : target.isVariableType := by
  generalize isCast : Expression.cast operand target = expression at fits
  induction fits with
  | cast _ variableType =>
      cases isCast
      exact variableType
  | loosen _ induction => exact induction isCast
  | _ => cases isCast

end Expression.Fits

namespace Statement.Fits

variable {statement next : Statement}

theorem expression {expression : Expression} (fits : statement.Fits)
    (begins : statement.expression? = some expression) : expression.Fits .disjunction := by
  cases fits with
  | assign _ fits | declare _ _ fits | branch fits | choice fits | loop fits =>
      cases begins
      exact fits
  | leave fits => exact fits expression begins
  | call | block => cases begins

theorem chosen (fits : statement.Fits) (value : Value)
    (isNext : statement.chosen? value = some next) : next.Fits := by
  cases fits with
  | branch _ fits =>
      simp only [chosen?] at isNext
      split at isNext <;> cases isNext
      exact fits
  | choice _ fits _ alternativeFits =>
      simp only [chosen?] at isNext
      split at isNext <;> cases isNext
      · exact fits
      · exact alternativeFits
  | loop _ fits =>
      simp only [chosen?] at isNext
      split at isNext <;> cases isNext
      exact .block fits
  | assign | declare | leave | call | block => cases isNext

end Statement.Fits

def Discipline.fitting : Discipline where
  good _ := True
  allowsExpression expression := expression.Fits .disjunction
  allowsStatement statement := statement.Fits
  literal _ := trivial
  truth _ := trivial
  text _ := trivial
  negation _ _ := trivial
  cast _ _ _ := trivial
  arithmetic _ _ _ _ _ _ _ := trivial
  firstOperand fits isFirst := fits.firstOperand isFirst
  secondOperand value fits isSecond := fits.secondOperand value isSecond
  arguments fits := by
    rcases fits with fits | fits
    · exact fits.arguments
    · cases fits with
      | call _ fits => exact fits
  expression fits begins := fits.expression begins
  chosen value fits isNext := fits.chosen value isNext
  block fits := by
    cases fits with
    | block fits => exact fits

theorem Program.allowsProgram_fitting_of_ofText {currencies : List String} {text : String}
    {program : Program} (read : Program.ofText currencies text = .ok program) :
    Discipline.fitting.AllowsProgram program := by
  intro name definition found
  exact .block (fits_of_ofText read found).body

end Ducat
