import Ducat.Proofs.Grammar.Shape
import Ducat.RuntimeError
import Ducat.Number.Integer

/-! Arithmetic on whole numbers: its exact value, the steps that lead to it, and how it is written
with no more brackets than it needs. -/

namespace Ducat

inductive Calculation where
  | number (value : Int64) (unsigned : 0 ≤ value.toInt)
  | negation (operand : Calculation)
  | operation (operator : ArithmeticOperator) (left right : Calculation)

namespace ArithmeticOperator

def exact : ArithmeticOperator → Int → Int → Int
  | add, left, right => left + right
  | subtract, left, right => left - right
  | multiply, left, right => left * right
  | divide, left, right => left.tdiv right

def binding : ArithmeticOperator → Nat
  | add => 0
  | subtract => 0
  | multiply => 1
  | divide => 1

theorem binding_lt (operator : ArithmeticOperator) : operator.binding < 3 := by
  cases operator <;> decide

theorem rank_negation_le (operator : ArithmeticOperator) :
    Expression.Level.negation.rank ≤ operator.level.tighter.rank := by
  cases operator <;> decide

theorem rank_level_le {operator other : ArithmeticOperator}
    (tight : operator.binding ≤ other.binding) :
    other.level.rank ≤ operator.level.rank := by
  cases operator <;> cases other <;> revert tight <;> decide

theorem rank_level_le_tighter {operator other : ArithmeticOperator}
    (tighter : operator.binding < other.binding) :
    other.level.rank ≤ operator.level.tighter.rank := by
  cases operator <;> cases other <;> revert tighter <;> decide

end ArithmeticOperator

namespace Calculation

inductive Step where
  | negation (operand : Int)
  | operation (operator : ArithmeticOperator) (left right : Int)

namespace Step

def value : Step → Int
  | negation operand => -operand
  | operation operator left right => operator.exact left right

def kind : Step → IntegerOperation
  | negation _ => .negation
  | operation operator _ _ => .binary operator

def dividesByZero : Step → Bool
  | operation .divide _ right => right == 0
  | _ => false

def fault? (step : Step) : Option RuntimeError :=
  if step.dividesByZero then some .divisionByZero
  else if Integer.minimum ≤ step.value ∧ step.value ≤ Integer.maximum then none
  else some (.overflow step.kind)

theorem fault?_eq_none_iff (step : Step) :
    step.fault? = none ↔ step.dividesByZero = false ∧
      Integer.minimum ≤ step.value ∧ step.value ≤ Integer.maximum := by
  unfold fault?
  cases step.dividesByZero <;> simp

end Step

def value : Calculation → Int
  | number value _ => value.toInt
  | negation operand => -operand.value
  | operation operator left right => operator.exact left.value right.value

/-- The steps in the order in which they are carried out: those of the operands first, and those of
the left operand before those of the right one. -/
def steps : Calculation → List Step
  | number _ _ => []
  | negation operand => operand.steps ++ [.negation operand.value]
  | operation operator left right =>
      left.steps ++ right.steps ++ [.operation operator left.value right.value]

def binding : Calculation → Nat
  | number _ _ => 3
  | negation _ => 2
  | operation operator _ _ => operator.binding

/-- Brackets stand around the operand of a sign unless it is a literal, around operands whose
operator binds less tightly, and around right operands whose operator binds as tightly. -/
def tokens : Calculation → List Token
  | number value _ => [.int value]
  | negation operand =>
      .symbol .minus ::
        if operand.binding < 3 then Token.bracketed operand.tokens else operand.tokens
  | operation operator left right =>
      (if left.binding < operator.binding then Token.bracketed left.tokens else left.tokens) ++
        .symbol operator.symbol ::
          if right.binding ≤ operator.binding then Token.bracketed right.tokens
          else right.tokens

theorem forall_mem_tokens {good : Token → Prop} (calculation : Calculation)
    (ofNumber : ∀ value : Int64, 0 ≤ value.toInt → good (.int value))
    (ofSymbol : ∀ mark, good (.symbol mark)) : ∀ token ∈ calculation.tokens, good token := by
  have ofEnclosed : ∀ (needed : Prop) [Decidable needed] (tokens : List Token),
      (∀ token ∈ tokens, good token) →
        ∀ token ∈ if needed then Token.bracketed tokens else tokens, good token := by
    intro needed _ tokens inside
    split
    next =>
      rw [Token.bracketed, List.forall_mem_append, List.forall_mem_cons,
        List.forall_mem_singleton]
      exact ⟨⟨ofSymbol _, inside⟩, ofSymbol _⟩
    next => exact inside
  induction calculation with
  | number value unsigned =>
      rw [tokens, List.forall_mem_singleton]
      exact ofNumber value unsigned
  | negation operand induction =>
      rw [tokens, List.forall_mem_cons]
      exact ⟨ofSymbol _, ofEnclosed _ _ induction⟩
  | operation operator left right leftInduction rightInduction =>
      rw [tokens, List.forall_mem_append, List.forall_mem_cons]
      exact ⟨ofEnclosed _ _ leftInduction, ofSymbol _, ofEnclosed _ _ rightInduction⟩

end Calculation

namespace Expression

def enclosed (needed : Prop) [Decidable needed] (expression : Expression) : Expression :=
  if needed then .bracketed expression else expression

variable {needed : Prop} [Decidable needed] {expression : Expression}

theorem tokens_enclosed :
    (enclosed needed expression).tokens =
      if needed then Token.bracketed expression.tokens else expression.tokens := by
  unfold enclosed
  split <;> rfl

theorem Fits.enclosed {level outer : Level} (fits : expression.Fits level)
    (small : ¬ needed → level.rank ≤ outer.rank) : (enclosed needed expression).Fits outer := by
  unfold Expression.enclosed
  split
  next =>
    have anywhere : expression.Fits .disjunction := fits.widen (by cases level <;> decide)
    exact anywhere.bracketed.widen (Nat.zero_le _)
  next bare => exact fits.widen (small bare)

end Expression

namespace Calculation

def expression : Calculation → Expression
  | number value _ => .literal (.int value)
  | negation operand => .negation (operand.expression.enclosed (operand.binding < 3))
  | operation operator left right =>
      .arithmetic operator (left.expression.enclosed (left.binding < operator.binding))
        (right.expression.enclosed (right.binding ≤ operator.binding))

theorem tokens_expression (calculation : Calculation) :
    calculation.expression.tokens = calculation.tokens := by
  induction calculation with
  | number => rfl
  | negation operand induction =>
      rw [expression, Expression.tokens, Expression.tokens_enclosed, induction, tokens]
  | operation operator left right leftInduction rightInduction =>
      rw [expression, Expression.tokens, Expression.tokens_enclosed, Expression.tokens_enclosed,
        leftInduction, rightInduction, tokens]

def level : Calculation → Expression.Level
  | number _ _ => .factor
  | negation _ => .negation
  | operation operator _ _ => operator.level

theorem rank_level_le {calculation : Calculation} {operator : ArithmeticOperator}
    (tight : operator.binding ≤ calculation.binding) :
    calculation.level.rank ≤ operator.level.rank := by
  cases calculation with
  | number => exact Nat.zero_le _
  | negation =>
      exact Nat.le_trans operator.rank_negation_le (Expression.Level.rank_tighter_le _)
  | operation other => exact ArithmeticOperator.rank_level_le tight

theorem rank_level_le_tighter {calculation : Calculation} {operator : ArithmeticOperator}
    (tighter : operator.binding < calculation.binding) :
    calculation.level.rank ≤ operator.level.tighter.rank := by
  cases calculation with
  | number => exact Nat.zero_le _
  | negation => exact operator.rank_negation_le
  | operation other => exact ArithmeticOperator.rank_level_le_tighter tighter

theorem expression_fits (calculation : Calculation) :
    calculation.expression.Fits calculation.level := by
  induction calculation with
  | number value => exact .literal (.int value)
  | negation operand induction =>
      apply Expression.Fits.negation
      apply induction.enclosed
      intro bare
      cases operand with
      | number => exact Nat.zero_le _
      | negation => exact absurd (Nat.lt_succ_self 2) bare
      | operation operator => exact absurd operator.binding_lt bare
  | operation operator left right leftInduction rightInduction =>
      apply Expression.Fits.arithmetic
      · exact leftInduction.enclosed fun bare => rank_level_le (Nat.le_of_not_lt bare)
      · exact rightInduction.enclosed fun bare => rank_level_le_tighter (Nat.lt_of_not_le bare)

end Calculation

end Ducat
