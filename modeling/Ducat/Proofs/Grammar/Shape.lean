import Ducat.Proofs.Grammar.Written

/-! The shape of expressions, statements and definitions that can be written without adding or
removing brackets. -/

namespace Ducat

namespace Expression

/-- The places of the grammar at which an expression can stand, from that of the most tightly
binding expressions to that of all. -/
inductive Level where
  | factor
  | negation
  | cast
  | product
  | sum
  | negatedCondition
  | relation
  | comparison
  | conjunction
  | disjunction
deriving DecidableEq, Repr

namespace Level

def tighter : Level → Level
  | factor => factor
  | negation => factor
  | cast => negation
  | product => cast
  | sum => product
  | negatedCondition => sum
  | relation => negatedCondition
  | comparison => relation
  | conjunction => comparison
  | disjunction => conjunction

def rank : Level → Nat
  | factor => 0
  | negation => 1
  | cast => 2
  | product => 3
  | sum => 4
  | negatedCondition => 5
  | relation => 6
  | comparison => 7
  | conjunction => 8
  | disjunction => 9

theorem rank_tighter_le (level : Level) : level.tighter.rank ≤ level.rank := by
  cases level <;> decide

theorem tighter_of_rank_lt {level other : Level} (lt : level.rank < other.rank) :
    level.rank ≤ other.tighter.rank ∧ other.tighter.rank < other.rank := by
  cases other with
  | factor => exact absurd lt (Nat.not_lt_zero _)
  | _ => exact ⟨Nat.le_of_lt_succ lt, by decide⟩

theorem eq_of_rank_eq {level other : Level} (equal : level.rank = other.rank) :
    level = other := by
  cases level <;> cases other <;> first | rfl | cases equal

/-- The tightest level at which an expression goes on with a token of the given kind. -/
def ofFollower? : TokenKind → Option Level
  | .symbol .leftBracket => some factor
  | .keyword .asWord => some cast
  | .symbol .star => some product
  | .symbol .slash => some product
  | .symbol .plus => some sum
  | .symbol .minus => some sum
  | .symbol .greater => some relation
  | .symbol .greaterOrEqual => some relation
  | .symbol .less => some relation
  | .symbol .lessOrEqual => some relation
  | .symbol .equal => some comparison
  | .symbol .notEqual => some comparison
  | .symbol .and => some conjunction
  | .symbol .or => some disjunction
  | _ => none

/-- An expression of the level is complete where a token of the given kind comes next. -/
def EndsAt (level : Level) (kind : TokenKind) : Prop :=
  ∀ follower, ofFollower? kind = some follower → level.rank < follower.rank

namespace EndsAt

variable {level : Level} {kind : TokenKind}

theorem tighter (ends : level.EndsAt kind) : level.tighter.EndsAt kind :=
  fun follower found => Nat.lt_of_le_of_lt level.rank_tighter_le (ends follower found)

theorem of_none (level : Level) (none : ofFollower? kind = none) : level.EndsAt kind := by
  intro follower found
  rw [none] at found
  cases found

end EndsAt

end Level

end Expression

namespace ArithmeticOperator

def level : ArithmeticOperator → Expression.Level
  | add => .sum
  | subtract => .sum
  | multiply => .product
  | divide => .product

end ArithmeticOperator

namespace ComparisonOperator

def level : ComparisonOperator → Expression.Level
  | equal => .comparison
  | notEqual => .comparison
  | _ => .relation

end ComparisonOperator

namespace LogicalOperator

def level : LogicalOperator → Expression.Level
  | or => .disjunction
  | and => .conjunction

end LogicalOperator

namespace Expression

/-- The expressions of each level. Arithmetic and logical operators of one level are nested to the
left, while comparisons of one level cannot be nested. -/
inductive Fits : Level → Expression → Prop where
  | literal (constant : Literal) : Fits .factor (.literal constant)
  | reference (name : String) : Fits .factor (.reference name)
  | call (function : String) {arguments : List Expression}
      (fits : ∀ argument ∈ arguments, Fits .disjunction argument) :
      Fits .factor (.call function arguments)
  | bracketed {inner : Expression} (fits : Fits .disjunction inner) :
      Fits .factor (.bracketed inner)
  | negation {operand : Expression} (fits : Fits .factor operand) :
      Fits .negation (.negation operand)
  | cast {operand : Expression} {target : ValueType} (fits : Fits .negation operand)
      (variableType : target.isVariableType) : Fits .cast (.cast operand target)
  | arithmetic {operator : ArithmeticOperator} {left right : Expression}
      (leftFits : Fits operator.level left) (rightFits : Fits operator.level.tighter right) :
      Fits operator.level (.arithmetic operator left right)
  | comparison {operator : ComparisonOperator} {left right : Expression}
      (leftFits : Fits operator.level.tighter left)
      (rightFits : Fits operator.level.tighter right) :
      Fits operator.level (.comparison operator left right)
  | logical {operator : LogicalOperator} {left right : Expression}
      (leftFits : Fits operator.level left) (rightFits : Fits operator.level.tighter right) :
      Fits operator.level (.logical operator left right)
  | not {operand : Expression} (fits : Fits .sum operand) :
      Fits .negatedCondition (.not operand)
  /-- An expression of a level belongs to all that are less tight. -/
  | loosen {level : Level} {expression : Expression} (fits : Fits level.tighter expression) :
      Fits level expression

section

variable {level : Level} {left right : Expression}

theorem Fits.arithmetic_of_level {operator : ArithmeticOperator}
    (belongs : operator.level = level) (leftFits : left.Fits level)
    (rightFits : right.Fits level.tighter) :
    (Expression.arithmetic operator left right).Fits level := by
  subst belongs
  exact .arithmetic leftFits rightFits

theorem Fits.comparison_of_level {operator : ComparisonOperator}
    (belongs : operator.level = level) (leftFits : left.Fits level.tighter)
    (rightFits : right.Fits level.tighter) :
    (Expression.comparison operator left right).Fits level := by
  subst belongs
  exact .comparison leftFits rightFits

theorem Fits.logical_of_level {operator : LogicalOperator}
    (belongs : operator.level = level) (leftFits : left.Fits level)
    (rightFits : right.Fits level.tighter) :
    (Expression.logical operator left right).Fits level := by
  subst belongs
  exact .logical leftFits rightFits

end

theorem Fits.widen {level other : Level} {expression : Expression} (fits : expression.Fits level)
    (le : level.rank ≤ other.rank) : expression.Fits other := by
  rcases Nat.eq_or_lt_of_le le with equal | lt
  · rw [← Level.eq_of_rank_eq equal]
    exact fits
  · have between := Level.tighter_of_rank_lt lt
    exact .loosen (fits.widen between.1)
termination_by other.rank
decreasing_by exact between.2

def levelOfFirst? : Token → Option Level
  | .symbol .minus => some .negation
  | .symbol .not => some .negatedCondition
  | _ => none

theorem Fits.levelOfFirst_le {level : Level} {expression : Expression}
    (fits : expression.Fits level) {first : Level}
    (found : levelOfFirst? (Token.next expression.tokens) = some first) :
    first.rank ≤ level.rank := by
  induction fits with
  | literal constant =>
      cases constant with
      | bool truth => cases truth <;> cases found
      | _ => cases found
  | reference => cases found
  | call => cases found
  | bracketed => cases found
  | negation =>
      cases found
      exact Nat.le_refl _
  | cast _ _ induction =>
      rw [tokens, Token.next_append (tokens_ne_nil _)] at found
      exact Nat.le_succ_of_le (induction found)
  | arithmetic _ _ induction =>
      rw [tokens, Token.next_append (tokens_ne_nil _)] at found
      exact induction found
  | comparison _ _ induction =>
      rw [tokens, Token.next_append (tokens_ne_nil _)] at found
      exact Nat.le_trans (induction found) (Level.rank_tighter_le _)
  | logical _ _ induction =>
      rw [tokens, Token.next_append (tokens_ne_nil _)] at found
      exact induction found
  | not =>
      cases found
      exact Nat.le_refl _
  | loosen _ induction => exact Nat.le_trans (induction found) (Level.rank_tighter_le _)

end Expression

namespace Statement

/-- Whether the statement ends with a conditional statement that could go on with an
alternative. -/
def endsOpen : Statement → Bool
  | branch _ _ => true
  | choice _ _ alternative => alternative.endsOpen
  | _ => false

inductive Fits : Statement → Prop where
  | assign (name : String) {value : Expression} (fits : value.Fits .disjunction) :
      Fits (.assign name value)
  | declare {type : ValueType} (name : String) {value : Expression}
      (variableType : type.isVariableType) (fits : value.Fits .disjunction) :
      Fits (.declare type name value)
  | leave {value : Option Expression}
      (fits : ∀ expression ∈ value, expression.Fits .disjunction) : Fits (.leave value)
  | branch {condition : Expression} {consequence : Statement}
      (conditionFits : condition.Fits .disjunction) (consequenceFits : Fits consequence) :
      Fits (.branch condition consequence)
  | choice {condition : Expression} {consequence alternative : Statement}
      (conditionFits : condition.Fits .disjunction) (consequenceFits : Fits consequence)
      (closed : consequence.endsOpen = false) (alternativeFits : Fits alternative) :
      Fits (.choice condition consequence alternative)
  | loop {condition : Expression} {body : List Statement}
      (conditionFits : condition.Fits .disjunction)
      (bodyFits : ∀ statement ∈ body, Fits statement) : Fits (.loop condition body)
  | call (function : String) {arguments : List Expression}
      (fits : ∀ argument ∈ arguments, argument.Fits .disjunction) :
      Fits (.call function arguments)
  | block {statements : List Statement} (fits : ∀ statement ∈ statements, Fits statement) :
      Fits (.block statements)

end Statement

namespace Parameter

def Fits (parameter : Parameter) : Prop := ∀ type ∈ parameter.type, type.isVariableType

end Parameter

namespace Definition

structure Fits (definition : Definition) : Prop where
  returnType : definition.returnType.token?.isSome
  parameters : ∀ parameter ∈ definition.parameters, parameter.Fits
  distinct : (definition.parameters.map Parameter.name).Nodup
  body : ∀ statement ∈ definition.body, statement.Fits

end Definition

end Ducat
