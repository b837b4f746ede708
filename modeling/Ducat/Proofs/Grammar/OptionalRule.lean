import Ducat.Proofs.Grammar.Metered
import Ducat.Proofs.Grammar.Taking.Definition
import Ducat.Proofs.Grammar.Unread

/-! The rules of the grammar that yield nothing where no token is their first one. Main statement: a
rule that yields nothing leaves its place as it was, one that yields something has taken a token,
and each of them ends, with any result or error, after taking each token at most once. -/

namespace Ducat

namespace Grammar

open Source

inductive OptionalRule where
  | definition
  | parameter
  | block
  | statement
  | instruction
  | condition
  | conjunction
  | comparison
  | relation
  | negatedCondition
  | sum
  | product
  | cast
  | negation
  | factor
deriving DecidableEq, Repr

namespace OptionalRule

def Result : OptionalRule → Type
  | definition => Definition
  | parameter => Parameter
  | block => List Statement
  | statement => Statement
  | instruction => Statement
  | condition => Expression
  | conjunction => Expression
  | comparison => Expression
  | relation => Expression
  | negatedCondition => Expression
  | sum => Expression
  | product => Expression
  | cast => Expression
  | negation => Expression
  | factor => Expression

section

variable {σ : Type} [Source σ]

def readingOver (conditions : Reading σ (Option Expression))
    (statements : Reading σ (Option Statement)) (limit : Nat) :
    (rule : OptionalRule) → Reading σ (Option rule.Result)
  | definition => definitionOver statements limit
  | parameter => Grammar.parameter
  | block => Grammar.block statements limit
  | statement => statementOver conditions statements limit
  | instruction => Grammar.instruction conditions limit
  | condition => disjunction conditions limit
  | conjunction => Grammar.conjunction conditions limit
  | comparison => Grammar.comparison conditions limit
  | relation => Grammar.relation conditions limit
  | negatedCondition => Grammar.negatedCondition conditions limit
  | sum => Grammar.sum conditions limit
  | product => Grammar.product conditions limit
  | cast => Grammar.cast conditions limit
  | negation => Grammar.negation conditions limit
  | factor => Grammar.factor conditions limit

def reading (rule : OptionalRule) (limit : Nat) : Reading σ (Option rule.Result) :=
  rule.readingOver (Grammar.condition limit) (Grammar.statement limit) limit

/-- The rule, where other readings stand in for conditions and statements that are nested `limit`
times. -/
def readingWithin (conditions : Reading σ (Option Expression))
    (statements : Reading σ (Option Statement)) (rule : OptionalRule) (limit : Nat) :
    Reading σ (Option rule.Result) :=
  rule.readingOver (conditionWithin conditions limit) (statementWithin conditions statements limit)
    limit

theorem reading_eq (rule : OptionalRule) (limit : Nat) :
    (rule.reading limit : Reading σ (Option rule.Result)) =
      rule.readingWithin (pure none) (pure none) limit := by
  rw [reading, readingWithin, condition_eq, statement_eq]

/-- A limit counts the conditions that may stand inside, and in the grammar the outermost one too.
It is the same with statements. -/
theorem reading_condition (limit : Nat) :
    (condition.reading limit : Reading σ (Option Expression)) = Grammar.condition (limit + 1) := rfl

theorem reading_statement (limit : Nat) :
    (statement.reading limit : Reading σ (Option Statement)) = Grammar.statement (limit + 1) := rfl

theorem reading_definition (limit : Nat) :
    (definition.reading limit : Reading σ (Option Definition)) = Grammar.definition limit :=
  (definition_eq limit).symm

end

section

variable {σ τ : Type} [Source σ] [Source τ] {ending : Except LexError Position}
  {left count otherCount : Nat} {source : σ} {other : τ}

theorem readingOver_mirrors (rule : OptionalRule) {bound : Nat}
    {conditions : Reading σ (Option Expression)} {otherConditions : Reading τ (Option Expression)}
    {statements : Reading σ (Option Statement)} {otherStatements : Reading τ (Option Statement)}
    (conditions_mirror : ∀ {left source other}, left < bound →
      Mirrors ending left source other conditions otherConditions (Moves left))
    (statements_mirror : ∀ {left source other}, left < bound →
      Mirrors ending left source other statements otherStatements (Moves left))
    (enough : bound ≤ count ∧ bound ≤ otherCount) (near : left ≤ bound) :
    Mirrors ending left source other (rule.readingOver conditions statements count)
      (rule.readingOver otherConditions otherStatements otherCount) (Moves left) := by
  cases rule with
  | definition => exact definitionOver_mirrors statements_mirror enough near
  | parameter => exact parameter_mirrors
  | block => exact block_mirrors statements_mirror near enough
  | statement => exact statementOver_mirrors conditions_mirror enough statements_mirror near
  | instruction => exact instruction_mirrors conditions_mirror enough near
  | condition => exact disjunction_mirrors conditions_mirror enough near
  | conjunction => exact conjunction_mirrors conditions_mirror enough near
  | comparison => exact comparison_mirrors conditions_mirror enough near
  | relation => exact relation_mirrors conditions_mirror enough near
  | negatedCondition => exact negatedCondition_mirrors conditions_mirror enough near
  | sum => exact sum_mirrors conditions_mirror enough near
  | product => exact product_mirrors conditions_mirror enough near
  | cast => exact cast_mirrors conditions_mirror enough near
  | negation => exact negation_mirrors conditions_mirror enough near
  | factor => exact factor_mirrors conditions_mirror enough near

theorem readingWithin_mirrors (rule : OptionalRule) {conditions : Reading σ (Option Expression)}
    {otherConditions : Reading τ (Option Expression)} {statements : Reading σ (Option Statement)}
    {otherStatements : Reading τ (Option Statement)} (enough : left < count)
    (otherEnough : left < otherCount) :
    Mirrors ending left source other (rule.readingWithin conditions statements count)
      (rule.readingWithin otherConditions otherStatements otherCount) (Moves left) := by
  have conditions_mirror {left : Nat} {source : σ} {other : τ}
      (nearer : left < min count otherCount) :
      Mirrors ending left source other (conditionWithin conditions count)
        (conditionWithin otherConditions otherCount) (Moves left) :=
    conditionWithin_mirrors (by omega) (by omega)
  have statements_mirror {left : Nat} {source : σ} {other : τ}
      (nearer : left < min count otherCount) :
      Mirrors ending left source other (statementWithin conditions statements count)
        (statementWithin otherConditions otherStatements otherCount) (Moves left) :=
    statementWithin_mirrors (by omega) (by omega)
  exact rule.readingOver_mirrors conditions_mirror statements_mirror ⟨by omega, by omega⟩ (by omega)

theorem reading_mirrors (rule : OptionalRule) (enough : left < count)
    (otherEnough : left < otherCount) :
    Mirrors ending left source other (rule.reading count) (rule.reading otherCount)
      (Moves left) := by
  rw [reading_eq, reading_eq]
  exact rule.readingWithin_mirrors enough otherEnough

end

section

variable {σ : Type} [Source σ] {count : Nat} {source : σ}

theorem reading_takes (rule : OptionalRule) :
    Takes count source (rule.reading count) fun result taken _ => result = none → taken = [] := by
  have offers {α : Type} {reading : Reading σ (Option α)} {tokens : α → List Token}
      {good : α → σ → Prop} (takes : Takes count source reading (Offers tokens good)) :
      Takes count source reading fun result taken _ => result = none → taken = [] := by
    apply takes.mono
    rintro result taken last holds rfl
    exact holds
  cases rule with
  | definition =>
      rw [reading_definition]
      exact offers (definition_takes (Nat.le_refl _))
  | parameter => exact offers parameter_takes
  | block => exact offers (block_takes statement_takes (Nat.le_succ _) (Nat.le_succ _))
  | statement => exact offers (statementOver_takes statement_takes (Nat.le_succ _))
  | instruction =>
      apply instruction_takes.mono
      rintro result taken last holds rfl
      exact holds
  | condition => exact offers (disjunction_takes condition_takes)
  | conjunction => exact offers (conjunction_takes condition_takes)
  | comparison => exact offers (comparison_takes condition_takes)
  | relation => exact offers (relation_takes condition_takes)
  | negatedCondition => exact offers (negatedCondition_takes condition_takes)
  | sum => exact offers (sum_takes condition_takes)
  | product => exact offers (product_takes condition_takes)
  | cast => exact offers (cast_takes condition_takes)
  | negation => exact offers (negation_takes condition_takes)
  | factor => exact offers (factor_takes condition_takes)

end

end OptionalRule

end Grammar

end Ducat
