import Ducat.Grammar.Definition
import Ducat.Proofs.Grammar.Shape

/-! What the rules of the grammar recognize: the operators of each level, literals, and names that
stand twice. -/

namespace Ducat

namespace Grammar

/-- `operator?` finds the operators of one level by their symbols, and each is written between the
operands to which `build` applies it. -/
structure Joins {Operator : Type} (operator? : TokenKind → Option Operator)
    (build : Operator → Expression → Expression → Expression) (symbol : Operator → Symbol)
    (levelOf : Operator → Expression.Level) (level : Expression.Level) : Prop where
  level_of_found : ∀ {kind operator}, operator? kind = some operator →
    levelOf operator = level ∧ kind = .symbol (symbol operator)
  found_of_level : ∀ {operator}, levelOf operator = level →
    operator? (.symbol (symbol operator)) = some operator
  follower : ∀ operator, Expression.Level.ofFollower? (.symbol (symbol operator)) =
    some (levelOf operator)
  written : ∀ operator left right,
    (build operator left right).tokens = left.tokens ++ .symbol (symbol operator) :: right.tokens

namespace Joins

variable {Operator : Type} {operator? : TokenKind → Option Operator}
  {build : Operator → Expression → Expression → Expression} {symbol : Operator → Symbol}
  {levelOf : Operator → Expression.Level} {level : Expression.Level}

theorem operator?_eq_none (joins : Joins operator? build symbol levelOf level) {kind : TokenKind}
    (ends : level.EndsAt kind) : operator? kind = none := by
  cases found : operator? kind with
  | none => rfl
  | some operator =>
      rcases joins.level_of_found found with ⟨rfl, rfl⟩
      exact absurd (ends _ (joins.follower operator)) (Nat.lt_irrefl _)

theorem endsAt_symbol (joins : Joins operator? build symbol levelOf level) {operator : Operator}
    (belongs : levelOf operator = level) (tighter : level.tighter.rank < level.rank) :
    level.tighter.EndsAt (.symbol (symbol operator)) := by
  intro follower found
  rw [joins.follower, belongs] at found
  cases found
  exact tighter

end Joins

theorem eq_token_of_literal? {token : Token} {literal : Literal}
    (spelled : literal? token = some literal) :
    literal.token.kind ≠ .endOfText ∧ token = literal.token := by
  rw [literal?.eq_def] at spelled
  split at spelled <;> cases spelled <;> exact ⟨by simp [Literal.token, Token.kind], rfl⟩

theorem product_joins :
    Joins productOperator? .arithmetic ArithmeticOperator.symbol ArithmeticOperator.level
      .product where
  level_of_found found := by
    rw [productOperator?.eq_def] at found
    split at found <;> cases found <;> exact ⟨rfl, rfl⟩
  found_of_level {operator} belongs := by cases operator <;> cases belongs <;> rfl
  follower operator := by cases operator <;> rfl
  written _ _ _ := rfl

theorem sum_joins :
    Joins sumOperator? .arithmetic ArithmeticOperator.symbol ArithmeticOperator.level
      .sum where
  level_of_found found := by
    rw [sumOperator?.eq_def] at found
    split at found <;> cases found <;> exact ⟨rfl, rfl⟩
  found_of_level {operator} belongs := by cases operator <;> cases belongs <;> rfl
  follower operator := by cases operator <;> rfl
  written _ _ _ := rfl

theorem relation_joins :
    Joins orderOperator? .comparison ComparisonOperator.symbol ComparisonOperator.level
      .relation where
  level_of_found found := by
    rw [orderOperator?.eq_def] at found
    split at found <;> cases found <;> exact ⟨rfl, rfl⟩
  found_of_level {operator} belongs := by cases operator <;> cases belongs <;> rfl
  follower operator := by cases operator <;> rfl
  written _ _ _ := rfl

theorem comparison_joins :
    Joins equalityOperator? .comparison ComparisonOperator.symbol ComparisonOperator.level
      .comparison where
  level_of_found found := by
    rw [equalityOperator?.eq_def] at found
    split at found <;> cases found <;> exact ⟨rfl, rfl⟩
  found_of_level {operator} belongs := by cases operator <;> cases belongs <;> rfl
  follower operator := by cases operator <;> rfl
  written _ _ _ := rfl

theorem conjunction_joins :
    Joins conjunctionOperator? .logical LogicalOperator.symbol LogicalOperator.level
      .conjunction where
  level_of_found found := by
    rw [conjunctionOperator?.eq_def] at found
    split at found
    · cases found
      exact ⟨rfl, rfl⟩
    · cases found
  found_of_level {operator} belongs := by
    cases operator <;> cases belongs
    rfl
  follower operator := by cases operator <;> rfl
  written _ _ _ := rfl

theorem disjunction_joins :
    Joins disjunctionOperator? .logical LogicalOperator.symbol LogicalOperator.level
      .disjunction where
  level_of_found found := by
    rw [disjunctionOperator?.eq_def] at found
    split at found
    · cases found
      exact ⟨rfl, rfl⟩
    · cases found
  found_of_level {operator} belongs := by
    cases operator <;> cases belongs
    rfl
  follower operator := by cases operator <;> rfl
  written _ _ _ := rfl

theorem repeated?_eq_none_iff (seen names : List String) :
    repeated? seen names = none ↔ names.Nodup ∧ ∀ name ∈ names, name ∉ seen := by
  induction names generalizing seen with
  | nil => simp [repeated?]
  | cons first rest induction =>
      rw [repeated?, List.nodup_cons, List.forall_mem_cons]
      by_cases member : first ∈ seen
      · simp [member]
      · rw [if_neg member, induction]
        constructor
        · intro ⟨distinct, unseen⟩
          refine ⟨⟨fun again => ?_, distinct⟩, member, fun name listed seen => ?_⟩
          · exact unseen first again (List.mem_cons_self ..)
          · exact unseen name listed (List.mem_cons_of_mem _ seen)
        · intro ⟨⟨fresh, distinct⟩, _, unseen⟩
          refine ⟨distinct, fun name listed again => ?_⟩
          rcases List.mem_cons.mp again with rfl | seen
          · exact fresh listed
          · exact unseen name listed seen

end Grammar

end Ducat
