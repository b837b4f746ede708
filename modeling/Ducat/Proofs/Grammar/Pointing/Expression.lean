import Ducat.Proofs.Grammar.Pointing
import Ducat.Proofs.Grammar.Taking.Expression

/-! The rules for expressions point at the first token that cannot go on. -/

namespace Ducat

namespace Grammar

theorem mem_castTargets_iff (kind : TokenKind) :
    kind ∈ castTargets ↔ kind.isVariableType = true := by
  cases kind with
  | keyword word => cases word <;> decide
  | symbol mark => cases mark <;> decide
  | _ => decide

open Source

variable {σ : Type} [Source σ] {limit count : Nat} {before : List Token} {source : σ}

section

variable {Operator : Type} {operator? : TokenKind → Option Operator}
  {build : Operator → Expression → Expression → Expression} {symbol : Operator → Symbol}
  {levelOf : Operator → Expression.Level} {rule : Rule} {operand : Reading σ (Option Expression)}
  {level : Expression.Level} {left : Expression}
  (joins : Joins operator? build symbol levelOf level)
  (operand_takes : ∀ {limit source},
    Takes limit source operand (OffersExpression level.tighter))
  (operand_points : ∀ {limit before source}, Admits before level.tighter →
    Points limit before source operand)

include joins operand_takes operand_points

theorem chainFrom_succ_points
    (admits : ∀ operator right, levelOf operator = level → right.Fits level.tighter →
      Viable (before ++ (build operator left right).tokens))
    (goesOn : ∀ operator right behind, levelOf operator = level → right.Fits level.tighter →
      Points (limit - (right.tokens.length + 1)) (before ++ (build operator left right).tokens)
        behind (chainFrom rule operator? build operand count (build operator left right))) :
    Points limit (before ++ left.tokens) source
      (chainFrom rule operator? build operand (count + 1) left) := by
  apply Points.peek
  split
  · exact .pure _
  next operator found =>
    rcases joins.level_of_found found with ⟨belongs, kind⟩
    have fixed : (Token.symbol (symbol operator)).isFixed := rfl
    have found := Token.eq_of_kind_eq fixed kind
    apply Points.take found (by simp [Token.kind])
    intro _ middle
    have operands : Admits (before ++ left.tokens ++ [.symbol (symbol operator)])
        level.tighter := by
      intro right fits
      have whole := admits operator right belongs fits
      rw [joins.written] at whole
      simpa using whole
    apply Points.bind_required operand_takes (operand_points operands)
    · exact ⟨rfl, operands.viable⟩
    intro right behind fits
    have points := goesOn operator right behind belongs fits
    rw [Nat.add_comm, ← Nat.sub_sub, joins.written] at points
    simpa using points

omit joins in
theorem chain_points_of (admits : Admits before level)
    (from_points : ∀ {limit source left}, left.Fits level.tighter →
      Points limit (before ++ left.tokens) source
        (chainFrom rule operator? build operand count left)) :
    Points limit before source (chain rule operator? build operand count) := by
  apply Points.bind_offered operand_takes (operand_points admits.tighter)
  · intro _
    exact .pure none
  · intro left middle leftFits
    exact (from_points leftFits).map

theorem chain_points (fits : ∀ {operator left right}, levelOf operator = level →
      left.Fits level → right.Fits level.tighter → (build operator left right).Fits level)
    (admits : Admits before level) :
    Points limit before source (chain rule operator? build operand count) := by
  have from_points : ∀ {count limit source left}, left.Fits level →
      Points limit (before ++ left.tokens) source
        (chainFrom rule operator? build operand count left) := by
    intro count
    induction count with
    | zero =>
        intro limit source left leftFits
        exact .pure left
    | succ count induction =>
        intro limit source left leftFits
        apply chainFrom_succ_points joins operand_takes operand_points
        · intro operator right belongs rightFits
          exact admits _ (fits belongs leftFits rightFits)
        · intro operator right behind belongs rightFits
          exact induction (fits belongs leftFits rightFits)
  exact chain_points_of operand_takes operand_points admits
    fun leftFits => from_points (.loosen leftFits)

theorem chain_one_points (fits : ∀ {operator left right}, levelOf operator = level →
      left.Fits level.tighter → right.Fits level.tighter → (build operator left right).Fits level)
    (admits : Admits before level) :
    Points limit before source (chain rule operator? build operand 1) := by
  apply chain_points_of operand_takes operand_points admits
  intro limit source left leftFits
  apply chainFrom_succ_points joins operand_takes operand_points
  · intro operator right belongs rightFits
    exact admits _ (fits belongs leftFits rightFits)
  · intro operator right behind _ _
    exact .pure _

end

section

variable {condition : Reading σ (Option Expression)}
  (condition_takes : ∀ {limit source},
    Takes limit source condition (OffersExpression .disjunction))
  (condition_points : ∀ {limit before source}, Admits before .disjunction →
    Points limit before source condition)

include condition_takes condition_points

theorem arguments_points
    (viable : ∀ arguments : List Expression,
      (∀ argument ∈ arguments, argument.Fits .disjunction) →
        Viable (before ++ Token.bracketed (Token.separated Expression.tokens arguments))) :
    Points limit before source (arguments condition count) := by
  have opened : ∀ items : List Expression, (∀ item ∈ items, item.Fits .disjunction) →
      Viable (before ++ [.symbol .leftBracket] ++ Token.separated Expression.tokens items) := by
    intro items fits
    apply Viable.of_append [.symbol .rightBracket]
    simpa [Token.bracketed] using viable items fits
  apply Points.bind_expect _ (.symbol .leftBracket) rfl
  · simpa [Token.separated] using opened [] (by simp)
  intro middle
  apply Points.bind_tokens (.separatedItems _ condition_takes count)
  · apply Points.separatedItems condition_takes condition_points
    · intro _ _ viable
      exact ⟨rfl, viable⟩
    · exact ⟨_, (Expression.Fits.reference "").widen (Nat.zero_le _)⟩
    · exact opened
  intro arguments behind fits
  apply Points.bind_expect _ (.symbol .rightBracket) rfl
  · simpa [Token.bracketed] using viable arguments fits
  intro last
  exact .pure arguments

theorem factor_points (admits : Admits before .factor) :
    Points limit before source (factor condition count) := by
  apply Points.peek
  dsimp only
  split
  next found =>
    have bracketed : ∀ inner : Expression, inner.Fits .disjunction →
        Viable (before ++ [.symbol .leftBracket] ++ inner.tokens ++ [.symbol .rightBracket]) := by
      intro inner fits
      simpa [Expression.tokens, Token.bracketed] using admits _ (.bracketed fits)
    have opened : Admits (before ++ [.symbol .leftBracket]) .disjunction :=
      fun inner fits => .of_append _ (bracketed inner fits)
    apply Points.take found (by simp [Token.kind])
    intro _ middle
    apply Points.bind_required condition_takes (condition_points opened)
    · exact ⟨rfl, opened.viable⟩
    intro inner behind fits
    apply Points.bind_expect _ (.symbol .rightBracket) rfl (bracketed inner fits)
    intro last
    exact .pure _
  next name found =>
    apply Points.take found (by simp [Token.kind])
    intro _ middle
    apply Points.peek
    split
    · apply Points.map
      apply arguments_points condition_takes condition_points
      intro arguments fits
      simpa [Expression.tokens, Expression.argumentTokens_eq] using admits _ (.call name fits)
    · exact .pure _
  next found =>
    split
    next literal spelled =>
      rcases eq_token_of_literal? spelled with ⟨inside, equal⟩
      apply Points.take equal inside
      intro _ middle
      exact .pure _
    · exact .pure none

theorem negation_points (admits : Admits before .negation) :
    Points limit before source (negation condition count) := by
  apply Points.takeIf (.symbol .minus) rfl
  · intro _ middle
    have operands : Admits (before ++ [.symbol .minus]) .factor := by
      intro operand fits
      simpa [Expression.tokens] using admits _ (.negation fits)
    apply Points.map
    apply Points.required (factor_takes condition_takes)
      (factor_points condition_takes condition_points operands)
    exact ⟨rfl, operands.viable⟩
  · intro _
    exact factor_points condition_takes condition_points admits.tighter

theorem cast_points (admits : Admits before .cast) :
    Points limit before source (cast condition count) := by
  apply Points.bind_offered (negation_takes condition_takes)
    (negation_points condition_takes condition_points admits.tighter)
  · intro _
    exact .pure none
  · intro operand middle fits
    apply Points.takeIf (.keyword .asWord) rfl
    · intro _ behind
      apply Points.bind_offered .variableType .variableType
      · intro absent
        apply Points.unexpected
        · rw [mem_castTargets_iff, isVariableType_of_absent absent]
          exact Bool.false_ne_true
        · intro token expected
          rw [mem_castTargets_iff] at expected
          rcases ValueType.exists_of_kind_isVariableType expected with
            ⟨target, _, variableType, written⟩
          have whole := admits _ (.cast fits variableType)
          simpa [Expression.tokens, written] using whole
      · intro target last _
        exact .pure _
    · intro _
      exact .pure _

theorem product_points (admits : Admits before .product) :
    Points limit before source (product condition count) :=
  chain_points product_joins (cast_takes condition_takes)
    (cast_points condition_takes condition_points)
    Expression.Fits.arithmetic_of_level admits

theorem sum_points (admits : Admits before .sum) :
    Points limit before source (sum condition count) :=
  chain_points sum_joins (product_takes condition_takes)
    (product_points condition_takes condition_points)
    Expression.Fits.arithmetic_of_level admits

theorem negatedCondition_points (admits : Admits before .negatedCondition) :
    Points limit before source (negatedCondition condition count) := by
  apply Points.takeIf (.symbol .not) rfl
  · intro _ middle
    have operands : Admits (before ++ [.symbol .not]) .sum := by
      intro operand fits
      simpa [Expression.tokens] using admits _ (.not fits)
    apply Points.map
    apply Points.required (sum_takes condition_takes)
      (sum_points condition_takes condition_points operands)
    exact ⟨rfl, operands.viable⟩
  · intro _
    exact sum_points condition_takes condition_points admits.tighter

theorem relation_points (admits : Admits before .relation) :
    Points limit before source (relation condition count) :=
  chain_one_points relation_joins (negatedCondition_takes condition_takes)
    (negatedCondition_points condition_takes condition_points)
    Expression.Fits.comparison_of_level admits

theorem comparison_points (admits : Admits before .comparison) :
    Points limit before source (comparison condition count) :=
  chain_one_points comparison_joins (relation_takes condition_takes)
    (relation_points condition_takes condition_points)
    Expression.Fits.comparison_of_level admits

theorem conjunction_points (admits : Admits before .conjunction) :
    Points limit before source (conjunction condition count) :=
  chain_points conjunction_joins (comparison_takes condition_takes)
    (comparison_points condition_takes condition_points)
    Expression.Fits.logical_of_level admits

theorem disjunction_points (admits : Admits before .disjunction) :
    Points limit before source (disjunction condition count) :=
  chain_points disjunction_joins (conjunction_takes condition_takes)
    (conjunction_points condition_takes condition_points)
    Expression.Fits.logical_of_level admits

end

theorem condition_points (admits : Admits before .disjunction) :
    Points limit before source (condition count) := by
  induction count generalizing limit before source with
  | zero => exact .pure none
  | succ count induction => exact disjunction_points condition_takes induction admits

end Grammar

end Ducat
