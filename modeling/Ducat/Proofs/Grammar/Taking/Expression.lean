import Ducat.Proofs.Grammar.Recognition
import Ducat.Proofs.Grammar.Taking

/-! The rules for expressions have taken exactly the tokens of what they give. -/

namespace Ducat

namespace Grammar

open Source

variable {σ : Type} [Source σ] {limit count : Nat} {source : σ}

abbrev OffersExpression (level : Expression.Level) :
    Option Expression → List Token → σ → Prop :=
  Offers Expression.tokens fun expression _ => expression.Fits level

theorem Takes.loosen {reading : Reading σ (Option Expression)} {level : Expression.Level}
    (takes : Takes limit source reading (OffersExpression level.tighter)) :
    Takes limit source reading (OffersExpression level) := by
  apply takes.mono
  intro result taken last holds
  cases result with
  | none => exact holds
  | some result => exact ⟨holds.1, .loosen holds.2⟩

section

variable {Operator : Type} {operator? : TokenKind → Option Operator}
  {build : Operator → Expression → Expression → Expression} {symbol : Operator → Symbol}
  {levelOf : Operator → Expression.Level} {rule : Rule} {operand : Reading σ (Option Expression)}
  {level : Expression.Level} {left : Expression}

theorem chainFrom_succ_takes {outcome : Expression → List Token → σ → Prop}
    (joins : Joins operator? build symbol levelOf level)
    (operand_takes : ∀ {limit source}, Takes limit source operand (OffersExpression level.tighter))
    (stops : outcome left [] source)
    (goesOn : ∀ operator right behind, levelOf operator = level → right.Fits level.tighter →
      Takes (limit - (right.tokens.length + 1)) behind
        (chainFrom rule operator? build operand count (build operator left right))
        fun result further last =>
          outcome result (.symbol (symbol operator) :: right.tokens ++ further) last) :
    Takes limit source (chainFrom rule operator? build operand (count + 1) left) outcome := by
  apply Takes.peek
  split
  · exact .pure stops
  next operator found =>
    rcases joins.level_of_found found with ⟨belongs, kind⟩
    have fixed : (Token.symbol (symbol operator)).isFixed := rfl
    have found := Token.eq_of_kind_eq fixed kind
    apply Takes.bind_token (.take found (by simp [Token.kind]))
    intro _ middle
    apply Takes.bind_tokens (.required _ operand_takes)
    intro right behind fits
    have takes := goesOn operator right behind belongs fits
    rw [Nat.add_comm, ← Nat.sub_sub] at takes
    simpa using takes

theorem chain_takes_of (operand_takes : ∀ {limit source},
      Takes limit source operand (OffersExpression level.tighter))
    (from_takes : ∀ {limit source left}, left.Fits level.tighter →
      Takes limit source (chainFrom rule operator? build operand count left)
        fun result taken _ => result.tokens = left.tokens ++ taken ∧ result.Fits level) :
    Takes limit source (chain rule operator? build operand count) (OffersExpression level) := by
  apply Takes.bind_offered operand_takes
  · intro middle
    exact .pure rfl
  · intro left middle leftFits
    apply Takes.bind (from_takes leftFits)
    intro result further last ⟨written, resultFits⟩
    exact .pure ⟨by simp [written], resultFits⟩

theorem chain_takes (joins : Joins operator? build symbol levelOf level)
    (operand_takes : ∀ {limit source}, Takes limit source operand (OffersExpression level.tighter))
    (fits : ∀ {operator left right}, levelOf operator = level → left.Fits level →
      right.Fits level.tighter → (build operator left right).Fits level) :
    Takes limit source (chain rule operator? build operand count) (OffersExpression level) := by
  have from_takes : ∀ {count limit source left}, left.Fits level →
      Takes limit source (chainFrom rule operator? build operand count left)
        fun result taken _ => result.tokens = left.tokens ++ taken ∧ result.Fits level := by
    intro count
    induction count with
    | zero =>
        intro limit source left leftFits
        exact .pure ⟨by simp, leftFits⟩
    | succ count induction =>
        intro limit source left leftFits
        apply chainFrom_succ_takes joins operand_takes
        · exact ⟨by simp, leftFits⟩
        · intro operator right behind belongs rightFits
          apply (induction (fits belongs leftFits rightFits)).mono
          intro result taken last ⟨written, resultFits⟩
          rw [joins.written] at written
          exact ⟨by simp [written], resultFits⟩
  exact chain_takes_of operand_takes fun leftFits => from_takes (.loosen leftFits)

theorem chain_one_takes (joins : Joins operator? build symbol levelOf level)
    (operand_takes : ∀ {limit source}, Takes limit source operand (OffersExpression level.tighter))
    (fits : ∀ {operator left right}, levelOf operator = level → left.Fits level.tighter →
      right.Fits level.tighter → (build operator left right).Fits level) :
    Takes limit source (chain rule operator? build operand 1) (OffersExpression level) := by
  apply chain_takes_of operand_takes
  intro limit source left leftFits
  apply chainFrom_succ_takes joins operand_takes
  · exact ⟨by simp, .loosen leftFits⟩
  · intro operator right behind belongs rightFits
    exact .pure ⟨by simp [joins.written], fits belongs leftFits rightFits⟩

end

section

variable {condition : Reading σ (Option Expression)}
  (condition_takes : ∀ {limit source},
    Takes limit source condition (OffersExpression .disjunction))

include condition_takes

theorem arguments_takes :
    Takes limit source (arguments condition count) fun arguments taken _ =>
      taken = Token.bracketed (Token.separated Expression.tokens arguments) ∧
        ∀ argument ∈ arguments, argument.Fits .disjunction := by
  apply Takes.bind_token (.expect _ (.symbol .leftBracket) rfl)
  intro _ middle
  apply Takes.bind_tokens (.separatedItems _ condition_takes count)
  intro arguments behind fits
  apply Takes.bind_token (.expect _ (.symbol .rightBracket) rfl)
  intro _ last
  exact .pure ⟨by simp [Token.bracketed], fits⟩

theorem factor_takes :
    Takes limit source (factor condition count) (OffersExpression .factor) := by
  apply Takes.peek
  dsimp only
  split
  next found =>
    apply Takes.bind_token (.take found (by simp [Token.kind]))
    intro _ middle
    apply Takes.bind_tokens (.required _ condition_takes)
    intro inner behind fits
    apply Takes.bind_token (.expect _ (.symbol .rightBracket) rfl)
    intro _ last
    exact .pure ⟨by simp [Expression.tokens, Token.bracketed], .bracketed fits⟩
  next name found =>
    apply Takes.bind_token (.take found (by simp [Token.kind]))
    intro _ middle
    apply Takes.peek
    split
    · apply Takes.bind_tokens (arguments_takes condition_takes)
      intro arguments behind fits
      exact .pure ⟨by simp [Expression.tokens, Expression.argumentTokens_eq], .call name fits⟩
    · exact .pure ⟨rfl, .reference name⟩
  next found =>
    split
    next literal spelled =>
      rcases eq_token_of_literal? spelled with ⟨inside, equal⟩
      apply Takes.bind_token (.take equal inside)
      intro _ middle
      exact .pure ⟨rfl, .literal literal⟩
    · exact .pure rfl

theorem negation_takes :
    Takes limit source (negation condition count) (OffersExpression .negation) := by
  apply Takes.takeIf (.symbol .minus) rfl
  · intro _ middle
    apply Takes.bind_tokens (.required _ (factor_takes condition_takes))
    intro operand last fits
    exact .pure ⟨by simp [Expression.tokens], .negation fits⟩
  · intro _
    exact (factor_takes condition_takes).loosen

theorem cast_takes : Takes limit source (cast condition count) (OffersExpression .cast) := by
  apply Takes.bind_offered (negation_takes condition_takes)
  · intro middle
    exact .pure rfl
  · intro operand middle fits
    apply Takes.takeIf (.keyword .asWord) rfl
    · intro _ behind
      apply Takes.bind_offered .variableType
      · intro last
        exact .unexpected _ _
      · intro target last variableType
        exact .pure ⟨by simp [Expression.tokens], .cast fits variableType⟩
    · intro _
      exact .pure ⟨by simp, .loosen fits⟩

theorem product_takes :
    Takes limit source (product condition count) (OffersExpression .product) :=
  chain_takes product_joins (cast_takes condition_takes)
    Expression.Fits.arithmetic_of_level

theorem sum_takes : Takes limit source (sum condition count) (OffersExpression .sum) :=
  chain_takes sum_joins (product_takes condition_takes)
    Expression.Fits.arithmetic_of_level

theorem negatedCondition_takes :
    Takes limit source (negatedCondition condition count)
      (OffersExpression .negatedCondition) := by
  apply Takes.takeIf (.symbol .not) rfl
  · intro _ middle
    apply Takes.bind_tokens (.required _ (sum_takes condition_takes))
    intro operand last fits
    exact .pure ⟨by simp [Expression.tokens], .not fits⟩
  · intro _
    exact (sum_takes condition_takes).loosen

theorem relation_takes :
    Takes limit source (relation condition count) (OffersExpression .relation) :=
  chain_one_takes relation_joins (negatedCondition_takes condition_takes)
    Expression.Fits.comparison_of_level

theorem comparison_takes :
    Takes limit source (comparison condition count) (OffersExpression .comparison) :=
  chain_one_takes comparison_joins (relation_takes condition_takes)
    Expression.Fits.comparison_of_level

theorem conjunction_takes :
    Takes limit source (conjunction condition count) (OffersExpression .conjunction) :=
  chain_takes conjunction_joins (comparison_takes condition_takes)
    Expression.Fits.logical_of_level

theorem disjunction_takes :
    Takes limit source (disjunction condition count) (OffersExpression .disjunction) :=
  chain_takes disjunction_joins (conjunction_takes condition_takes)
    Expression.Fits.logical_of_level

end

theorem condition_takes :
    Takes limit source (condition count) (OffersExpression .disjunction) := by
  induction count generalizing limit source with
  | zero => exact .pure rfl
  | succ count induction => exact disjunction_takes induction

end Grammar

end Ducat
