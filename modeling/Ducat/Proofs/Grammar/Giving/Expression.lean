import Ducat.Proofs.Grammar.Giving
import Ducat.Proofs.Grammar.Recognition

/-! The rules for expressions give every expression of their level that is written out, wherever
nothing follows with which it could go on. -/

namespace Ducat

namespace Grammar

open Expression (Level)

variable {σ : Type} [Source σ] {tokens rest between : List Token} {count : Nat}

section

variable {Operator : Type} {operator? : TokenKind → Option Operator}
  {build : Operator → Expression → Expression → Expression} {symbol : Operator → Symbol}
  {levelOf : Operator → Level} {level : Level} {rule : Rule}
  {operand : Reading σ (Option Expression)} {left right result : Expression}

theorem chainFrom_gives_left (joins : Joins operator? build symbol levelOf level)
    (ends : level.EndsAt (Token.next tokens).kind) :
    Gives (chainFrom rule operator? build operand count left) tokens left tokens := by
  cases count with
  | zero => exact .pure left tokens
  | succ count =>
      apply Gives.peek
      intro placed same
      rw [PlacedToken.kind, same, joins.operator?_eq_none ends]
      exact .pure left tokens

theorem chainFrom_succ_gives (joins : Joins operator? build symbol levelOf level)
    {operator : Operator} (belongs : levelOf operator = level)
    (operand_gives : Gives operand tokens (some right) between)
    (behind : Gives (chainFrom rule operator? build operand count (build operator left right))
      between result rest) :
    Gives (chainFrom rule operator? build operand (count + 1) left)
      (.symbol (symbol operator) :: tokens) result rest := by
  apply Gives.peek
  intro placed same
  have kind : placed.kind = .symbol (symbol operator) := congrArg Token.kind same
  rw [kind, joins.found_of_level belongs]
  exact .bind (.take _ _) (.bind (.required _ operand_gives) behind)

theorem chain_gives (operand_gives : Gives operand tokens (some left) between)
    (behind : Gives (chainFrom rule operator? build operand count left) between result rest) :
    Gives (chain rule operator? build operand count) tokens (some result) rest :=
  .bind operand_gives (.bind behind (.pure _ _))

theorem chain_gives_none (operand_gives : Gives operand tokens none tokens) :
    Gives (chain rule operator? build operand count) tokens none tokens :=
  .bind operand_gives (.pure _ _)

end

def atLevel (condition : Reading σ (Option Expression)) (limit : Nat) :
    Level → Reading σ (Option Expression)
  | .factor => factor condition limit
  | .negation => negation condition limit
  | .cast => cast condition limit
  | .product => product condition limit
  | .sum => sum condition limit
  | .negatedCondition => negatedCondition condition limit
  | .relation => relation condition limit
  | .comparison => comparison condition limit
  | .conjunction => conjunction condition limit
  | .disjunction => disjunction condition limit

def goOn (condition : Reading σ (Option Expression)) (limit count : Nat) :
    Level → Expression → Reading σ Expression
  | .product => chainFrom .product productOperator? .arithmetic (cast condition limit) count
  | .sum => chainFrom .sum sumOperator? .arithmetic (product condition limit) count
  | .conjunction =>
      chainFrom .conjunction conjunctionOperator? .logical (comparison condition limit) count
  | .disjunction =>
      chainFrom .condition disjunctionOperator? .logical (conjunction condition limit) count
  | _ => pure

/-- What must be complete where the rule for a level goes on. -/
def leftLevel : Level → Level
  | .product => .cast
  | .sum => .product
  | .conjunction => .comparison
  | .disjunction => .conjunction
  | level => level

def Completes (σ : Type) [Source σ] (level : Level) (expression : Expression) : Prop :=
  ∀ ⦃limit rest⦄, (expression.tokens ++ rest).length ≤ limit →
    level.EndsAt (Token.next rest).kind →
      Gives (atLevel (condition limit : Reading σ _) limit level) (expression.tokens ++ rest)
        (some expression) rest

/-- The rule for the level gives whatever it can make of the expression and of what follows. -/
def Begins (σ : Type) [Source σ] (level : Level) (expression : Expression) : Prop :=
  ∀ ⦃limit rest⦄, (expression.tokens ++ rest).length ≤ limit →
    (leftLevel level).EndsAt (Token.next rest).kind → ∀ ⦃result last⦄,
      (∀ count, rest.length ≤ count →
        Gives (goOn (condition limit : Reading σ _) limit count level expression) rest
          result last) →
      Gives (atLevel (condition limit : Reading σ _) limit level) (expression.tokens ++ rest)
        (some result) last

variable {level : Level} {expression : Expression}

theorem Begins.completes (begins : Begins σ level expression) : Completes σ level expression := by
  intro limit rest enough ends
  have leftEnds : (leftLevel level).EndsAt (Token.next rest).kind := by
    cases level with
    | product | sum | conjunction | disjunction => exact ends.tighter
    | _ => exact ends
  apply begins enough leftEnds
  intro count _
  cases level with
  | product => exact chainFrom_gives_left product_joins ends
  | sum => exact chainFrom_gives_left sum_joins ends
  | conjunction => exact chainFrom_gives_left conjunction_joins ends
  | disjunction => exact chainFrom_gives_left disjunction_joins ends
  | _ => exact .pure expression rest

theorem Completes.begins (single : ∀ condition : Reading σ (Option Expression), ∀ limit count,
      goOn condition limit count level = pure) (same : leftLevel level = level)
    (completes : Completes σ level expression) : Begins σ level expression := by
  intro limit rest enough ends result last behind source position leaves
  rw [same] at ends
  rcases completes enough ends leaves with ⟨middle, left, read⟩
  have further := behind rest.length (Nat.le_refl _)
  rw [single] at further
  rcases further left with ⟨place, finally_, equal⟩
  cases equal
  exact ⟨_, finally_, read⟩

theorem condition_gives (completes : Completes σ .disjunction expression) {limit : Nat}
    {rest : List Token} (fewer : (expression.tokens ++ rest).length < limit)
    (ends : Level.EndsAt .disjunction (Token.next rest).kind) :
    Gives (condition limit : Reading σ _) (expression.tokens ++ rest) (some expression) rest := by
  cases limit with
  | zero => cases fewer
  | succ limit => exact completes (Nat.le_of_lt_succ fewer) ends

theorem condition_gives_none {token : Token}
    (closing : token = .symbol .rightBracket ∨ token = .symbol .semicolon) (rest : List Token)
    (limit : Nat) :
    Gives (condition limit : Reading σ _) (token :: rest) none (token :: rest) := by
  cases limit with
  | zero => exact .pure none _
  | succ limit =>
      have factor_none : Gives (factor (condition limit : Reading σ _) limit) (token :: rest) none
          (token :: rest) := by
        apply Gives.peek
        intro placed same
        rw [same, Token.next_cons]
        rcases closing with rfl | rfl <;> exact .pure none _
      have negation_none : Gives (negation (condition limit : Reading σ _) limit) (token :: rest)
          none (token :: rest) := by
        refine .bind (.takeIf_of_ne ?_) factor_none
        rcases closing with rfl | rfl <;> simp [Token.kind]
      have cast_none : Gives (cast (condition limit : Reading σ _) limit) (token :: rest) none
          (token :: rest) := .bind negation_none (.pure none _)
      have sum_none : Gives (sum (condition limit : Reading σ _) limit) (token :: rest) none
          (token :: rest) := chain_gives_none (chain_gives_none cast_none)
      have negated_none : Gives (negatedCondition (condition limit : Reading σ _) limit)
          (token :: rest) none (token :: rest) := by
        refine .bind (.takeIf_of_ne ?_) sum_none
        rcases closing with rfl | rfl <;> simp [Token.kind]
      exact chain_gives_none (chain_gives_none (chain_gives_none (chain_gives_none negated_none)))

theorem arguments_gives {arguments : List Expression} {limit : Nat}
    (completes : ∀ argument ∈ arguments, Completes σ .disjunction argument) (rest : List Token)
    (enough : (Token.bracketed (Token.separated Expression.tokens arguments) ++ rest).length ≤
      limit) :
    Gives (Grammar.arguments (condition limit : Reading σ _) limit)
      (Token.bracketed (Token.separated Expression.tokens arguments) ++ rest) arguments rest := by
  have items := Token.length_le_separated Expression.tokens arguments
  rw [Token.bracketed_append] at enough ⊢
  have lengths := enough
  rw [List.length_cons, List.length_append] at lengths
  apply Gives.bind (.expect _ (.symbol .leftBracket) _)
  have separated_gives : Gives
      (separatedItems (condition limit : Reading σ _) (.missingExpression .arguments) limit)
      (Token.separated Expression.tokens arguments ++ .symbol .rightBracket :: rest) arguments
      (.symbol .rightBracket :: rest) := by
    apply Gives.separatedItems
    · intro argument listed rest fewer next
      apply condition_gives (completes argument listed) fewer
      rcases next with next | next <;> rw [next] <;> exact .of_none _ rfl
    · intro rest
      exact condition_gives_none (.inl rfl) rest limit
    · omega
    · exact enough
  exact .bind separated_gives (.bind (.expect _ (.symbol .rightBracket) rest) (.pure _ _))

theorem literal_completes (constant : Literal) : Completes σ .factor (.literal constant) := by
  intro limit rest _ _
  apply Gives.peek
  intro placed same
  rw [same]
  cases constant with
  | bool truth => cases truth <;> exact .bind (.take _ rest) (.pure _ rest)
  | _ => exact .bind (.take _ rest) (.pure _ rest)

theorem reference_completes (name : String) : Completes σ .factor (.reference name) := by
  intro limit rest _ ends
  apply Gives.peek
  intro placed same
  rw [same]
  apply Gives.bind (.take _ rest)
  apply Gives.peek
  intro following next
  have noCall : following.kind ≠ .symbol .leftBracket := by
    intro call
    rw [← next] at ends
    exact absurd (ends .factor (congrArg Level.ofFollower? call)) (Nat.lt_irrefl _)
  rw [if_neg noCall]
  exact .pure _ rest

theorem call_completes (function : String) {arguments : List Expression}
    (completes : ∀ argument ∈ arguments, Completes σ .disjunction argument) :
    Completes σ .factor (.call function arguments) := by
  intro limit rest enough _
  rw [Expression.tokens, Expression.argumentTokens_eq] at enough ⊢
  apply Gives.peek
  intro placed same
  rw [same]
  apply Gives.bind (.take _ _)
  apply Gives.peek
  intro following next
  have call : following.kind = .symbol .leftBracket := congrArg Token.kind next
  rw [if_pos call]
  exact .bind (arguments_gives completes rest (Nat.le_of_succ_le enough)) (.pure _ rest)

theorem bracketed_completes (completes : Completes σ .disjunction expression) :
    Completes σ .factor (.bracketed expression) := by
  intro limit rest enough _
  rw [Expression.tokens, Token.bracketed_append] at enough ⊢
  apply Gives.peek
  intro placed same
  rw [same]
  apply Gives.bind (.take _ _)
  have inner := condition_gives completes enough (.of_none _ rfl)
  exact .bind (.required _ inner) (.bind (.expect _ (.symbol .rightBracket) rest) (.pure _ rest))

theorem negation_completes (completes : Completes σ .factor expression) :
    Completes σ .negation (.negation expression) := by
  intro limit rest enough ends
  apply Gives.bind (.takeIf (.symbol .minus) _)
  exact .bind (.required _ (completes (Nat.le_of_succ_le enough) ends.tighter)) (.pure _ rest)

theorem cast_completes {target : ValueType} (completes : Completes σ .negation expression)
    (variableType : target.isVariableType) : Completes σ .cast (.cast expression target) := by
  intro limit rest enough _
  rw [Expression.tokens, List.append_assoc] at enough ⊢
  have ends : Level.EndsAt .negation (.keyword .asWord) := by
    intro follower found
    cases found
    decide
  apply Gives.bind (completes enough ends)
  apply Gives.bind (.takeIf (.keyword .asWord) _)
  exact .bind (.variableType variableType rest) (.pure _ rest)

theorem not_completes (completes : Completes σ .sum expression) :
    Completes σ .negatedCondition (.not expression) := by
  intro limit rest enough ends
  apply Gives.bind (.takeIf (.symbol .not) _)
  exact .bind (.required _ (completes (Nat.le_of_succ_le enough) ends.tighter)) (.pure _ rest)

section

variable {Operator : Type} {operator? : TokenKind → Option Operator}
  {build : Operator → Expression → Expression → Expression} {symbol : Operator → Symbol}
  {levelOf : Operator → Level} {rule : Rule} {left right : Expression} {operator : Operator}
  (joins : Joins operator? build symbol levelOf level)

section

variable (chained : ∀ (condition : Reading σ (Option Expression)) (limit : Nat),
    atLevel condition limit level =
      chain rule operator? build (atLevel condition limit level.tighter) limit)
  (further : ∀ (condition : Reading σ (Option Expression)) (limit count : Nat),
    goOn condition limit count level =
      chainFrom rule operator? build (atLevel condition limit level.tighter) count)
  (leftmost : leftLevel level = level.tighter)

include chained further leftmost in
theorem operand_begins (completes : Completes σ level.tighter expression) :
    Begins σ level expression := by
  intro limit rest enough ends result last behind
  rw [leftmost] at ends
  rw [chained]
  apply chain_gives (completes enough ends)
  rw [← further]
  apply behind
  rw [List.length_append] at enough
  omega

include joins further leftmost in
theorem nested_begins (belongs : levelOf operator = level)
    (tighter : level.tighter.rank < level.rank) (left_begins : Begins σ level left)
    (right_completes : Completes σ level.tighter right) :
    Begins σ level (build operator left right) := by
  intro limit rest enough ends result last behind
  rw [leftmost] at ends
  rw [joins.written, List.append_assoc] at enough ⊢
  apply left_begins enough
  · rw [leftmost]
    exact joins.endsAt_symbol belongs tighter
  · intro count longer
    rw [List.length_append] at enough
    cases count with
    | zero => cases longer
    | succ count =>
        have fitting : (right.tokens ++ rest).length ≤ count := Nat.le_of_succ_le_succ longer
        have fittingLimit : (right.tokens ++ rest).length ≤ limit :=
          Nat.le_trans (Nat.le_succ _) (Nat.le_trans (Nat.le_add_left _ _) enough)
        rw [further]
        apply chainFrom_succ_gives joins belongs (right_completes fittingLimit ends)
        rw [← further]
        apply behind
        rw [List.length_append] at fitting
        omega

end

section

variable (single : ∀ (condition : Reading σ (Option Expression)) (limit : Nat),
    atLevel condition limit level =
      chain rule operator? build (atLevel condition limit level.tighter) 1)

include joins single

theorem uncompared_completes (completes : Completes σ level.tighter expression) :
    Completes σ level expression := by
  intro limit rest enough ends
  rw [single]
  exact chain_gives (completes enough ends.tighter) (chainFrom_gives_left joins ends)

theorem compared_completes (belongs : levelOf operator = level)
    (tighter : level.tighter.rank < level.rank) (left_completes : Completes σ level.tighter left)
    (right_completes : Completes σ level.tighter right) :
    Completes σ level (build operator left right) := by
  intro limit rest enough ends
  rw [joins.written, List.append_assoc] at enough ⊢
  rw [single]
  apply chain_gives (left_completes enough (joins.endsAt_symbol belongs tighter))
  rw [List.length_append] at enough
  have fitting : (right.tokens ++ rest).length ≤ limit :=
    Nat.le_trans (Nat.le_succ _) (Nat.le_trans (Nat.le_add_left _ _) enough)
  exact chainFrom_succ_gives joins belongs (right_completes fitting ends.tighter) (.pure _ rest)

end

end

theorem arithmetic_begins {operator : ArithmeticOperator} {left right : Expression}
    (left_begins : Begins σ operator.level left)
    (right_completes : Completes σ operator.level.tighter right) :
    Begins σ operator.level (.arithmetic operator left right) := by
  cases operator with
  | add | subtract =>
      exact nested_begins sum_joins (fun _ _ _ => rfl) rfl rfl (by decide) left_begins
        right_completes
  | multiply | divide =>
      exact nested_begins product_joins (fun _ _ _ => rfl) rfl rfl (by decide) left_begins
        right_completes

theorem logical_begins {operator : LogicalOperator} {left right : Expression}
    (left_begins : Begins σ operator.level left)
    (right_completes : Completes σ operator.level.tighter right) :
    Begins σ operator.level (.logical operator left right) := by
  cases operator with
  | or =>
      exact nested_begins disjunction_joins (fun _ _ _ => rfl) rfl rfl (by decide) left_begins
        right_completes
  | and =>
      exact nested_begins conjunction_joins (fun _ _ _ => rfl) rfl rfl (by decide) left_begins
        right_completes

theorem comparison_completes {operator : ComparisonOperator} {left right : Expression}
    (left_completes : Completes σ operator.level.tighter left)
    (right_completes : Completes σ operator.level.tighter right) :
    Completes σ operator.level (.comparison operator left right) := by
  cases operator with
  | equal | notEqual =>
      exact compared_completes comparison_joins (fun _ _ => rfl) rfl (by decide) left_completes
        right_completes
  | _ =>
      exact compared_completes relation_joins (fun _ _ => rfl) rfl (by decide) left_completes
        right_completes

theorem next_ne_of_fits (symbol : Symbol) {first : Level} (fits : expression.Fits level)
    (leads : Expression.levelOfFirst? (.symbol symbol) = some first)
    (tighter : level.rank < first.rank) (rest : List Token) :
    (Token.next (expression.tokens ++ rest)).kind ≠ .symbol symbol := by
  intro same
  rw [Token.next_append expression.tokens_ne_nil] at same
  rw [← Token.eq_symbol_of_kind same] at leads
  exact absurd (fits.levelOfFirst_le leads) (Nat.not_le_of_lt tighter)

theorem unsigned_completes (fits : expression.Fits .factor)
    (completes : Completes σ .factor expression) : Completes σ .negation expression := by
  intro limit rest enough ends
  have noMinus := next_ne_of_fits .minus fits rfl (by decide) rest
  exact .bind (.takeIf_of_ne noMinus) (completes enough ends.tighter)

theorem uncast_completes (completes : Completes σ .negation expression) :
    Completes σ .cast expression := by
  intro limit rest enough ends
  have noCast : (Token.next rest).kind ≠ .keyword .asWord := by
    intro castBehind
    rw [castBehind] at ends
    exact absurd (ends .cast rfl) (Nat.lt_irrefl _)
  exact .bind (completes enough ends.tighter) (.bind (.takeIf_of_ne noCast) (.pure _ rest))

theorem unnegated_completes (fits : expression.Fits .sum)
    (completes : Completes σ .sum expression) : Completes σ .negatedCondition expression := by
  intro limit rest enough ends
  have noNegation := next_ne_of_fits .not fits rfl (by decide) rest
  exact .bind (.takeIf_of_ne noNegation) (completes enough ends.tighter)

theorem loosened_begins (fits : expression.Fits level.tighter)
    (begins : Begins σ level.tighter expression) : Begins σ level expression := by
  have completes := begins.completes
  cases level with
  | factor => exact begins
  | negation => exact (unsigned_completes fits completes).begins (fun _ _ _ => rfl) rfl
  | cast => exact (uncast_completes completes).begins (fun _ _ _ => rfl) rfl
  | product => exact operand_begins (fun _ _ => rfl) (fun _ _ _ => rfl) rfl completes
  | sum => exact operand_begins (fun _ _ => rfl) (fun _ _ _ => rfl) rfl completes
  | negatedCondition =>
      exact (unnegated_completes fits completes).begins (fun _ _ _ => rfl) rfl
  | relation =>
      exact (uncompared_completes relation_joins (fun _ _ => rfl) completes).begins
        (fun _ _ _ => rfl) rfl
  | comparison =>
      exact (uncompared_completes comparison_joins (fun _ _ => rfl) completes).begins
        (fun _ _ _ => rfl) rfl
  | conjunction => exact operand_begins (fun _ _ => rfl) (fun _ _ _ => rfl) rfl completes
  | disjunction => exact operand_begins (fun _ _ => rfl) (fun _ _ _ => rfl) rfl completes

theorem begins_of_fits (fits : expression.Fits level) : Begins σ level expression := by
  -- By induction on the shape of the expression. A left operand of the same level is why the claim
  -- is not only that the expression is completed.
  induction fits with
  | literal constant => exact (literal_completes constant).begins (fun _ _ _ => rfl) rfl
  | reference name => exact (reference_completes name).begins (fun _ _ _ => rfl) rfl
  | call function _ induction =>
      exact (call_completes function fun argument listed =>
        (induction argument listed).completes).begins (fun _ _ _ => rfl) rfl
  | bracketed _ induction =>
      exact (bracketed_completes induction.completes).begins (fun _ _ _ => rfl) rfl
  | negation _ induction =>
      exact (negation_completes induction.completes).begins (fun _ _ _ => rfl) rfl
  | cast _ variableType induction =>
      exact (cast_completes induction.completes variableType).begins (fun _ _ _ => rfl) rfl
  | arithmetic _ _ left right => exact arithmetic_begins left right.completes
  | @comparison operator _ _ _ _ left right =>
      have completes := comparison_completes left.completes right.completes
      cases operator <;> exact completes.begins (fun _ _ _ => rfl) rfl
  | logical _ _ left right => exact logical_begins left right.completes
  | not _ induction =>
      exact (not_completes induction.completes).begins (fun _ _ _ => rfl) rfl
  | loosen fits induction => exact loosened_begins fits induction

theorem condition_gives_written (fits : expression.Fits .disjunction) {limit : Nat}
    {rest : List Token} (fewer : (expression.tokens ++ rest).length < limit)
    (ends : Level.EndsAt .disjunction (Token.next rest).kind) :
    Gives (condition limit : Reading σ _) (expression.tokens ++ rest) (some expression) rest :=
  condition_gives (begins_of_fits fits).completes fewer ends

end Grammar

end Ducat
