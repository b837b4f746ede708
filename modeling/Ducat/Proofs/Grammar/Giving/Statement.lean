import Ducat.Grammar.Statement
import Ducat.Proofs.Grammar.Giving.Expression

/-! The rules for statements give every statement that is written out, unless an alternative that
follows would be taken for its own. -/

namespace Ducat

namespace Statement

theorem next_tokens (statement : Statement) :
    (Token.next statement.tokens).kind ≠ .keyword .elseWord ∧
      (Token.next statement.tokens).kind ≠ .symbol .rightBrace := by
  cases statement with
  | declare type name value =>
      cases type with
      | money currency => cases currency <;> constructor <;> intro equal <;> cases equal
      | _ => constructor <;> intro equal <;> cases equal
  | _ => constructor <;> intro equal <;> cases equal

end Statement

namespace Grammar

open Expression (Level)

variable {σ : Type} [Source σ] {limit count : Nat}

def Reads (σ : Type) [Source σ] (statement : Statement) : Prop :=
  ∀ ⦃limit rest⦄, (statement.tokens ++ rest).length < limit →
    (statement.endsOpen → (Token.next rest).kind ≠ .keyword .elseWord) →
      Gives (Grammar.statement limit : Reading σ _) (statement.tokens ++ rest) (some statement)
        rest

theorem statementsToBrace_gives {statements : List Statement}
    (reads : ∀ statement ∈ statements, Reads σ statement) (rest : List Token)
    (fewer : (Statement.sequenceTokens statements ++ .symbol .rightBrace :: rest).length < limit)
    (enough : (Statement.sequenceTokens statements ++ .symbol .rightBrace :: rest).length ≤
      count) :
    Gives (statementsToBrace (statement limit : Reading σ _) count)
      (Statement.sequenceTokens statements ++ .symbol .rightBrace :: rest) statements rest := by
  induction statements generalizing count with
  | nil =>
      cases count with
      | zero => cases enough
      | succ count => exact .bind (.takeIf (.symbol .rightBrace) rest) (.pure [] rest)
  | cons first others induction =>
      rw [Statement.sequenceTokens, List.append_assoc] at fewer enough ⊢
      have positive := List.length_pos_iff.mpr first.tokens_ne_nil
      have lengths := enough
      rw [List.length_append] at lengths
      cases count with
      | zero => omega
      | succ count =>
          have other : (Token.next (first.tokens ++ (Statement.sequenceTokens others ++
              .symbol .rightBrace :: rest))).kind ≠ .symbol .rightBrace := by
            rw [Token.next_append first.tokens_ne_nil]
            exact first.next_tokens.2
          apply Gives.bind (.takeIf_of_ne other)
          refine .bind (reads first (List.mem_cons_self ..) fewer ?_) ?_
          · intro _
            cases others with
            | nil => simp [Statement.sequenceTokens, Token.kind]
            | cons second =>
                rw [Statement.sequenceTokens, List.append_assoc,
                  Token.next_append second.tokens_ne_nil]
                exact second.next_tokens.1
          · have others_read : ∀ statement ∈ others, Reads σ statement :=
              fun statement listed => reads statement (List.mem_cons_of_mem _ listed)
            rw [List.length_append] at fewer
            exact .bind (induction others_read (by omega) (by omega)) (.pure _ rest)

theorem block_gives {statements : List Statement}
    (reads : ∀ statement ∈ statements, Reads σ statement) (rest : List Token)
    (enough : (Token.braced (Statement.sequenceTokens statements) ++ rest).length ≤ limit) :
    Gives (block (statement limit : Reading σ _) limit)
      (Token.braced (Statement.sequenceTokens statements) ++ rest) (some statements) rest := by
  rw [Token.braced_append] at enough ⊢
  apply Gives.bind (.takeIf (.symbol .leftBrace) _)
  exact .bind (statementsToBrace_gives reads rest enough (Nat.le_of_succ_le enough))
    (.pure _ rest)

theorem block_gives_none {statement : Reading σ (Option Statement)} {tokens : List Token}
    (other : (Token.next tokens).kind ≠ .symbol .leftBrace) :
    Gives (block statement count) tokens none tokens :=
  .bind (.takeIf_of_ne other) (.pure none tokens)

theorem bracketedCondition_gives {expression : Expression} (fits : expression.Fits .disjunction)
    (rest : List Token) (enough : (Token.bracketed expression.tokens ++ rest).length ≤ limit) :
    Gives (bracketedCondition (condition limit : Reading σ _))
      (Token.bracketed expression.tokens ++ rest) expression rest := by
  rw [Token.bracketed_append] at enough ⊢
  apply Gives.bind (.expect _ (.symbol .leftBracket) _)
  have inner : Gives (condition limit : Reading σ _) _ _ _ :=
    condition_gives_written fits enough (.of_none _ rfl)
  exact .bind (.required _ inner) (.bind (.expect _ (.symbol .rightBracket) rest) (.pure _ rest))

theorem reads_of_statementOver {statement : Statement}
    (gives : ∀ {limit rest}, (statement.tokens ++ rest).length ≤ limit →
      (statement.endsOpen → (Token.next rest).kind ≠ .keyword .elseWord) →
        Gives (statementOver (condition limit) (Grammar.statement limit : Reading σ _) limit)
          (statement.tokens ++ rest) (some statement) rest) : Reads σ statement := by
  intro limit rest fewer follows
  cases limit with
  | zero => cases fewer
  | succ limit => exact gives (Nat.le_of_lt_succ fewer) follows

theorem branch_reads {test : Expression} {consequence : Statement}
    (testFits : test.Fits .disjunction) (reads : Reads σ consequence) :
    Reads σ (.branch test consequence) := by
  apply reads_of_statementOver
  intro limit rest enough follows
  have noAlternative := follows rfl
  simp only [Statement.tokens, List.cons_append, List.append_assoc] at enough ⊢
  have lengths := enough
  rw [List.length_cons, List.length_append] at lengths
  refine .bind (.takeIf (.keyword .ifWord) _) (.bind ?_ (.pure _ rest))
  apply Gives.bind (bracketedCondition_gives testFits _ (Nat.le_of_succ_le enough))
  apply Gives.bind (.required _ (reads (by omega) fun _ => noAlternative))
  exact .bind (.takeIf_of_ne noAlternative) (.pure _ rest)

theorem choice_reads {test : Expression} {consequence alternative : Statement}
    (testFits : test.Fits .disjunction) (reads : Reads σ consequence)
    (closed : consequence.endsOpen = false) (alternative_reads : Reads σ alternative) :
    Reads σ (.choice test consequence alternative) := by
  apply reads_of_statementOver
  intro limit rest enough follows
  simp only [Statement.tokens, List.cons_append, List.append_assoc] at enough ⊢
  have lengths := enough
  rw [List.length_cons, List.length_append, List.length_append, List.length_cons] at lengths
  refine .bind (.takeIf (.keyword .ifWord) _) (.bind ?_ (.pure _ rest))
  apply Gives.bind (bracketedCondition_gives testFits _ (Nat.le_of_succ_le enough))
  refine .bind (.required _ (reads ?_ ?_)) ?_
  · rw [List.length_append, List.length_cons]
    omega
  · intro opened
    rw [closed] at opened
    cases opened
  · refine .bind (.takeIf (.keyword .elseWord) _) ?_
    exact .bind (.required _ (alternative_reads (by omega) follows)) (.pure _ rest)

theorem loop_reads {test : Expression} {body : List Statement}
    (testFits : test.Fits .disjunction) (reads : ∀ statement ∈ body, Reads σ statement) :
    Reads σ (.loop test body) := by
  apply reads_of_statementOver
  intro limit rest enough _
  simp only [Statement.tokens, List.cons_append, List.append_assoc] at enough ⊢
  have lengths := enough
  rw [List.length_cons, List.length_append] at lengths
  apply Gives.bind (.takeIf_of_ne (by simp [Token.kind]))
  refine .bind (.takeIf (.keyword .whileWord) _) (.bind ?_ (.pure _ rest))
  apply Gives.bind (bracketedCondition_gives testFits _ (Nat.le_of_succ_le enough))
  exact .bind (.required _ (block_gives reads rest (by omega))) (.pure _ rest)

theorem block_reads {statements : List Statement}
    (reads : ∀ statement ∈ statements, Reads σ statement) : Reads σ (.block statements) := by
  apply reads_of_statementOver
  intro limit rest enough _
  rw [Statement.tokens] at enough ⊢
  apply Gives.bind (.takeIf_of_ne (by simp [Token.braced, Token.kind]))
  apply Gives.bind (.takeIf_of_ne (by simp [Token.braced, Token.kind]))
  exact .bind (block_gives reads rest enough) (.pure _ rest)

theorem instruction_reads {statement : Statement}
    (starts : ∀ rest, (Token.next (statement.tokens ++ rest)).kind ∉
      [.keyword .ifWord, .keyword .whileWord, .symbol .leftBrace])
    (gives : ∀ {limit rest}, (statement.tokens ++ rest).length ≤ limit →
      Gives (instruction (condition limit : Reading σ _) limit) (statement.tokens ++ rest)
        (some statement) (.symbol .semicolon :: rest)) : Reads σ statement := by
  apply reads_of_statementOver
  intro limit rest enough _
  have other := starts rest
  simp only [List.mem_cons, not_or] at other
  rcases other with ⟨noBranch, noLoop, noBlock, _⟩
  refine .bind (.takeIf_of_ne noBranch) (.bind (.takeIf_of_ne noLoop) ?_)
  refine .bind (block_gives_none noBlock) (.bind (gives enough) ?_)
  exact .bind (.expect _ (.symbol .semicolon) rest) (.pure _ rest)

theorem leave_reads {value : Option Expression}
    (fits : ∀ expression ∈ value, expression.Fits .disjunction) : Reads σ (.leave value) := by
  apply instruction_reads
  · intro rest
    simp [Statement.tokens, Token.kind]
  · intro limit rest enough
    rw [Statement.tokens, List.cons_append, List.cons_append, List.append_assoc] at enough ⊢
    refine .bind (.takeIf (.keyword .returnWord) _) (.bind ?_ (.pure _ _))
    cases value with
    | none => exact condition_gives_none (.inr rfl) rest limit
    | some expression =>
        exact condition_gives_written (fits expression rfl) enough (.of_none _ rfl)

theorem assigned_gives {value : Expression} (fits : value.Fits .disjunction) (rest : List Token)
    (missing : Position → Error) (enough : (value.tokens ++ .symbol .semicolon :: rest).length <
      limit) :
    Gives (required (condition limit : Reading σ _) missing)
      (value.tokens ++ .symbol .semicolon :: rest) value (.symbol .semicolon :: rest) :=
  .required missing (condition_gives_written fits enough (.of_none _ rfl))

theorem declare_reads {type : ValueType} {name : String} {value : Expression}
    (variableType : type.isVariableType) (fits : value.Fits .disjunction) :
    Reads σ (.declare type name value) := by
  rcases ValueType.exists_of_isVariableType variableType with ⟨token, written, declares, _⟩
  have other : ∀ kind : TokenKind, kind.isVariableType = false → token.kind ≠ kind := by
    intro kind undeclared equal
    rw [equal, undeclared] at declares
    cases declares
  apply instruction_reads
  · intro rest
    rw [Statement.tokens, written]
    simp only [List.mem_cons, not_or]
    exact ⟨other _ rfl, other _ rfl, other _ rfl, List.not_mem_nil⟩
  · intro limit rest enough
    simp only [Statement.tokens, Statement.assignmentTokens, List.cons_append, List.append_assoc,
      List.nil_append] at enough ⊢
    have first : Token.next (type.tokens ++
        .name name :: .symbol .assign :: (value.tokens ++ .symbol .semicolon :: rest)) = token := by
      rw [written]
      rfl
    rw [List.length_append, List.length_cons, List.length_cons] at enough
    apply Gives.bind (.takeIf_of_ne (first ▸ other _ rfl))
    refine .bind (.variableType variableType _) (.bind ?_ (.pure _ _))
    refine .bind (.expectName _ name _) (.bind (.expect _ (.symbol .assign) _) ?_)
    exact .bind (assigned_gives fits rest _ (by omega)) (.pure _ _)

theorem assign_reads {name : String} {value : Expression} (fits : value.Fits .disjunction) :
    Reads σ (.assign name value) := by
  apply instruction_reads
  · intro rest
    simp [Statement.tokens, Statement.assignmentTokens, Token.kind]
  · intro limit rest enough
    simp only [Statement.tokens, Statement.assignmentTokens, List.cons_append, List.append_assoc,
      List.nil_append] at enough ⊢
    refine .bind (.takeIf_of_ne (by simp [Token.kind])) (.bind (.variableType_none rfl) ?_)
    apply Gives.peek
    intro placed same
    rw [same]
    refine .bind (.take _ _) (.bind ?_ (.pure _ _))
    apply Gives.peek
    intro following next
    have noCall : following.kind ≠ .symbol .leftBracket := by
      rw [PlacedToken.kind, next]
      simp [Token.kind]
    rw [if_neg noCall]
    apply Gives.bind (.takeIf (.symbol .assign) _)
    exact .bind (assigned_gives fits rest _ (Nat.lt_of_succ_lt enough)) (.pure _ _)

theorem call_reads {function : String} {arguments : List Expression}
    (fits : ∀ argument ∈ arguments, argument.Fits .disjunction) :
    Reads σ (.call function arguments) := by
  apply instruction_reads
  · intro rest
    simp [Statement.tokens, Token.kind]
  · intro limit rest enough
    simp only [Statement.tokens, List.cons_append, List.append_assoc, List.nil_append]
      at enough ⊢
    refine .bind (.takeIf_of_ne (by simp [Token.kind])) (.bind (.variableType_none rfl) ?_)
    apply Gives.peek
    intro placed same
    rw [same]
    refine .bind (.take _ _) (.bind ?_ (.pure _ _))
    apply Gives.peek
    intro following next
    have call : following.kind = .symbol .leftBracket := congrArg Token.kind next
    rw [if_pos call]
    have completes : ∀ argument ∈ arguments, Completes σ .disjunction argument :=
      fun argument listed => (begins_of_fits (fits argument listed)).completes
    exact .bind (arguments_gives completes _ (Nat.le_of_succ_le enough)) (.pure _ _)

theorem reads_of_fits {statement : Statement} (fits : statement.Fits) : Reads σ statement := by
  induction fits with
  | assign name fits => exact assign_reads fits
  | declare name variableType fits => exact declare_reads variableType fits
  | leave fits => exact leave_reads fits
  | branch testFits _ reads => exact branch_reads testFits reads
  | choice testFits _ closed _ reads alternative_reads =>
      exact choice_reads testFits reads closed alternative_reads
  | loop testFits _ reads => exact loop_reads testFits reads
  | call function fits => exact call_reads fits
  | block _ reads => exact block_reads reads

end Grammar

end Ducat
