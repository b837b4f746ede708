import Ducat.Proofs.Grammar.Taking.Expression

/-! The rules for statements have taken exactly the tokens of what they give. -/

namespace Ducat

namespace Grammar

open Source

variable {σ : Type} [Source σ] {limit count : Nat} {source : σ}

/-- What a rule for statements offers. Behind a statement that could go on with an alternative
there is none. -/
abbrev OffersStatement : Option Statement → List Token → σ → Prop :=
  Offers Statement.tokens fun statement last =>
    statement.Fits ∧ (statement.endsOpen → (current last).kind ≠ .keyword .elseWord)

section

variable {statement : Reading σ (Option Statement)} {bound : Nat}
  (statement_takes : ∀ {limit source}, limit ≤ bound →
    Takes limit source statement OffersStatement)

include statement_takes

theorem statementsToBrace_takes (withinBound : limit ≤ bound) (enough : limit ≤ count) :
    Takes limit source (statementsToBrace statement count) fun statements taken _ =>
      taken = Statement.sequenceTokens statements ++ [.symbol .rightBrace] ∧
        ∀ statement ∈ statements, statement.Fits := by
  induction count generalizing limit source with
  | zero =>
      cases Nat.le_zero.mp enough
      exact .zero _
  | succ count induction =>
      apply Takes.takeIf (.symbol .rightBrace) rfl
      · intro _ middle
        exact .pure ⟨rfl, by simp⟩
      · intro _
        apply Takes.bind_offered (statement_takes withinBound)
        · intro middle
          exact .unexpected _ _
        · intro first middle ⟨firstFits, _⟩
          have positive := List.length_pos_iff.mpr first.tokens_ne_nil
          apply Takes.bind_tokens (induction (by omega) (by omega))
          intro rest last restFits
          exact .pure ⟨by simp [Statement.sequenceTokens],
            List.forall_mem_cons.mpr ⟨firstFits, restFits⟩⟩

theorem block_takes (withinBound : limit ≤ bound + 1) (enough : limit ≤ count + 1) :
    Takes limit source (block statement count)
      (Offers (fun statements => Token.braced (Statement.sequenceTokens statements))
        fun statements _ => ∀ statement ∈ statements, statement.Fits) := by
  apply Takes.takeIf (.symbol .leftBrace) rfl
  · intro _ middle
    apply Takes.bind_tokens (statementsToBrace_takes statement_takes (by omega) (by omega))
    intro statements last fits
    exact .pure ⟨by simp [Token.braced], fits⟩
  · intro _
    exact .pure rfl

end

theorem bracketedCondition_takes :
    Takes limit source (bracketedCondition (condition count)) fun test taken _ =>
      taken = Token.bracketed test.tokens ∧ test.Fits .disjunction := by
  apply Takes.bind_token (.expect _ (.symbol .leftBracket) rfl)
  intro _ middle
  apply Takes.bind_tokens (.required _ condition_takes)
  intro test behind fits
  apply Takes.bind_token (.expect _ (.symbol .rightBracket) rfl)
  intro _ last
  exact .pure ⟨by simp [Token.bracketed], fits⟩

section

variable {statement : Reading σ (Option Statement)} {bound : Nat}
  (statement_takes : ∀ {limit source}, limit ≤ bound →
    Takes limit source statement OffersStatement)

include statement_takes

theorem conditional_takes (withinBound : limit ≤ bound) :
    Takes limit source (conditional (condition count) statement) fun result taken last =>
      OffersStatement (some result) (.keyword .ifWord :: taken) last := by
  apply Takes.bind_tokens bracketedCondition_takes
  intro test middle testFits
  apply Takes.bind_tokens (.required _ (statement_takes (by omega)))
  intro consequence behind ⟨consequenceFits, closed⟩
  apply Takes.takeIf (.keyword .elseWord) rfl
  · intro followed next
    apply Takes.bind_tokens (.required _ (statement_takes (by omega)))
    intro alternative last ⟨alternativeFits, alternativeClosed⟩
    refine .pure ⟨by simp [Statement.tokens], ?_, alternativeClosed⟩
    have consequenceClosed : consequence.endsOpen = false := by
      rw [← Bool.not_eq_true]
      intro endsOpen
      exact closed endsOpen followed
    exact .choice testFits consequenceFits consequenceClosed alternativeFits
  · intro noAlternative
    refine .pure ⟨by simp [Statement.tokens], .branch testFits consequenceFits, ?_⟩
    intro _
    exact noAlternative

theorem loop_takes (withinBound : limit ≤ bound + 1) (enough : limit ≤ count + 1) :
    Takes limit source (loop (condition count) statement count) fun result taken last =>
      OffersStatement (some result) (.keyword .whileWord :: taken) last := by
  apply Takes.bind_tokens bracketedCondition_takes
  intro test middle testFits
  apply Takes.bind_tokens (.required _ (block_takes statement_takes (by omega) (by omega)))
  intro body last bodyFits
  exact .pure ⟨by simp [Statement.tokens], .loop testFits bodyFits, by simp [Statement.endsOpen]⟩

end

def OffersInstruction : Option Statement → List Token → σ → Prop
  | none, taken, _ => taken = []
  | some result, taken, _ =>
      result.tokens = taken ++ [.symbol .semicolon] ∧ result.Fits ∧ result.endsOpen = false

theorem declaration_takes {type : ValueType} (variableType : type.isVariableType) :
    Takes limit source (declaration (condition count) type) fun result taken last =>
      OffersInstruction (some result) (type.tokens ++ taken) last := by
  apply Takes.bind_token (.expectName _)
  intro name middle
  apply Takes.bind_token (.expect _ (.symbol .assign) rfl)
  intro _ behind
  apply Takes.bind_tokens (.required _ condition_takes)
  intro value last fits
  exact .pure ⟨by simp [Statement.tokens, Statement.assignmentTokens],
    .declare name variableType fits, rfl⟩

theorem assignmentOrCall_takes (name : String) :
    Takes limit source (assignmentOrCall (condition count) count name) fun result taken last =>
      OffersInstruction (some result) (.name name :: taken) last := by
  apply Takes.peek
  split
  · apply Takes.bind_tokens (arguments_takes condition_takes)
    intro arguments last fits
    exact .pure ⟨by simp [Statement.tokens], .call name fits, rfl⟩
  · apply Takes.takeIf (.symbol .assign) rfl
    · intro _ middle
      apply Takes.bind_tokens (.required _ condition_takes)
      intro value last fits
      exact .pure ⟨by simp [Statement.tokens, Statement.assignmentTokens], .assign name fits, rfl⟩
    · intro _
      exact .unexpected _ _

theorem instruction_takes :
    Takes limit source (instruction (condition count) count) OffersInstruction := by
  apply Takes.takeIf (.keyword .returnWord) rfl
  · intro _ middle
    apply Takes.bind_offered condition_takes
    · intro last
      exact .pure ⟨rfl, .leave (by simp), rfl⟩
    · intro value last fits
      exact .pure ⟨by simp [Statement.tokens], .leave (by simpa using fits), rfl⟩
  · intro _
    apply Takes.bind_offered .variableType
    · intro middle
      apply Takes.peek
      split
      next name found =>
        apply Takes.bind_token (.take found (by simp [Token.kind]))
        intro _ behind
        apply Takes.bind (assignmentOrCall_takes name)
        intro result further last holds
        exact .pure (by simpa using holds)
      · exact .pure rfl
    · intro type middle variableType
      apply Takes.bind (declaration_takes variableType)
      intro result further last holds
      exact .pure (by simpa using holds)

theorem statementOver_takes {statement : Reading σ (Option Statement)}
    (statement_takes : ∀ {limit source}, limit ≤ count →
      Takes limit source statement OffersStatement) (enough : limit ≤ count + 1) :
    Takes limit source (statementOver (condition count) statement count) OffersStatement := by
  apply Takes.takeIf (.keyword .ifWord) rfl
  · intro _ middle
    apply Takes.bind (conditional_takes statement_takes (by omega))
    intro result taken last holds
    exact .pure (by simpa using holds)
  · intro _
    apply Takes.takeIf (.keyword .whileWord) rfl
    · intro _ middle
      apply Takes.bind (loop_takes statement_takes (by omega) (by omega))
      intro result taken last holds
      exact .pure (by simpa using holds)
    · intro _
      apply Takes.bind_offered (block_takes statement_takes (by omega) (by omega))
      · intro middle
        apply Takes.bind instruction_takes
        intro result taken behind holds
        cases result with
        | none =>
            cases holds
            exact .pure rfl
        | some result =>
            rcases holds with ⟨written, fits, closed⟩
            apply Takes.bind_token (.expect _ (.symbol .semicolon) rfl)
            intro _ last
            exact .pure ⟨by simp [written], fits, by simp [closed]⟩
      · intro statements middle fits
        exact .pure ⟨by simp [Statement.tokens], .block fits, by simp [Statement.endsOpen]⟩

theorem statement_takes (enough : limit ≤ count) :
    Takes limit source (statement count) OffersStatement := by
  induction count generalizing limit source with
  | zero =>
      cases Nat.le_zero.mp enough
      exact .zero _
  | succ count induction => exact statementOver_takes induction enough

end Grammar

end Ducat
