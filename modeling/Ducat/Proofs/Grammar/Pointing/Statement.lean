import Ducat.Proofs.Grammar.Pointing.Expression
import Ducat.Proofs.Grammar.Taking.Statement

/-! The rules for statements point at the first token that cannot go on. -/

namespace Ducat

namespace Grammar

open Source

variable {σ : Type} [Source σ] {limit count : Nat} {before : List Token} {source : σ}

def AdmitsStatement (front : List Token) : Prop :=
  ∀ statement : Statement, statement.Fits → Viable (front ++ statement.tokens)

theorem AdmitsStatement.viable {front : List Token} (admits : AdmitsStatement front) :
    Viable front :=
  .of_append _ (admits (.leave none) (.leave (by simp)))

section

variable {statement : Reading σ (Option Statement)} {bound : Nat}
  (statement_takes : ∀ {limit source}, limit ≤ bound →
    Takes limit source statement OffersStatement)
  (statement_points : ∀ {limit before source}, limit ≤ bound → AdmitsStatement before →
    Points limit before source statement)

include statement_takes statement_points

theorem statementsToBrace_points (withinBound : limit ≤ bound)
    (viable : ∀ statements : List Statement, (∀ statement ∈ statements, statement.Fits) →
      Viable (before ++ Statement.sequenceTokens statements ++ [.symbol .rightBrace])) :
    Points limit before source (statementsToBrace statement count) := by
  induction count generalizing limit before source with
  | zero => exact .pure []
  | succ count induction =>
      have firstAdmits : AdmitsStatement before := by
        intro first fits
        apply Viable.of_append [.symbol .rightBrace]
        simpa [Statement.sequenceTokens] using viable [first] (by simpa using fits)
      apply Points.takeIf (.symbol .rightBrace) rfl
      · intro _ middle
        exact .pure []
      · intro different
        apply Points.bind_offered (statement_takes withinBound)
          (statement_points withinBound firstAdmits)
        · intro _
          apply Points.unexpected_of_ne (.symbol .rightBrace) rfl different
          simpa [Statement.sequenceTokens] using viable [] (by simp)
        · rintro first middle ⟨firstFits, _⟩
          apply Points.map
          apply induction (by omega)
          intro rest restFits
          have whole := viable (first :: rest) (List.forall_mem_cons.mpr ⟨firstFits, restFits⟩)
          simpa [Statement.sequenceTokens] using whole

theorem block_points (withinBound : limit ≤ bound + 1)
    (viable : ∀ statements : List Statement, (∀ statement ∈ statements, statement.Fits) →
      Viable (before ++ Token.braced (Statement.sequenceTokens statements))) :
    Points limit before source (block statement count) := by
  apply Points.takeIf (.symbol .leftBrace) rfl
  · intro _ middle
    apply Points.map
    apply statementsToBrace_points statement_takes statement_points (by omega)
    intro statements fits
    simpa [Token.braced] using viable statements fits
  · intro _
    exact .pure none

end

theorem bracketedCondition_points
    (viable : ∀ test : Expression, test.Fits .disjunction →
      Viable (before ++ Token.bracketed test.tokens)) :
    Points limit before source (bracketedCondition (condition count)) := by
  have closed : ∀ test : Expression, test.Fits .disjunction →
      Viable (before ++ [.symbol .leftBracket] ++ test.tokens ++ [.symbol .rightBracket]) := by
    intro test fits
    simpa [Token.bracketed] using viable test fits
  have opened : Admits (before ++ [.symbol .leftBracket]) .disjunction :=
    fun test fits => .of_append _ (closed test fits)
  apply Points.bind_expect _ (.symbol .leftBracket) rfl opened.viable
  intro middle
  apply Points.bind_required condition_takes (condition_points opened)
  · exact ⟨rfl, opened.viable⟩
  intro test behind fits
  apply Points.bind_expect _ (.symbol .rightBracket) rfl (closed test fits)
  intro last
  exact .pure test

section

variable {statement : Reading σ (Option Statement)} {bound : Nat}
  (statement_takes : ∀ {limit source}, limit ≤ bound →
    Takes limit source statement OffersStatement)
  (statement_points : ∀ {limit before source}, limit ≤ bound → AdmitsStatement before →
    Points limit before source statement)

include statement_takes statement_points

theorem conditional_points (withinBound : limit ≤ bound) (admits : AdmitsStatement before) :
    Points limit (before ++ [.keyword .ifWord]) source
      (conditional (condition count) statement) := by
  have consequences : ∀ test : Expression, test.Fits .disjunction →
      AdmitsStatement (before ++ [.keyword .ifWord] ++ Token.bracketed test.tokens) := by
    intro test testFits consequence fits
    simpa [Statement.tokens] using admits _ (.branch testFits fits)
  apply Points.bind_tokens bracketedCondition_takes
  · apply bracketedCondition_points
    intro test fits
    exact (consequences test fits).viable
  intro test middle testFits
  apply Points.bind_required (statement_takes (by omega))
    (statement_points (by omega) (consequences test testFits))
  · exact ⟨rfl, (consequences test testFits).viable⟩
  rintro consequence behind ⟨consequenceFits, closed⟩
  apply Points.takeIf (.keyword .elseWord) rfl
  · intro followed next
    have consequenceClosed : consequence.endsOpen = false := by
      rw [← Bool.not_eq_true]
      intro endsOpen
      exact closed endsOpen followed
    have alternatives : AdmitsStatement (before ++ [.keyword .ifWord] ++
        Token.bracketed test.tokens ++ consequence.tokens ++ [.keyword .elseWord]) := by
      intro alternative fits
      have whole := admits _ (.choice testFits consequenceFits consequenceClosed fits)
      simpa [Statement.tokens] using whole
    apply Points.map
    apply Points.required (statement_takes (by omega))
      (statement_points (by omega) alternatives)
    exact ⟨rfl, alternatives.viable⟩
  · intro _
    exact .pure _

theorem loop_points (withinBound : limit ≤ bound + 1) (admits : AdmitsStatement before)
    (enough : limit ≤ count + 1) :
    Points limit (before ++ [.keyword .whileWord]) source
      (loop (condition count) statement count) := by
  have bodies : ∀ test : Expression, test.Fits .disjunction → ∀ body : List Statement,
      (∀ statement ∈ body, statement.Fits) →
        Viable (before ++ [.keyword .whileWord] ++ Token.bracketed test.tokens ++
          Token.braced (Statement.sequenceTokens body)) := by
    intro test testFits body fits
    simpa [Statement.tokens] using admits _ (.loop testFits fits)
  have headed : ∀ test : Expression, test.Fits .disjunction →
      Viable (before ++ [.keyword .whileWord] ++ Token.bracketed test.tokens) :=
    fun test fits => .of_append _ (bodies test fits [] (by simp))
  apply Points.bind_tokens bracketedCondition_takes (bracketedCondition_points headed)
  intro test middle testFits
  apply Points.map
  apply Points.required (block_takes statement_takes (by omega) (by omega))
  · exact block_points statement_takes statement_points (by omega) (bodies test testFits)
  · exact ⟨rfl, headed test testFits⟩

end

theorem declaration_points {type : ValueType} (variableType : type.isVariableType)
    (admits : AdmitsStatement before) :
    Points limit (before ++ type.tokens) source (declaration (condition count) type) := by
  have assigned : ∀ name, Admits (before ++ type.tokens ++ [.name name] ++ [.symbol .assign])
      .disjunction := by
    intro name value fits
    apply Viable.of_append [.symbol .semicolon]
    simpa [Statement.tokens, Statement.assignmentTokens] using
      admits _ (.declare name variableType fits)
  apply Points.bind_name
  · intro name
    exact .of_append _ (assigned name).viable
  intro name middle
  apply Points.bind_expect _ (.symbol .assign) rfl (assigned name).viable
  intro behind
  apply Points.map
  apply Points.required condition_takes (condition_points (assigned name))
  exact ⟨rfl, (assigned name).viable⟩

theorem assignmentOrCall_points (name : String) (admits : AdmitsStatement before) :
    Points limit (before ++ [.name name]) source
      (assignmentOrCall (condition count) count name) := by
  have assigned : Admits (before ++ [.name name] ++ [.symbol .assign]) .disjunction := by
    intro value fits
    apply Viable.of_append [.symbol .semicolon]
    simpa [Statement.tokens, Statement.assignmentTokens] using admits _ (.assign name fits)
  have called : ∀ arguments : List Expression,
      (∀ argument ∈ arguments, argument.Fits .disjunction) →
        Viable (before ++ [.name name] ++
          Token.bracketed (Token.separated Expression.tokens arguments)) := by
    intro arguments fits
    apply Viable.of_append [.symbol .semicolon]
    simpa [Statement.tokens] using admits _ (.call name fits)
  apply Points.peek
  split
  · apply Points.map
    exact arguments_points condition_takes condition_points called
  next noBracket =>
    apply Points.takeIf (.symbol .assign) rfl
    · intro _ middle
      apply Points.map
      apply Points.required condition_takes (condition_points assigned)
      exact ⟨rfl, assigned.viable⟩
    · intro noAssignment
      apply Points.unexpected
      · simpa using ⟨noBracket, noAssignment⟩
      · intro token expected
        rw [List.mem_cons, List.mem_singleton] at expected
        rcases expected with bracket | assignment
        · rw [Token.eq_symbol_of_kind bracket]
          apply Viable.of_append [.symbol .rightBracket]
          simpa [Token.bracketed, Token.separated] using called [] (by simp)
        · rw [Token.eq_symbol_of_kind assignment]
          exact assigned.viable

theorem instruction_points (admits : AdmitsStatement before) :
    Points limit before source (instruction (condition count) count) := by
  apply Points.takeIf (.keyword .returnWord) rfl
  · intro _ middle
    apply Points.map
    apply condition_points
    intro value fits
    apply Viable.of_append [.symbol .semicolon]
    simpa [Statement.tokens] using admits (.leave (some value)) (.leave (by simpa using fits))
  · intro _
    apply Points.bind_offered .variableType .variableType
    · intro _
      apply Points.peek
      split
      next name found =>
        apply Points.take found (by simp [Token.kind])
        intro _ behind
        apply Points.map
        exact assignmentOrCall_points name admits
      · exact .pure none
    · intro type middle variableType
      apply Points.map
      exact declaration_points variableType admits

theorem statementOver_points {statement : Reading σ (Option Statement)}
    (statement_takes : ∀ {limit source}, limit ≤ count →
      Takes limit source statement OffersStatement)
    (statement_points : ∀ {limit before source}, limit ≤ count → AdmitsStatement before →
      Points limit before source statement)
    (enough : limit ≤ count + 1) (admits : AdmitsStatement before) :
    Points limit before source (statementOver (condition count) statement count) := by
  apply Points.takeIf (.keyword .ifWord) rfl
  · intro _ middle
    apply Points.map
    exact conditional_points statement_takes statement_points (by omega) admits
  · intro _
    apply Points.takeIf (.keyword .whileWord) rfl
    · intro _ middle
      apply Points.map
      exact loop_points statement_takes statement_points (by omega) admits (by omega)
    · intro _
      apply Points.bind_offered (block_takes statement_takes (by omega) (by omega))
      · apply block_points statement_takes statement_points (by omega)
        intro statements fits
        simpa [Statement.tokens] using admits _ (.block fits)
      · intro _
        apply Points.bind instruction_takes (instruction_points admits)
        intro result taken middle holds _ _
        cases result with
        | none => exact .pure none
        | some result =>
            rcases holds with ⟨written, fits, _⟩
            apply Points.bind_expect _ (.symbol .semicolon) rfl
            · rw [List.append_assoc, ← written]
              exact admits result fits
            intro last
            exact .pure _
      · intro statements middle fits
        exact .pure _

theorem statement_points (enough : limit ≤ count) (admits : AdmitsStatement before) :
    Points limit before source (statement count) := by
  induction count generalizing limit before source with
  | zero => exact .pure none
  | succ count induction => exact statementOver_points statement_takes induction enough admits

end Grammar

end Ducat
