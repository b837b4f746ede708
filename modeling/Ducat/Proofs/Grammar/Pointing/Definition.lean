import Ducat.Proofs.Grammar.Pointing.Statement
import Ducat.Proofs.Grammar.Taking.Definition

/-! The rules for definitions and programs point at the first token that cannot go on. -/

namespace Ducat

namespace Grammar

open Source

variable {σ : Type} [Source σ] {limit count : Nat} {before : List Token} {source : σ}

theorem parameter_points
    (viable : ∀ parameter : Parameter, parameter.Fits → Viable (before ++ parameter.tokens)) :
    Points limit before source parameter := by
  apply Points.peek
  split
  next name found =>
    apply Points.take found (by simp [Token.kind])
    intro _ middle
    exact .pure _
  · apply Points.bind_offered .variableType .variableType
    · intro _
      exact .pure none
    · intro type middle variableType
      apply Points.map
      apply Points.expectName
      intro name
      have fits : Parameter.Fits ⟨some type, name⟩ := by simpa [Parameter.Fits] using variableType
      simpa [Parameter.tokens] using viable _ fits

theorem parameters_points (function : String)
    (viable : ∀ parameters : List Parameter, (∀ parameter ∈ parameters, parameter.Fits) →
      Viable (before ++ Token.separated Parameter.tokens parameters)) :
    Points limit before source (parameters function count) := by
  apply Points.bind_tokens (.separatedItems _ parameter_takes count)
  · apply Points.separatedItems parameter_takes parameter_points
    · intro _ _ viable
      exact ⟨rfl, viable⟩
    · exact ⟨⟨none, ""⟩, by simp [Parameter.Fits]⟩
    · exact viable
  intro parameters middle fits
  split
  · exact .throw trivial
  · exact .pure parameters

theorem mem_definitionStarts_iff (kind : TokenKind) :
    kind ∈ definitionStarts ↔ kind = .keyword .voidWord ∨ kind.isVariableType = true := by
  cases kind with
  | keyword word => cases word <;> decide
  | symbol mark => cases mark <;> decide
  | _ => decide

theorem returnType_points : Points limit before source returnType := by
  apply Points.takeIf (.keyword .voidWord) rfl
  · intro _ middle
    exact .pure _
  · intro _
    exact .variableType

theorem not_mem_definitionStarts_of_absent {last : σ}
    (read : returnType source = .ok (none, last)) :
    (current source).kind ∉ definitionStarts := by
  rw [mem_definitionStarts_iff]
  rintro (void | declares)
  · cases advanced : advance source with
    | error error =>
        rw [returnType, Reading.bind_of_error (takeIf_of_error void advanced)] at read
        cases read
    | ok next =>
        rw [returnType, Reading.bind_of_ok (takeIf_of_advance void advanced)] at read
        cases read
  · have noVoid : (current source).kind ≠ .keyword .voidWord := by
      intro void
      rw [void] at declares
      cases declares
    rw [returnType, Reading.bind_of_ok (takeIf_of_ne noVoid)] at read
    rw [isVariableType_of_absent read] at declares
    cases declares

theorem returnType_of_absent {last : σ} (read : definition count source = .ok (none, last)) :
    returnType source = .ok (none, last) := by
  rw [definition] at read
  cases found : returnType source with
  | error error =>
      rw [Reading.bind_of_error found] at read
      cases read
  | ok pair =>
      rcases pair with ⟨type, middle⟩
      rw [Reading.bind_of_ok found] at read
      cases type with
      | none =>
          cases read
          rfl
      | some type =>
          dsimp only at read
          cases behind : signatureAndBody type count middle with
          | error error =>
              rw [Reading.bind_of_error behind] at read
              cases read
          | ok pair =>
              rw [Reading.bind_of_ok behind] at read
              cases read

def AdmitsDefinition (front : List Token) : Prop :=
  ∀ definition : Definition, definition.Shaped → Viable (front ++ definition.tokens)

theorem signatureAndBody_points {type : ValueType} (typeFits : type.token?.isSome)
    (enough : limit ≤ count) (admits : AdmitsDefinition before) :
    Points limit (before ++ type.tokens) source (signatureAndBody type count) := by
  have closed : ∀ name parameters, (∀ parameter ∈ parameters, Parameter.Fits parameter) →
      ∀ body, (∀ statement ∈ body, Statement.Fits statement) →
        Viable (before ++ type.tokens ++ [.name name] ++ [.symbol .leftBracket] ++
          Token.separated Parameter.tokens parameters ++ [.symbol .rightBracket] ++
            Token.braced (Statement.sequenceTokens body)) := by
    intro name parameters parametersFit body bodyFits
    have whole := admits ⟨type, name, parameters, body⟩ ⟨typeFits, parametersFit, bodyFits⟩
    simpa [Definition.tokens, Token.bracketed] using whole
  have headed : ∀ name parameters, (∀ parameter ∈ parameters, Parameter.Fits parameter) →
      Viable (before ++ type.tokens ++ [.name name] ++ [.symbol .leftBracket] ++
        Token.separated Parameter.tokens parameters ++ [.symbol .rightBracket]) :=
    fun name parameters fits => .of_append _ (closed name parameters fits [] (by simp))
  have listed : ∀ name parameters, (∀ parameter ∈ parameters, Parameter.Fits parameter) →
      Viable (before ++ type.tokens ++ [.name name] ++ [.symbol .leftBracket] ++
        Token.separated Parameter.tokens parameters) :=
    fun name parameters fits => .of_append _ (headed name parameters fits)
  have opened : ∀ name,
      Viable (before ++ type.tokens ++ [.name name] ++ [.symbol .leftBracket]) :=
    fun name => .of_append _ (listed name [] (by simp))
  apply Points.bind_name
  · intro name
    exact .of_append _ (opened name)
  intro name middle
  apply Points.bind_expect _ (.symbol .leftBracket) rfl (opened name)
  intro middle
  apply Points.bind_tokens (parameters_takes name) (parameters_points name (listed name))
  rintro parameters middle ⟨parametersFit, _⟩
  apply Points.bind_expect _ (.symbol .rightBracket) rfl (headed name parameters parametersFit)
  intro middle
  apply Points.map
  apply Points.required (block_takes statement_takes (by omega) (by omega))
  · exact block_points statement_takes statement_points (by omega)
      (closed name parameters parametersFit)
  · exact ⟨rfl, headed name parameters parametersFit⟩

theorem definition_points (enough : limit ≤ count) (admits : AdmitsDefinition before) :
    Points limit before source (definition count) := by
  apply Points.bind_offered returnType_takes returnType_points
  · intro _
    exact .pure none
  · intro type middle typeFits
    apply Points.map
    exact signatureAndBody_points typeFits (by omega) admits

section

variable {earlier : List Definition}

theorem admitsDefinition_of_shaped (shaped : ∀ definition ∈ earlier, definition.Shaped) :
    AdmitsDefinition (earlier.flatMap Definition.tokens) := by
  intro definition fits
  refine ⟨[.endOfText], earlier ++ [definition], ?_, by simp⟩
  rw [List.forall_mem_append, List.forall_mem_singleton]
  exact ⟨shaped, fits⟩

theorem viable_definitionStart (admits : AdmitsDefinition before) {token : Token}
    (starts : token.kind ∈ definitionStarts) : Viable (before ++ [token]) := by
  have begins : ∀ type : ValueType, type.tokens = [token] → Viable (before ++ [token]) := by
    intro type written
    have named : type.token?.isSome := by
      rw [ValueType.tokens] at written
      cases found : type.token? with
      | none =>
          rw [found] at written
          cases written
      | some token => rfl
    have whole := admits ⟨type, "", [], []⟩ ⟨named, by simp, by simp⟩
    simp only [Definition.tokens, written, List.append_assoc] at whole
    rw [← List.append_assoc] at whole
    exact .of_append _ whole
  rcases (mem_definitionStarts_iff _).mp starts with void | declares
  · have fixed : (Token.keyword .voidWord).isFixed := rfl
    apply begins .void
    rw [Token.eq_of_kind_eq fixed void]
    rfl
  · rcases ValueType.exists_of_kind_isVariableType declares with ⟨type, _, _, written⟩
    exact begins type written

theorem definitions_points {bound : Nat} (withinBound : limit ≤ bound) (program : Program)
    (shaped : ∀ definition ∈ earlier, definition.Shaped) :
    Points limit (earlier.flatMap Definition.tokens) source (definitions bound count program) := by
  induction count generalizing limit source program earlier with
  | zero => exact .pure program
  | succ count induction =>
      have admits := admitsDefinition_of_shaped shaped
      apply Points.peek
      split
      · exact .pure program
      next further =>
        apply Points.bind_offered (definition_takes withinBound)
          (definition_points withinBound admits)
        · intro absent
          apply Points.unexpected
          · rw [List.mem_append, List.mem_singleton, not_or]
            exact ⟨not_mem_definitionStarts_of_absent (returnType_of_absent absent), further⟩
          · intro token expected
            rw [List.mem_append, List.mem_singleton] at expected
            rcases expected with starts | atEnd
            · exact viable_definitionStart admits starts
            · rw [Token.eq_endOfText_of_kind atEnd]
              exact Derivable.viable ⟨earlier, shaped, rfl⟩
        · intro definition middle fits
          dsimp only
          split
          · exact .throw trivial
          · have extended : ∀ known ∈ earlier ++ [definition], known.Shaped := by
              rw [List.forall_mem_append, List.forall_mem_singleton]
              exact ⟨shaped, fits.shaped⟩
            have same : (earlier ++ [definition]).flatMap Definition.tokens =
                earlier.flatMap Definition.tokens ++ definition.tokens := by simp
            rw [← same]
            exact induction (by omega) _ extended

end

end Grammar

end Ducat
