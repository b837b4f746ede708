import Ducat.Proofs.Grammar.Taking.Statement

/-! The rules for definitions and programs have taken exactly the tokens of what they give. -/

namespace Ducat

namespace Grammar

open Source

variable {σ : Type} [Source σ] {limit count : Nat} {source : σ}

theorem parameter_takes :
    Takes limit source parameter (Offers Parameter.tokens fun parameter _ => parameter.Fits) := by
  apply Takes.peek
  split
  next name found =>
    apply Takes.bind_token (.take found (by simp [Token.kind]))
    intro _ middle
    exact .pure ⟨rfl, by simp [Parameter.Fits]⟩
  · apply Takes.bind_offered .variableType
    · intro middle
      exact .pure rfl
    · intro type middle variableType
      apply Takes.bind_token (.expectName _)
      intro name last
      exact .pure ⟨by simp [Parameter.tokens], by simpa [Parameter.Fits] using variableType⟩

theorem parameters_takes (function : String) :
    Takes limit source (parameters function count) fun parameters taken _ =>
      taken = Token.separated Parameter.tokens parameters ∧
        (∀ parameter ∈ parameters, parameter.Fits) ∧
          (parameters.map Parameter.name).Nodup := by
  apply Takes.bind_tokens (.separatedItems _ parameter_takes count)
  intro parameters middle fits
  split
  · exact .throw _
  next once =>
    rw [repeated?_eq_none_iff] at once
    exact .pure ⟨by simp, fits, once.1⟩

theorem returnType_takes :
    Takes limit source returnType
      (Offers ValueType.tokens fun type _ => type.token?.isSome) := by
  apply Takes.takeIf (.keyword .voidWord) rfl
  · intro _ middle
    exact .pure ⟨rfl, rfl⟩
  · intro _
    apply Takes.variableType.mono
    intro type taken last holds
    cases type with
    | none => exact holds
    | some type =>
        rcases holds with ⟨rfl, variableType⟩
        rcases ValueType.exists_of_isVariableType variableType with ⟨token, written, _⟩
        exact ⟨rfl, by simpa [ValueType.tokens] using congrArg List.length written⟩

theorem signatureAndBody_takes {type : ValueType} (typeFits : type.token?.isSome)
    (enough : limit ≤ count) :
    Takes limit source (signatureAndBody type count) fun definition taken _ =>
      definition.tokens = type.tokens ++ taken ∧ definition.Fits := by
  apply Takes.bind_token (.expectName _)
  intro name middle
  apply Takes.bind_token (.expect _ (.symbol .leftBracket) rfl)
  intro _ middle
  apply Takes.bind_tokens (parameters_takes name)
  intro parameters middle ⟨parametersFit, distinct⟩
  apply Takes.bind_token (.expect _ (.symbol .rightBracket) rfl)
  intro _ middle
  apply Takes.bind_tokens (.required _ (block_takes statement_takes (by omega) (by omega)))
  intro body last bodyFits
  exact .pure ⟨by simp [Definition.tokens, Token.bracketed],
    ⟨typeFits, parametersFit, distinct, bodyFits⟩⟩

theorem definition_takes (enough : limit ≤ count) :
    Takes limit source (definition count)
      (Offers Definition.tokens fun definition _ => definition.Fits) := by
  apply Takes.bind_offered returnType_takes
  · intro middle
    exact .pure rfl
  · intro type middle typeFits
    apply Takes.bind (signatureAndBody_takes typeFits (by omega))
    intro definition taken last ⟨written, fits⟩
    exact .pure ⟨by simp [written], fits⟩

/-- The whole text is read, so that the end of the text is what comes next. -/
theorem definitions_takes {program : Program} {known : List Definition}
    (listing : program.IsListing known) {bound : Nat} (withinBound : limit ≤ bound)
    (enough : limit ≤ count) :
    Takes limit source (definitions bound count program) fun result taken last =>
      ∃ further, taken = further.flatMap Definition.tokens ∧
        result.IsListing (known ++ further) ∧ (∀ definition ∈ further, definition.Fits) ∧
          (current last).kind = .endOfText := by
  induction count generalizing limit source program known with
  | zero =>
      cases Nat.le_zero.mp enough
      exact .zero _
  | succ count induction =>
      apply Takes.peek
      split
      next atEnd => exact .pure ⟨[], rfl, by simpa using listing, by simp, atEnd⟩
      · apply Takes.bind_offered (definition_takes withinBound)
        · intro middle
          exact .unexpected _ _
        · intro definition middle fits
          dsimp only
          split
          · exact .throw _
          next unknown =>
            have positive := List.length_pos_iff.mpr definition.tokens_ne_nil
            have extended := listing.insert (by simpa using unknown)
            apply (induction extended (by omega) (by omega)).mono
            intro result taken last ⟨further, written, resultListing, furtherFit, atEnd⟩
            exact ⟨definition :: further, by simp [written], by simpa using resultListing,
              List.forall_mem_cons.mpr ⟨fits, furtherFit⟩, atEnd⟩

theorem listing_of_program {program : Program} {ending : Except LexError Position}
    {tokens : List Token} (leaves : Leaves ending source tokens)
    (enough : tokens.length < bound source) (read : Grammar.program source = .ok program) :
    ∃ definitions, program.IsListing definitions ∧ (∀ definition ∈ definitions, definition.Fits) ∧
      tokens = definitions.flatMap Definition.tokens ∧ ∃ position, ending = .ok position := by
  have ran : Grammar.program source =
      (definitions (bound source) (bound source) .empty source).map Prod.fst := rfl
  cases found : definitions (bound source) (bound source) .empty source with
  | error error =>
      rw [ran, found] at read
      cases read
  | ok pair =>
      rcases pair with ⟨result, last⟩
      rw [ran, found] at read
      cases read
      have takes : Takes (bound source) source _ _ :=
        definitions_takes .empty (Nat.le_refl _) (Nat.le_refl _)
      rcases takes ⟨ending, tokens, leaves, enough⟩ found with
        ⟨_, passes, definitions, rfl, listing, fits, atEnd⟩
      rcases Leaves.of_passes passes leaves with ⟨rest, rfl, left⟩
      rcases left.of_atEnd atEnd with ⟨rfl, ended⟩
      exact ⟨definitions, by simpa using listing, fits, by simp, _, ended⟩

end Grammar

end Ducat
