import Ducat.Proofs.Grammar.Giving.Statement

/-! The rules for definitions and programs give all that is written out. -/

namespace Ducat

namespace Grammar

open Source

variable {σ : Type} [Source σ] {limit count : Nat}

theorem parameter_gives {parameter : Parameter} (fits : parameter.Fits) (rest : List Token) :
    Gives (Grammar.parameter : Reading σ _) (parameter.tokens ++ rest) (some parameter) rest := by
  rcases parameter with ⟨type, name⟩
  apply Gives.peek
  intro placed same
  rw [same]
  cases type with
  | none => exact .bind (.take _ rest) (.pure _ rest)
  | some type =>
      have variableType : type.isVariableType := fits type rfl
      rcases ValueType.exists_of_isVariableType variableType with ⟨token, written, declares, _⟩
      have first := Gives.variableType (σ := σ) variableType ([.name name] ++ rest)
      rw [Parameter.tokens, Option.elim_some, List.append_assoc]
      rw [written] at first ⊢
      split
      next other found =>
        cases found
        cases declares
      · exact .bind first (.bind (.expectName _ name rest) (.pure _ rest))

theorem parameter_gives_none (rest : List Token) :
    Gives (Grammar.parameter : Reading σ _) (.symbol .rightBracket :: rest) none
      (.symbol .rightBracket :: rest) := by
  apply Gives.peek
  intro placed same
  rw [same]
  exact .bind (.variableType_none rfl) (.pure _ _)

theorem parameters_gives (function : String) {parameters : List Parameter}
    (fits : ∀ parameter ∈ parameters, parameter.Fits)
    (distinct : (parameters.map Parameter.name).Nodup) (rest : List Token)
    (enough : (Token.separated Parameter.tokens parameters ++
      .symbol .rightBracket :: rest).length ≤ limit) :
    Gives (Grammar.parameters function limit : Reading σ _)
      (Token.separated Parameter.tokens parameters ++ .symbol .rightBracket :: rest) parameters
      (.symbol .rightBracket :: rest) := by
  have items := Token.length_le_separated Parameter.tokens parameters
  have lengths := enough
  rw [List.length_append, List.length_cons] at lengths
  have once : repeated? [] (parameters.map Parameter.name) = none :=
    (repeated?_eq_none_iff [] _).mpr ⟨distinct, fun _ _ => List.not_mem_nil⟩
  refine .bind (.separatedItems .missingParameter
    (fun parameter listed rest _ _ => parameter_gives (fits parameter listed) rest)
    parameter_gives_none (by omega) rest (Nat.lt_succ_of_le enough)) ?_
  rw [once]
  exact .pure _ _

theorem returnType_gives {type : ValueType} (written : type.token?.isSome) (rest : List Token) :
    Gives (returnType : Reading σ _) (type.tokens ++ rest) (some type) rest := by
  have declared : ∀ {type : ValueType}, type.isVariableType →
      Gives (returnType : Reading σ _) (type.tokens ++ rest) (some type) rest := by
    intro type variableType
    rcases ValueType.exists_of_isVariableType variableType with ⟨token, written, declares, _⟩
    refine .bind (.takeIf_of_ne ?_) (.variableType variableType rest)
    intro void
    rw [written] at void
    change token.kind = _ at void
    rw [void] at declares
    cases declares
  cases type with
  | void => exact .bind (.takeIf (.keyword .voidWord) rest) (.pure _ rest)
  | money currency =>
      cases currency with
      | none => cases written
      | some id => exact declared rfl
  | _ => exact declared rfl

theorem definition_gives {definition : Definition} (fits : definition.Fits) (rest : List Token)
    (enough : (definition.tokens ++ rest).length ≤ limit) :
    Gives (Grammar.definition limit : Reading σ _) (definition.tokens ++ rest) (some definition)
      rest := by
  rcases definition with ⟨type, name, parameters, body⟩
  simp only [Definition.tokens, List.append_assoc, List.cons_append, Token.bracketed_append]
    at enough ⊢
  have lengths := enough
  rw [List.length_append, List.length_cons, List.length_cons, List.length_append,
    List.length_cons] at lengths
  refine .bind (returnType_gives fits.returnType _) (.bind ?_ (.pure _ rest))
  refine .bind (.expectName _ name _) (.bind (.expect _ (.symbol .leftBracket) _) ?_)
  refine .bind (parameters_gives name fits.parameters fits.distinct _ ?_) ?_
  · change (Token.separated Parameter.tokens parameters ++ _).length ≤ limit
    rw [List.length_append, List.length_cons]
    omega
  have reads : ∀ statement ∈ body, Reads σ statement :=
    fun statement listed => reads_of_fits (fits.body statement listed)
  apply Gives.bind (.expect _ (.symbol .rightBracket) _)
  exact .bind (.required _ (block_gives reads rest (by omega))) (.pure _ rest)

theorem next_definition_ne {definition : Definition} (fits : definition.Fits)
    (rest : List Token) : (Token.next (definition.tokens ++ rest)).kind ≠ .endOfText := by
  rcases definition with ⟨type, name, parameters, body⟩
  have written := fits.returnType
  cases type with
  | money currency =>
      cases currency with
      | none => cases written
      | some id => simp [Definition.tokens, ValueType.tokens, ValueType.token?, Token.kind]
  | _ => simp [Definition.tokens, ValueType.tokens, ValueType.token?, Token.kind]

theorem definitions_gives {program : Program} {known further : List Definition}
    (listing : program.IsListing known)
    (distinct : ((known ++ further).map Definition.name).Nodup)
    (fits : ∀ definition ∈ further, definition.Fits)
    (enough : (further.flatMap Definition.tokens).length ≤ count)
    (withinLimit : (further.flatMap Definition.tokens).length ≤ limit) :
    ∃ result : Program, result.IsListing (known ++ further) ∧
      Gives (definitions limit count program : Reading σ _) (further.flatMap Definition.tokens)
        result [] := by
  induction further generalizing program known count with
  | nil =>
      refine ⟨program, by simpa using listing, ?_⟩
      cases count with
      | zero => exact .pure program []
      | succ count =>
          apply Gives.peek
          intro placed same
          have atEnd : placed.kind = .endOfText := congrArg Token.kind same
          rw [if_pos atEnd]
          exact .pure program []
  | cons first others induction =>
      rw [List.flatMap_cons] at enough withinLimit ⊢
      have positive := List.length_pos_iff.mpr first.tokens_ne_nil
      have lengths := enough
      rw [List.length_append] at lengths
      rw [List.forall_mem_cons] at fits
      rw [List.append_cons] at distinct
      have unknown : program.definition? first.name = none := by
        rw [listing.definition?_eq_none_iff]
        rw [List.map_append, List.map_append, List.nodup_append, List.nodup_append] at distinct
        intro member
        exact distinct.1.2.2 _ member _ (by simp) rfl
      cases count with
      | zero => omega
      | succ count =>
          have others_within := withinLimit
          rw [List.length_append] at others_within
          have others_enough : (others.flatMap Definition.tokens).length ≤ count := by omega
          rcases induction (listing.insert unknown) distinct fits.2 others_enough (by omega) with
            ⟨result, resultListing, gives⟩
          refine ⟨result, by simpa using resultListing, ?_⟩
          apply Gives.peek
          intro placed same
          have inside := next_definition_ne fits.1 (others.flatMap Definition.tokens)
          rw [← same] at inside
          rw [PlacedToken.kind, if_neg inside]
          apply Gives.bind (definition_gives fits.1 _ withinLimit)
          change Gives (if (program.definition? first.name).isSome then _ else _) _ _ _
          rw [unknown]
          exact gives

theorem program_of_listing {program : Program} {definitions : List Definition}
    (listing : program.IsListing definitions)
    (fits : ∀ definition ∈ definitions, definition.Fits) {source : σ} {position : Position}
    (leaves : Leaves (.ok position) source (definitions.flatMap Definition.tokens))
    (enough : (definitions.flatMap Definition.tokens).length < bound source) :
    Grammar.program source = .ok program := by
  have read : ∃ result : Program, result.IsListing ([] ++ definitions) ∧
      Gives (Grammar.definitions (bound source) (bound source) .empty : Reading σ _)
        (definitions.flatMap Definition.tokens) result [] :=
    definitions_gives .empty listing.distinct fits (Nat.le_of_lt enough) (Nat.le_of_lt enough)
  rcases read with ⟨result, resultListing, gives⟩
  rcases gives leaves with ⟨last, _, read⟩
  have ran : Grammar.program source =
      (Grammar.definitions (bound source) (bound source) .empty source).map Prod.fst := rfl
  rw [ran, read, resultListing.unique listing]
  rfl

end Grammar

end Ducat
