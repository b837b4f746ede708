import Ducat.Grammar.Definition
import Ducat.Proofs.Grammar.Mirroring.Statement

/-! The rules for definitions and programs read the same from sources with the same tokens. -/

namespace Ducat

namespace Grammar

open Source

variable {σ τ : Type} [Source σ] [Source τ] {ending : Except LexError Position}
  {left count otherCount limit otherLimit : Nat} {source : σ} {other : τ}

theorem parameter_mirrors :
    Mirrors ending left source other parameter parameter (Moves left) := by
  apply Mirrors.peek
  split
  next name found =>
    apply Mirrors.bind (.take found (by simp [Token.kind]))
    intro _ rest _ _ fewer
    exact .pure (.some fewer)
  · apply Mirrors.bind_offered .variableType
    · intro rest _ _ least
      exact .pure (.none least)
    · intro type rest _ _ fewer
      apply Mirrors.bind (.expectName _)
      intro name last _ _ moved
      exact .pure (.some (by omega))

theorem parameters_mirrors (function : String) (enough : left < count)
    (otherEnough : left < otherCount) :
    Mirrors ending left source other (parameters function count)
      (parameters function otherCount) fun _ rest => rest ≤ left := by
  apply Mirrors.bind
    (.separatedItems (fun _ => rfl) (fun _ => parameter_mirrors) enough enough otherEnough)
  intro parameters rest _ _ least
  split
  · exact .throw rfl
  · exact .pure least

theorem returnType_mirrors :
    Mirrors ending left source other returnType returnType (Moves left) := by
  apply Mirrors.takeIf (by simp)
  · intro rest _ _ fewer
    exact .pure (.some fewer)
  · exact .variableType

def definitionOver (statement : Reading σ (Option Statement)) (limit : Nat) :
    Reading σ (Option Definition) := do
  match ← returnType with
  | some type =>
      let name ← expectName .function
      expect .function (.symbol .leftBracket)
      let parameters ← parameters name limit
      expect .function (.symbol .rightBracket)
      let body ← required (block statement limit) (.missingFunctionBlock name)
      return some ⟨type, name, parameters, body⟩
  | none => return none

theorem definition_eq (limit : Nat) :
    (definition limit : Reading σ (Option Definition)) =
      definitionOver (statement limit) limit := by
  rw [definition, definitionOver]
  refine congrArg (returnType >>= ·) (funext fun type => ?_)
  cases type with
  | none => rfl
  | some type => simp only [signatureAndBody, bind_assoc, pure_bind]

theorem definitionOver_mirrors {statement : Reading σ (Option Statement)}
    {otherStatement : Reading τ (Option Statement)} {bound : Nat}
    (statement_mirrors : ∀ {left source other}, left < bound →
      Mirrors ending left source other statement otherStatement (Moves left))
    (enough : bound ≤ limit ∧ bound ≤ otherLimit) (near : left ≤ bound) :
    Mirrors ending left source other (definitionOver statement limit)
      (definitionOver otherStatement otherLimit) (Moves left) := by
  apply Mirrors.bind_offered returnType_mirrors
  · intro rest _ _ least
    exact .pure (.none least)
  · intro type typed _ _ fewer
    apply Mirrors.bind (.expectName _)
    intro name rest _ _ named
    apply Mirrors.bind (.expect _ (by simp))
    intro _ behind _ _ opened
    apply Mirrors.bind (parameters_mirrors name (by omega) (by omega))
    intro parameters further _ _ least
    apply Mirrors.bind (.expect _ (by simp))
    intro _ next _ _ closed
    apply Mirrors.bind
      (.required (fun _ => rfl) (block_mirrors statement_mirrors (by omega) enough))
    intro statements last _ _ ended
    exact .pure (.some (by omega))

theorem definition_mirrors (enough : left < limit) (otherEnough : left < otherLimit) :
    Mirrors ending left source other (definition limit) (definition otherLimit)
      (Moves left) := by
  have body {left : Nat} {source : σ} {other : τ} (nearer : left < min limit otherLimit) :
      Mirrors ending left source other (statement limit) (statement otherLimit)
        (Moves left) :=
    statement_mirrors (by omega) (by omega)
  rw [definition_eq, definition_eq]
  exact definitionOver_mirrors body ⟨by omega, by omega⟩ (by omega)

theorem definitions_mirrors (near : left < limit) (otherNear : left < otherLimit)
    (enough : left < count) (otherEnough : left < otherCount) (program : Program) :
    Mirrors ending left source other (definitions limit count program)
      (definitions otherLimit otherCount program) fun _ rest => rest = 0 := by
  induction count generalizing left source other otherCount program with
  | zero => exact absurd enough (Nat.not_lt_zero _)
  | succ count induction =>
      rcases otherCount with _ | otherCount
      · exact absurd otherEnough (Nat.not_lt_zero _)
      apply Mirrors.peek
      apply Mirrors.ite
      · intro atEnd alike
        exact Mirrors.pure (alike.of_atEnd atEnd).1 alike
      · intro _
        apply Mirrors.bind_offered (definition_mirrors near otherNear)
        · intro rest _ _ _
          exact .unexpected _ _
        · intro definition rest _ _ fewer
          apply Mirrors.ite
          · intro _
            exact .throw rfl
          · intro _
            exact induction (by omega) (by omega) (by omega) (by omega) _

theorem program_eq (source : σ) :
    program source =
      (definitions (bound source) (bound source) .empty source).map Prod.fst := rfl

theorem program_eq_of_alike {position : Position} (alike : Alike (.ok position) left source other)
    (near : left < bound source) (otherNear : left < bound other) :
    program source = program other := by
  have parallel := definitions_mirrors near otherNear near otherNear .empty alike
  rw [program_eq, program_eq]
  generalize definitions _ _ _ source = one at parallel ⊢
  generalize definitions _ _ _ other = two at parallel ⊢
  cases parallel with
  | given => rfl
  | refused => rfl
  | fault found => cases found

/-- In front of a fault no program is accepted, and what is refused is refused wherever the same
tokens stand. -/
theorem program_of_fault {error : LexError} (alike : Alike (.error error) left source other)
    (near : left < bound source) (otherNear : left < bound other) :
    program source = .error (.lexical error) ∨
      ∃ refusal : Error, refusal.isLexical = false ∧ program source = .error refusal ∧
        program other = .error refusal := by
  have parallel := definitions_mirrors near otherNear near otherNear .empty alike
  rw [program_eq, program_eq]
  generalize definitions _ _ _ source = one at parallel ⊢
  generalize definitions _ _ _ other = two at parallel ⊢
  cases parallel with
  | given behind atEnd =>
      subst atEnd
      cases behind with
      | finished _ _ found => cases found
  | refused meant => exact .inr ⟨_, meant, rfl, rfl⟩
  | fault found =>
      cases found
      exact .inl rfl

end Grammar

end Ducat
