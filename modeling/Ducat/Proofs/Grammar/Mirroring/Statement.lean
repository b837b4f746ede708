import Ducat.Grammar.Statement
import Ducat.Proofs.Grammar.Mirroring.Expression

/-! The rules for statements read the same from sources with the same tokens. -/

namespace Ducat

namespace Grammar

open Source

variable {σ τ : Type} [Source σ] [Source τ] {ending : Except LexError Position}
  {left bound count otherCount : Nat} {source : σ} {other : τ}

section

variable {statement : Reading σ (Option Statement)} {otherStatement : Reading τ (Option Statement)}
  (statement_mirrors : ∀ {left source other}, left < bound →
    Mirrors ending left source other statement otherStatement (Moves left))

include statement_mirrors

theorem statementsToBrace_mirrors (near : left < bound) (enough : left < count)
    (otherEnough : left < otherCount) :
    Mirrors ending left source other (statementsToBrace statement count)
      (statementsToBrace otherStatement otherCount) fun _ rest => rest ≤ left := by
  induction count generalizing left source other otherCount with
  | zero => exact absurd enough (Nat.not_lt_zero _)
  | succ count induction =>
      rcases otherCount with _ | otherCount
      · exact absurd otherEnough (Nat.not_lt_zero _)
      apply Mirrors.takeIf (by simp)
      · intro rest _ _ fewer
        exact .pure (Nat.le_of_lt fewer)
      · apply Mirrors.bind_offered (statement_mirrors near)
        · intro rest _ _ _
          exact .unexpected _ _
        · intro first rest _ _ fewer
          apply Mirrors.bind (induction (by omega) (by omega) (by omega))
          intro statements last _ _ least
          exact .pure (by omega)

theorem block_mirrors (near : left ≤ bound) (enough : bound ≤ count ∧ bound ≤ otherCount) :
    Mirrors ending left source other (block statement count) (block otherStatement otherCount)
      (Moves left) := by
  apply Mirrors.takeIf (by simp)
  · intro rest _ _ fewer
    apply Mirrors.bind
      (statementsToBrace_mirrors statement_mirrors (by omega) (by omega) (by omega))
    intro statements last _ _ least
    exact .pure (.some (by omega))
  · exact .pure (.none (Nat.le_refl _))

end

section

variable {condition : Reading σ (Option Expression)}
  {otherCondition : Reading τ (Option Expression)}
  (condition_mirrors : ∀ {left source other}, left < bound →
    Mirrors ending left source other condition otherCondition (Moves left))

include condition_mirrors

theorem bracketedCondition_mirrors (near : left ≤ bound) :
    Mirrors ending left source other (bracketedCondition condition)
      (bracketedCondition otherCondition) fun _ rest => rest < left := by
  apply Mirrors.bind (.expect _ (by simp))
  intro _ rest _ _ fewer
  apply Mirrors.bind (.required (fun _ => rfl) (condition_mirrors (by omega)))
  intro inner further _ _ moved
  apply Mirrors.bind (.expect _ (by simp))
  intro _ last _ _ closed
  exact .pure (by omega)

theorem declaration_mirrors (type : ValueType) (near : left ≤ bound) :
    Mirrors ending left source other (declaration condition type)
      (declaration otherCondition type) fun _ rest => rest < left := by
  apply Mirrors.bind (.expectName _)
  intro name rest _ _ fewer
  apply Mirrors.bind (.expect _ (by simp))
  intro _ further _ _ moved
  apply Mirrors.bind (.required (fun _ => rfl) (condition_mirrors (by omega)))
  intro value last _ _ behind
  exact .pure (by omega)

variable (enough : bound ≤ count ∧ bound ≤ otherCount)

include enough

theorem assignmentOrCall_mirrors (name : String) (near : left ≤ bound) :
    Mirrors ending left source other (assignmentOrCall condition count name)
      (assignmentOrCall otherCondition otherCount name) fun _ rest => rest < left := by
  apply Mirrors.peek
  apply Mirrors.ite
  · intro _
    apply Mirrors.bind (arguments_mirrors condition_mirrors enough near)
    intro arguments last _ _ fewer
    exact .pure fewer
  · intro _
    apply Mirrors.takeIf (by simp)
    · intro rest _ _ fewer
      apply Mirrors.bind (.required (fun _ => rfl) (condition_mirrors (by omega)))
      intro value last _ _ moved
      exact .pure (by omega)
    · exact .unexpected _ _

theorem instruction_mirrors (near : left ≤ bound) :
    Mirrors ending left source other (instruction condition count)
      (instruction otherCondition otherCount) (Moves left) := by
  apply Mirrors.takeIf (by simp)
  · intro rest _ _ fewer
    apply Mirrors.bind (condition_mirrors (by omega))
    intro value last _ _ moves
    exact .pure (.some (Nat.lt_of_le_of_lt moves.least fewer))
  · apply Mirrors.bind_offered .variableType
    · intro rest middle _ least
      apply Mirrors.peek
      split
      next name found =>
        apply Mirrors.bind (.take found (by simp [Token.kind]))
        intro _ further _ _ moved
        apply Mirrors.bind (assignmentOrCall_mirrors condition_mirrors enough name (by omega))
        intro statement last _ _ ended
        exact .pure (.some (by omega))
      · exact .pure (.none least)
    · intro type rest _ _ fewer
      apply Mirrors.bind (declaration_mirrors condition_mirrors type (by omega))
      intro declared last _ _ moved
      exact .pure (.some (by omega))

variable {statement : Reading σ (Option Statement)} {otherStatement : Reading τ (Option Statement)}
  (statement_mirrors : ∀ {left source other}, left < bound →
    Mirrors ending left source other statement otherStatement (Moves left))

include statement_mirrors

omit enough in
theorem conditional_mirrors (near : left < bound) :
    Mirrors ending left source other (conditional condition statement)
      (conditional otherCondition otherStatement) fun _ rest => rest < left := by
  apply Mirrors.bind (bracketedCondition_mirrors condition_mirrors (by omega))
  intro test rest _ _ fewer
  apply Mirrors.bind (.required (fun _ => rfl) (statement_mirrors (by omega)))
  intro consequence further _ _ moved
  apply Mirrors.takeIf (by simp)
  · intro next _ _ divided
    apply Mirrors.bind (.required (fun _ => rfl) (statement_mirrors (by omega)))
    intro alternative last _ _ ended
    exact .pure (by omega)
  · exact .pure (by omega)

theorem loop_mirrors (near : left ≤ bound) :
    Mirrors ending left source other (loop condition statement count)
      (loop otherCondition otherStatement otherCount) fun _ rest => rest < left := by
  apply Mirrors.bind (bracketedCondition_mirrors condition_mirrors near)
  intro test rest _ _ fewer
  apply Mirrors.bind
    (.required (fun _ => rfl) (block_mirrors statement_mirrors (by omega) enough))
  intro body last _ _ moved
  exact .pure (by omega)

theorem statementOver_mirrors (near : left ≤ bound) :
    Mirrors ending left source other (statementOver condition statement count)
      (statementOver otherCondition otherStatement otherCount) (Moves left) := by
  apply Mirrors.takeIf (by simp)
  · intro rest _ _ fewer
    apply Mirrors.bind (conditional_mirrors condition_mirrors statement_mirrors (by omega))
    intro statement last _ _ moved
    exact .pure (.some (by omega))
  apply Mirrors.takeIf (by simp)
  · intro rest _ _ fewer
    apply Mirrors.bind (loop_mirrors condition_mirrors enough statement_mirrors (by omega))
    intro statement last _ _ moved
    exact .pure (.some (by omega))
  apply Mirrors.bind_offered (block_mirrors statement_mirrors near enough)
  · intro rest _ _ least
    apply Mirrors.bind_offered (instruction_mirrors condition_mirrors enough (by omega))
    · intro last _ _ behind
      exact .pure (.none (by omega))
    · intro instruction further _ _ moved
      apply Mirrors.bind (.expect _ (by simp))
      intro _ last _ _ ended
      exact .pure (.some (by omega))
  · intro statements last _ _ fewer
    exact .pure (.some fewer)

end

/-- Statements, of which `statements` reads those that are nested `count` times. It is the same with
conditions, and with the conditions in statements. -/
def statementWithin (conditions : Reading σ (Option Expression))
    (statements : Reading σ (Option Statement)) : Nat → Reading σ (Option Statement)
  | 0 => statements
  | count + 1 =>
      statementOver (conditionWithin conditions count)
        (statementWithin conditions statements count) count

theorem statement_eq (count : Nat) :
    (statement count : Reading σ (Option Statement)) =
      statementWithin (pure none) (pure none) count := by
  induction count with
  | zero => rfl
  | succ count induction => rw [statement, statementWithin, condition_eq, induction]

theorem statementWithin_mirrors {conditions : Reading σ (Option Expression)}
    {otherConditions : Reading τ (Option Expression)} {statements : Reading σ (Option Statement)}
    {otherStatements : Reading τ (Option Statement)} (enough : left < count)
    (otherEnough : left < otherCount) :
    Mirrors ending left source other (statementWithin conditions statements count)
      (statementWithin otherConditions otherStatements otherCount) (Moves left) := by
  induction count generalizing left source other otherCount with
  | zero => exact absurd enough (Nat.not_lt_zero _)
  | succ count induction =>
      rcases otherCount with _ | otherCount
      · exact absurd otherEnough (Nat.not_lt_zero _)
      have inner {left : Nat} {source : σ} {other : τ} (nearer : left < min count otherCount) :
          Mirrors ending left source other (conditionWithin conditions count)
            (conditionWithin otherConditions otherCount) (Moves left) :=
        conditionWithin_mirrors (by omega) (by omega)
      have nested {left : Nat} {source : σ} {other : τ} (nearer : left < min count otherCount) :
          Mirrors ending left source other (statementWithin conditions statements count)
            (statementWithin otherConditions otherStatements otherCount) (Moves left) :=
        induction (by omega) (by omega)
      exact statementOver_mirrors inner ⟨by omega, by omega⟩ nested (by omega)

theorem statement_mirrors (enough : left < count) (otherEnough : left < otherCount) :
    Mirrors ending left source other (statement count) (statement otherCount)
      (Moves left) := by
  rw [statement_eq, statement_eq]
  exact statementWithin_mirrors enough otherEnough

end Grammar

end Ducat
