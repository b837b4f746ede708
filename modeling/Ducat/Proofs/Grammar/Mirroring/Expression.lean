import Ducat.Proofs.Grammar.Recognition
import Ducat.Proofs.Grammar.Mirroring

/-! The rules for expressions read the same from sources with the same tokens. The limits of the two
readings do not have to be the same: an operand begins where at most `bound` tokens are left, and a
condition inside it behind at least one more token. -/

namespace Ducat

namespace Grammar

open Source

variable {σ τ : Type} [Source σ] [Source τ] {ending : Except LexError Position}
  {left bound count otherCount : Nat} {source : σ} {other : τ}

section

variable {Operator : Type} {operator? : TokenKind → Option Operator}
  {build : Operator → Expression → Expression → Expression} {rule : Rule}
  {operand : Reading σ (Option Expression)} {otherOperand : Reading τ (Option Expression)}
  (operand_mirrors : ∀ {left source other}, left ≤ bound →
    Mirrors ending left source other operand otherOperand (Moves left))

include operand_mirrors

theorem signed_mirrors {kind : TokenKind} (inside : kind ≠ .endOfText)
    (sign : Expression → Expression) (near : left ≤ bound) :
    Mirrors ending left source other
      (do
        if ← takeIf kind then return some (sign (← required operand (.missingExpression rule)))
        else operand)
      (do
        if ← takeIf kind then
          return some (sign (← required otherOperand (.missingExpression rule)))
        else otherOperand)
      (Moves left) := by
  apply Mirrors.takeIf inside
  · intro rest _ _ fewer
    apply Mirrors.bind (.required (fun _ => rfl) (operand_mirrors (by omega)))
    intro operand last _ _ moved
    exact .pure (.some (by omega))
  · exact operand_mirrors near

variable (inside : operator? .endOfText = none)

include inside

/-- A chain of one operator at most has the same limit on both sides. Other limits are never
reached. -/
theorem chainFrom_mirrors (near : left ≤ bound)
    (enough : count = otherCount ∨ left < count ∧ left < otherCount) (first : Expression) :
    Mirrors ending left source other (chainFrom rule operator? build operand count first)
      (chainFrom rule operator? build otherOperand otherCount first)
      fun _ rest => rest ≤ left := by
  induction count generalizing left source other otherCount first with
  | zero =>
      have same : otherCount = 0 := by omega
      subst same
      exact .pure (Nat.le_refl _)
  | succ count induction =>
      rcases otherCount with _ | otherCount
      · omega
      apply Mirrors.peek
      cases found : operator? (current source).kind with
      | none => exact .pure (Nat.le_refl _)
      | some operator =>
          have more : (current source).kind ≠ .endOfText := by
            intro atEnd
            rw [atEnd, inside] at found
            cases found
          apply Mirrors.bind (.take rfl more)
          intro _ rest _ _ fewer
          apply Mirrors.bind (.required (fun _ => rfl) (operand_mirrors (by omega)))
          intro second further _ _ moved
          apply (induction (by omega) (by omega) _).mono
          intro _ last least
          omega

theorem chain_mirrors (near : left ≤ bound)
    (enough : count = otherCount ∨ bound ≤ count ∧ bound ≤ otherCount) :
    Mirrors ending left source other (chain rule operator? build operand count)
      (chain rule operator? build otherOperand otherCount) (Moves left) := by
  apply Mirrors.bind_offered (operand_mirrors near)
  · intro rest _ _ least
    exact .pure (.none least)
  · intro first rest _ _ fewer
    apply Mirrors.bind (chainFrom_mirrors operand_mirrors inside (by omega) (by omega) first)
    intro result last _ _ least
    exact .pure (.some (by omega))

end

section

variable {condition : Reading σ (Option Expression)}
  {otherCondition : Reading τ (Option Expression)}
  (condition_mirrors : ∀ {left source other}, left < bound →
    Mirrors ending left source other condition otherCondition (Moves left))
  (enough : bound ≤ count ∧ bound ≤ otherCount)

include condition_mirrors enough

theorem arguments_mirrors (near : left ≤ bound) :
    Mirrors ending left source other (arguments condition count)
      (arguments otherCondition otherCount) fun _ rest => rest < left := by
  apply Mirrors.bind (.expect _ (by simp))
  intro _ rest _ _ fewer
  apply Mirrors.bind
    (.separatedItems (fun _ => rfl) condition_mirrors (by omega) (by omega) (by omega))
  intro arguments further _ _ least
  apply Mirrors.bind (.expect _ (by simp))
  intro _ last _ _ moved
  exact .pure (by omega)

theorem factor_mirrors (near : left ≤ bound) :
    Mirrors ending left source other (factor condition count)
      (factor otherCondition otherCount) (Moves left) := by
  apply Mirrors.peek
  dsimp only
  split
  next found =>
    apply Mirrors.bind (.take found (by simp [Token.kind]))
    intro _ rest _ _ fewer
    apply Mirrors.bind (.required (fun _ => rfl) (condition_mirrors (by omega)))
    intro inner further _ _ moved
    apply Mirrors.bind (.expect _ (by simp))
    intro _ last _ _ closed
    exact .pure (.some (by omega))
  next name found =>
    apply Mirrors.bind (.take found (by simp [Token.kind]))
    intro _ rest middle _ fewer
    apply Mirrors.peek
    apply Mirrors.ite
    · intro _
      apply Mirrors.bind (arguments_mirrors condition_mirrors enough (by omega))
      intro arguments last _ _ moved
      exact .pure (.some (by omega))
    · intro _
      exact .pure (.some (by omega))
  · split
    next literal spelled =>
      rcases eq_token_of_literal? spelled with ⟨inside, found⟩
      apply Mirrors.bind (.take found inside)
      intro _ rest _ _ fewer
      exact .pure (.some (by omega))
    · exact .pure (.none (Nat.le_refl _))

theorem negation_mirrors (near : left ≤ bound) :
    Mirrors ending left source other (negation condition count)
      (negation otherCondition otherCount) (Moves left) :=
  signed_mirrors (factor_mirrors condition_mirrors enough) (by simp) .negation near

theorem cast_mirrors (near : left ≤ bound) :
    Mirrors ending left source other (cast condition count)
      (cast otherCondition otherCount) (Moves left) := by
  apply Mirrors.bind_offered (negation_mirrors condition_mirrors enough near)
  · intro rest _ _ least
    exact .pure (.none least)
  · intro operand rest _ _ fewer
    apply Mirrors.takeIf (by simp)
    · intro further _ _ moved
      apply Mirrors.bind_offered .variableType
      · intro last _ _ _
        exact .unexpected _ _
      · intro target last _ _ named
        exact .pure (.some (by omega))
    · exact .pure (.some fewer)

theorem product_mirrors (near : left ≤ bound) :
    Mirrors ending left source other (product condition count)
      (product otherCondition otherCount) (Moves left) :=
  chain_mirrors (cast_mirrors condition_mirrors enough) rfl near (.inr enough)

theorem sum_mirrors (near : left ≤ bound) :
    Mirrors ending left source other (sum condition count) (sum otherCondition otherCount)
      (Moves left) :=
  chain_mirrors (product_mirrors condition_mirrors enough) rfl near (.inr enough)

theorem negatedCondition_mirrors (near : left ≤ bound) :
    Mirrors ending left source other (negatedCondition condition count)
      (negatedCondition otherCondition otherCount) (Moves left) :=
  signed_mirrors (sum_mirrors condition_mirrors enough) (by simp) .not near

theorem relation_mirrors (near : left ≤ bound) :
    Mirrors ending left source other (relation condition count)
      (relation otherCondition otherCount) (Moves left) :=
  chain_mirrors (negatedCondition_mirrors condition_mirrors enough) rfl near (.inl rfl)

theorem comparison_mirrors (near : left ≤ bound) :
    Mirrors ending left source other (comparison condition count)
      (comparison otherCondition otherCount) (Moves left) :=
  chain_mirrors (relation_mirrors condition_mirrors enough) rfl near (.inl rfl)

theorem conjunction_mirrors (near : left ≤ bound) :
    Mirrors ending left source other (conjunction condition count)
      (conjunction otherCondition otherCount) (Moves left) :=
  chain_mirrors (comparison_mirrors condition_mirrors enough) rfl near (.inr enough)

theorem disjunction_mirrors (near : left ≤ bound) :
    Mirrors ending left source other (disjunction condition count)
      (disjunction otherCondition otherCount) (Moves left) :=
  chain_mirrors (conjunction_mirrors condition_mirrors enough) rfl near (.inr enough)

end

def conditionWithin (beyond : Reading σ (Option Expression)) :
    Nat → Reading σ (Option Expression)
  | 0 => beyond
  | count + 1 => disjunction (conditionWithin beyond count) count

theorem condition_eq (count : Nat) :
    (condition count : Reading σ (Option Expression)) = conditionWithin (pure none) count := by
  induction count with
  | zero => rfl
  | succ count induction => rw [condition, conditionWithin, induction]

/-- Where fewer tokens are left than conditions could be nested, those beyond are never read. -/
theorem conditionWithin_mirrors {beyond : Reading σ (Option Expression)}
    {otherBeyond : Reading τ (Option Expression)} (enough : left < count)
    (otherEnough : left < otherCount) :
    Mirrors ending left source other (conditionWithin beyond count)
      (conditionWithin otherBeyond otherCount) (Moves left) := by
  induction count generalizing left source other otherCount with
  | zero => exact absurd enough (Nat.not_lt_zero _)
  | succ count induction =>
      rcases otherCount with _ | otherCount
      · exact absurd otherEnough (Nat.not_lt_zero _)
      have inner {left : Nat} {source : σ} {other : τ} (nearer : left < min count otherCount) :
          Mirrors ending left source other (conditionWithin beyond count)
            (conditionWithin otherBeyond otherCount) (Moves left) :=
        induction (by omega) (by omega)
      exact disjunction_mirrors inner ⟨by omega, by omega⟩ (by omega)

end Grammar

end Ducat
