import Ducat.Proofs.Grammar.Mirroring.Definition

/-! Sources that give out a limited number of tokens. Main statement: as long as tokens are left,
they read like the sources below them. -/

namespace Ducat

namespace Grammar

open Source

structure Metered (σ : Type) where
  source : σ
  budget : Nat
  /-- How a further token is refused. -/
  refusal : LexError

instance {σ : Type} [Source σ] : Source (Metered σ) where
  current metered := current metered.source
  advance metered :=
    match metered.budget with
    | 0 => .error metered.refusal
    | budget + 1 => (advance metered.source).map fun next => ⟨next, budget, metered.refusal⟩
  bound metered := bound metered.source

variable {σ τ α : Type} [Source σ] [Source τ] {ending : Except LexError Position}

def outcomeAt (reading : Reading σ α) (source : σ) : Except Error α :=
  (reading source).map Prod.fst

theorem Source.Lists.metered {source : σ} {list : TokenList} (lists : Lists (.ok source) list)
    {budget : Nat} (enough : list.tokens.length ≤ budget) (refusal : LexError) :
    Lists (.ok (⟨source, budget, refusal⟩ : Metered σ)) list := by
  rcases list with ⟨tokens, ending⟩
  induction tokens generalizing source budget with
  | nil =>
      rcases lists.of_nil with ⟨atEnd, rfl⟩
      exact .finished atEnd
  | cons token tokens induction =>
      rcases lists.of_cons with ⟨rfl, inside, behind⟩
      rcases budget with _ | budget
      · cases enough
      let metered : Metered σ := ⟨source, budget + 1, refusal⟩
      have here : (current metered).kind ≠ .endOfText := inside
      have further : Lists (advance metered) ⟨tokens, ending⟩ := by
        change Lists ((advance source).map fun next => Metered.mk next budget refusal) _
        cases advanced : advance source with
        | error error =>
            rw [advanced] at behind
            cases behind.of_error
            exact .fault error
        | ok next =>
            rw [advanced] at behind
            exact induction behind (Nat.le_of_succ_le_succ enough)
      exact .further here further

theorem Parallel.map_fst_eq {outcome otherOutcome : α → Nat → Prop}
    {first : Except Error (α × σ)} {second : Except Error (α × τ)}
    (parallel : Parallel ending outcome first second)
    (converse : Parallel ending otherOutcome second first) :
    first.map Prod.fst = second.map Prod.fst := by
  cases parallel with
  | given => rfl
  | refused => rfl
  | fault found =>
      cases converse with
      | refused => rfl
      | fault other =>
          rw [found] at other
          cases other
          rfl

theorem outcomeAt_eq {source : σ} {other : τ} {list : TokenList} {reading : Reading σ α}
    {otherReading : Reading τ α} {outcome otherOutcome : α → Nat → Prop}
    (lists : Lists (.ok source) list) (otherLists : Lists (.ok other) list)
    (mirrors : Mirrors list.ending list.tokens.length source other reading otherReading outcome)
    (converse : Mirrors list.ending list.tokens.length other source otherReading reading
      otherOutcome) :
    outcomeAt reading source = outcomeAt otherReading other := by
  have alike := Alike.of_lists lists otherLists (List.prefix_refl _) fun _ _ => rfl
  have otherAlike := Alike.of_lists otherLists lists (List.prefix_refl _) fun _ _ => rfl
  exact (mirrors alike).map_fst_eq (converse otherAlike)

end Grammar

end Ducat
