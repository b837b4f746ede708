import Ducat.Proofs.Grammar.OptionalRule

/-! Main statement: wherever a lexer stands, a rule that yields nothing has not moved it, a rule
that yields something has taken a token, and every rule ends, whatever it yields or refuses, after
it has taken each token at most once. -/

namespace Ducat

namespace Grammar

open Source

theorem Source.Alike.length_eq {σ τ : Type} [Source σ] [Source τ]
    {ending : Except LexError Position} {left : Nat} {source : σ} {other : τ} {list : TokenList}
    (alike : Alike ending left source other) (lists : Lists (.ok source) list) :
    list.tokens.length = left := by
  induction alike generalizing list with
  | finished _ atEnd =>
      cases lists with
      | finished => rfl
      | further inside => exact absurd atEnd inside
  | faulty _ inside failed =>
      cases lists with
      | finished atEnd => exact absurd atEnd inside
      | further _ behind =>
          rw [failed] at behind
          cases behind.of_error
          rfl
  | further _ inside advanced _ _ induction =>
      cases lists with
      | finished atEnd => exact absurd atEnd inside
      | further _ behind =>
          rw [advanced] at behind
          exact congrArg Nat.succ (induction behind)

section

variable {σ : Type} [Source σ] {source : σ} {list : TokenList} {limit otherLimit : Nat}
  (lists : Lists (.ok source) list) (enough : list.tokens.length < limit)

include lists enough

namespace OptionalRule

variable (rule : OptionalRule)

theorem eq_of_absent {next : σ} (read : rule.reading limit source = .ok (none, next)) :
    next = source := by
  rcases rule.reading_takes (lists.within enough) read with ⟨taken, passes, nothing⟩
  cases nothing rfl
  cases passes
  rfl

theorem exists_taken_of_present {result : rule.Result} {next : σ}
    (read : rule.reading limit source = .ok (some result, next)) :
    ∃ taken rest, taken ≠ [] ∧ Lists (.ok next) rest ∧
      list = ⟨taken ++ rest.tokens, rest.ending⟩ := by
  rcases rule.reading_takes (lists.within enough) read with ⟨_, passes, _⟩
  rcases passes.exists_lists lists with ⟨taken, rest, _, restLists, split⟩
  refine ⟨taken, rest, ?_, restLists, split⟩
  have alike : Alike list.ending list.tokens.length source source :=
    .of_lists lists lists (List.prefix_refl _) fun _ _ => rfl
  have parallel := rule.reading_mirrors enough enough alike
  rw [read] at parallel
  cases parallel with
  | given alike moves =>
      cases moves with
      | some fewer =>
          rintro rfl
          rw [split, ← alike.length_eq restLists] at fewer
          exact absurd fewer (Nat.lt_irrefl _)

/-- Neither the limit nor what stands in for deeply nested parts matters. -/
theorem outcomeAt_readingWithin (conditions : Reading σ (Option Expression))
    (statements : Reading σ (Option Statement)) (otherEnough : list.tokens.length < otherLimit) :
    outcomeAt (rule.readingWithin conditions statements limit) source =
      outcomeAt (rule.reading otherLimit) source := by
  rw [reading_eq]
  exact outcomeAt_eq lists lists (rule.readingWithin_mirrors enough otherEnough)
    (rule.readingWithin_mirrors otherEnough enough)

theorem outcomeAt_metered {budget : Nat} (affordable : list.tokens.length ≤ budget)
    (refusal : LexError) :
    outcomeAt (rule.reading limit) (Metered.mk source budget refusal) =
      outcomeAt (rule.reading limit) source :=
  outcomeAt_eq (lists.metered affordable refusal) lists (rule.reading_mirrors enough enough)
    (rule.reading_mirrors enough enough)

end OptionalRule

theorem outcomeAt_definitions {count : Nat} (countEnough : list.tokens.length < count)
    (reckoned : list.tokens.length < bound source) :
    outcomeAt (definitions limit count .empty) source = program source := by
  rw [program_eq]
  exact outcomeAt_eq lists lists (definitions_mirrors enough reckoned countEnough reckoned .empty)
    (definitions_mirrors reckoned enough reckoned countEnough .empty)

end

theorem program_metered {σ : Type} [Source σ] {source : σ} {list : TokenList}
    (lists : Lists (.ok source) list) (reckoned : list.tokens.length < bound source) {budget : Nat}
    (affordable : list.tokens.length ≤ budget) (refusal : LexError) :
    program (Metered.mk source budget refusal) = program source := by
  rw [program_eq, program_eq]
  exact outcomeAt_eq (lists.metered affordable refusal) lists
    (definitions_mirrors reckoned reckoned reckoned reckoned .empty)
    (definitions_mirrors reckoned reckoned reckoned reckoned .empty)

/-- What a rule promises wherever it is tried, if it is given a limit above the number of tokens
that are left there. -/
structure OptionalRule.Contract (rule : OptionalRule) (lexer : Lexer) : Prop where
  /-- The lexer stays as it was if nothing is found. -/
  absent : ∀ limit next, lexer.unread.tokens.length < limit →
    rule.reading limit lexer = .ok (none, next) → next = lexer
  /-- What is found has been taken from the front of the tokens that were left. -/
  present : ∀ limit result next, lexer.unread.tokens.length < limit →
    rule.reading limit lexer = .ok (some result, next) →
      ∃ taken, taken ≠ [] ∧ lexer.unread = ⟨taken ++ next.unread.tokens, next.unread.ending⟩
  /-- The limit is never reached: nothing depends on it, nor on what would be read beyond it. -/
  ends : ∀ limit otherLimit conditions statements, lexer.unread.tokens.length < limit →
    lexer.unread.tokens.length < otherLimit →
      outcomeAt (rule.readingWithin conditions statements limit) lexer =
        outcomeAt (rule.reading otherLimit) lexer
  /-- No more tokens are asked for than are left, also where reading fails. -/
  once : ∀ limit budget refusal, lexer.unread.tokens.length < limit →
    lexer.unread.tokens.length ≤ budget →
      outcomeAt (rule.reading limit) (Metered.mk lexer budget refusal) =
        outcomeAt (rule.reading limit) lexer

theorem OptionalRule.contract (rule : OptionalRule) (lexer : Lexer) : rule.Contract lexer where
  absent _ _ enough read := rule.eq_of_absent lexer.lists_unread enough read
  present _ _ _ enough read := by
    rcases rule.exists_taken_of_present lexer.lists_unread enough read with
      ⟨taken, rest, filled, restLists, split⟩
    rw [Lexer.eq_unread restLists] at split
    exact ⟨taken, filled, split⟩
  ends _ _ conditions statements enough otherEnough :=
    rule.outcomeAt_readingWithin lexer.lists_unread enough conditions statements otherEnough
  once _ _ refusal enough affordable :=
    rule.outcomeAt_metered lexer.lists_unread enough affordable refusal

/-- The grammar itself gives every rule a sufficient limit. What is said of a rule holds of whole
programs too. -/
theorem rules_move_forward_and_end (lexer : Lexer) :
    lexer.unread.tokens.length < lexer.bound ∧
      (∀ rule : OptionalRule, rule.Contract lexer) ∧
      (∀ limit count, lexer.unread.tokens.length < limit → lexer.unread.tokens.length < count →
        outcomeAt (definitions limit count .empty) lexer = program lexer) ∧
      (∀ budget refusal, lexer.unread.tokens.length ≤ budget →
        program (Metered.mk lexer budget refusal) = program lexer) ∧
      ∀ currencies text, Lexer.start currencies text >>= Lexer.toSignificant = .ok lexer →
        lexer.unread = (TokenList.ofText currencies text).significant := by
  have lists := lexer.lists_unread
  have reckoned := lexer.unread_length_lt
  refine ⟨reckoned, fun rule => rule.contract lexer, ?_, ?_, ?_⟩
  · intro limit count enough countEnough
    exact outcomeAt_definitions lists enough countEnough reckoned
  · intro budget refusal affordable
    exact program_metered lists reckoned affordable refusal
  · intro currencies text placed
    exact Lexer.unread_of_start placed

def signedPlace : Lexer := ⟨[], ⟨['x', ')'], ⟨1, 2⟩⟩, ⟨.symbol .minus, ⟨1, 1⟩⟩⟩

theorem rules_move_forward_and_end_of_signedPlace :
    signedPlace.unread.tokens.length ≤ 3 ∧
      OptionalRule.factor.reading 4 signedPlace = .ok (none, signedPlace) ∧
      ∃ next, OptionalRule.negation.reading 4 signedPlace =
          .ok (some (.negation (.reference "x")), next) ∧
        (∃ taken, taken ≠ [] ∧
          signedPlace.unread = ⟨taken ++ next.unread.tokens, next.unread.ending⟩) ∧
        ∀ refusal, outcomeAt (OptionalRule.negation.reading 4) (Metered.mk signedPlace 3 refusal) =
          .ok (some (.negation (.reference "x"))) := by
  rcases rules_move_forward_and_end signedPlace with ⟨reckoned, contract, _⟩
  have few : signedPlace.unread.tokens.length < 4 := reckoned
  let next : Lexer := ⟨[], ⟨[], ⟨1, 4⟩⟩, ⟨.symbol .rightBracket, ⟨1, 3⟩⟩⟩
  have read : OptionalRule.negation.reading 4 signedPlace =
      .ok (some (.negation (.reference "x")), next) := rfl
  refine ⟨Nat.le_of_lt_succ few, rfl, next, read, ?_, ?_⟩
  · exact (contract .negation).present 4 _ next few read
  · intro refusal
    rw [(contract .negation).once 4 3 refusal few (Nat.le_of_lt_succ few), outcomeAt, read]
    rfl

end Grammar

end Ducat
