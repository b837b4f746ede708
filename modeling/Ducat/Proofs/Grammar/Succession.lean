import Ducat.Proofs.Grammar.Remaining
import Ducat.Proofs.Token.Division

/-! The tokens that a source goes over, with their positions. Lexers that skip comments go over the
tokens of the list of a text, without its comments. -/

namespace Ducat

namespace Grammar

namespace Source

/-- Moving from each place to the next one passes the tokens of a list, up to the end of the text
or to the fault that ends the list. -/
inductive Lists {σ : Type} [Source σ] : Except LexError σ → TokenList → Prop where
  | fault (error : LexError) : Lists (.error error) ⟨[], .error error⟩
  | finished {source : σ} (atEnd : (current source).kind = .endOfText) :
      Lists (.ok source) ⟨[], .ok (current source).position⟩
  | further {source : σ} {tokens : List PlacedToken} {ending : Except LexError Position}
      (inside : (current source).kind ≠ .endOfText)
      (behind : Lists (advance source) ⟨tokens, ending⟩) :
      Lists (.ok source) ⟨current source :: tokens, ending⟩

variable {σ : Type} [Source σ] {source : σ} {tokens : List PlacedToken}
  {ending : Except LexError Position}

theorem Lists.of_error {error : LexError} {list : TokenList}
    (lists : Lists (.error error : Except LexError σ) list) : list = ⟨[], .error error⟩ := by
  cases lists
  rfl

theorem Lists.of_nil (lists : Lists (.ok source) ⟨[], ending⟩) :
    (current source).kind = .endOfText ∧ ending = .ok (current source).position := by
  cases lists with
  | finished atEnd => exact ⟨atEnd, rfl⟩

theorem Lists.of_cons {token : PlacedToken} (lists : Lists (.ok source) ⟨token :: tokens, ending⟩) :
    current source = token ∧ (current source).kind ≠ .endOfText ∧
      Lists (advance source) ⟨tokens, ending⟩ := by
  cases lists with
  | further inside behind => exact ⟨rfl, inside, behind⟩

theorem Lists.tokens_ne_nil {list : TokenList} {error : LexError}
    (lists : Lists (.ok source) list) (faulty : list.ending = .error error) :
    list.tokens ≠ [] := by
  cases lists with
  | finished => cases faulty
  | further => exact List.cons_ne_nil _ _

theorem Lists.inside {place : Except LexError σ} {list : TokenList} (lists : Lists place list) :
    ∀ token ∈ list.tokens, token.kind ≠ .endOfText := by
  induction lists with
  | fault => exact List.forall_mem_nil _
  | finished => exact List.forall_mem_nil _
  | further inside _ induction => exact List.forall_mem_cons.mpr ⟨inside, induction⟩

theorem Lists.leaves (lists : Lists (.ok source) ⟨tokens, ending⟩) :
    Leaves ending source (tokens.map PlacedToken.token) := by
  induction tokens generalizing source with
  | nil =>
      rcases lists.of_nil with ⟨atEnd, found⟩
      exact .finished atEnd found
  | cons token tokens induction =>
      rcases lists.of_cons with ⟨rfl, inside, behind⟩
      cases advanced : advance source with
      | error error =>
          rw [advanced] at behind
          cases behind.of_error
          exact .faulty inside advanced rfl
      | ok next =>
          rw [advanced] at behind
          exact .further inside advanced (induction behind)

end Source

end Grammar

open Grammar.Source

namespace Lexer

theorem Yields.list_of_error {error : LexError} {list : TokenList}
    (yields : Yields (.error error) list) : list = ⟨[], .error error⟩ := by
  cases yields
  rfl

theorem Yields.list_of_atEnd {lexer : Lexer} {list : TokenList}
    (yields : Yields (.ok lexer) list) (atEnd : lexer.current.kind = .endOfText) :
    list = ⟨[], .ok lexer.current.position⟩ := by
  cases yields with
  | finished => rfl
  | further inside => exact absurd atEnd inside

/-- At most one token more is left than there are characters behind the current one. -/
theorem Yields.length_le {lexer : Lexer} {list : TokenList} (yields : Yields (.ok lexer) list) :
    list.tokens.length ≤ lexer.cursor.rest.length + 1 := by
  generalize same : Except.ok lexer = place at yields
  induction yields generalizing lexer with
  | fault => cases same
  | finished => exact Nat.zero_le _
  | @further found tokens ending inside behind induction =>
      cases same
      rw [List.length_cons]
      rcases read : found.cursor.nextToken found.currencies with ⟨_ | token, next⟩
      · rw [following, advance_of_error inside read] at behind
        cases behind.list_of_error
        exact Nat.le_add_left _ _
      · rw [following, advance_of_token inside read] at behind induction
        by_cases atEnd : token.kind = .endOfText
        · cases behind.list_of_atEnd atEnd
          exact Nat.le_add_left _ _
        · have shorter := Cursor.nextToken_rest_length_lt read atEnd
          have fewer := induction rfl
          dsimp only at fewer
          omega

theorem advance_eq (lexer : Lexer) :
    Grammar.Source.advance lexer = lexer.following >>= toSignificant := by
  dsimp only [Grammar.Source.advance]
  rw [following]
  rcases lexer.advance with ⟨_ | _, next⟩ <;> rfl

theorem skipComments_succ {lexer : Lexer} (comment : lexer.current.kind = .comment)
    (count : Nat) : skipComments (count + 1) lexer = lexer.following >>= skipComments count := by
  rw [skipComments, following]
  split
  next => rcases lexer.advance with ⟨_ | _, next⟩ <;> rfl
  next different =>
    rcases lexer with ⟨_, _, ⟨token, _⟩⟩
    cases token <;> cases comment
    exact absurd rfl (different _)

theorem Yields.skipComments_lists {place : Except LexError Lexer} {list : TokenList}
    (yields : Yields place list) {count : Nat} (enough : list.tokens.length < count) :
    Lists (place >>= skipComments count) list.significant := by
  -- The induction is on all tokens, so that it goes on at a comment with one step less and behind
  -- any other token with new steps.
  induction yields generalizing count with
  | fault error => exact .fault error
  | @finished lexer atEnd =>
      have meant : lexer.current.kind ≠ .comment := by simp [atEnd]
      change Lists (skipComments count lexer) _
      rw [skipComments_of_ne meant]
      exact .finished atEnd
  | @further lexer tokens ending inside behind induction =>
      change Lists (skipComments count lexer) _
      by_cases comment : lexer.current.kind = .comment
      · rcases count with _ | count
        · exact absurd enough (Nat.not_lt_zero _)
        rw [skipComments_succ comment, TokenList.significant_cons_of_comment comment]
        exact induction (Nat.lt_of_succ_lt_succ enough)
      · rw [skipComments_of_ne comment, TokenList.significant_cons_of_ne comment]
        apply Lists.further inside
        rw [advance_eq]
        cases reached : lexer.following with
        | error error =>
            rw [reached] at behind
            cases behind.list_of_error
            exact .fault error
        | ok next =>
            rw [reached] at behind induction
            change Lists next.toSignificant _
            rw [toSignificant_eq]
            exact induction (Nat.lt_succ_of_le behind.length_le)

theorem Yields.toSignificant_lists {place : Except LexError Lexer} {list : TokenList}
    (yields : Yields place list) : Lists (place >>= toSignificant) list.significant := by
  cases place with
  | error error =>
      cases yields.list_of_error
      exact .fault error
  | ok lexer =>
      change Lists lexer.toSignificant _
      rw [toSignificant_eq]
      exact yields.skipComments_lists (Nat.lt_succ_of_le yields.length_le)

theorem Yields.significant_length_lt {place : Except LexError Lexer} {list : TokenList}
    (yields : Yields place list) {count : Nat} {lexer : Lexer}
    (skipped : place >>= skipComments count = .ok lexer) :
    list.significant.tokens.length < lexer.bound := by
  induction yields generalizing count with
  | fault => cases skipped
  | finished => exact Nat.zero_lt_succ _
  | @further found tokens ending inside behind induction =>
      change skipComments count found = .ok lexer at skipped
      have stays (same : found = lexer) :
          (TokenList.significant ⟨found.current :: tokens, ending⟩).tokens.length <
            lexer.bound := by
        have whole := (Yields.further inside behind).length_le
        rw [← same]
        exact Nat.lt_of_le_of_lt (List.length_filter_le ..) (Nat.lt_succ_of_le whole)
      by_cases comment : found.current.kind = .comment
      · rcases count with _ | count
        · exact stays (Except.ok.inj skipped)
        · rw [skipComments_succ comment] at skipped
          rw [TokenList.significant_cons_of_comment comment]
          exact induction skipped
      · rw [skipComments_of_ne comment] at skipped
        exact stays (Except.ok.inj skipped)

/-- Either a fault comes before any significant token of the list, or the lexer has exactly these
tokens left. -/
def Stands (list : TokenList) : Except LexError Lexer → Prop
  | .error error => list.significant.tokens = [] ∧ list.ending = .error error
  | .ok lexer =>
      Grammar.Source.Leaves list.ending lexer (list.significant.tokens.map PlacedToken.token) ∧
        list.significant.tokens.length < lexer.bound

section

variable (currencies : List String) (text : String)

theorem start_lists :
    Lists (start currencies text >>= toSignificant)
      (TokenList.ofText currencies text).significant :=
  (start_yields currencies text).toSignificant_lists

theorem start_length_lt {lexer : Lexer}
    (placed : start currencies text >>= toSignificant = .ok lexer) :
    (TokenList.ofText currencies text).significant.tokens.length < lexer.bound := by
  have yields := start_yields currencies text
  cases first : start currencies text with
  | error error =>
      rw [first] at placed
      cases placed
  | ok lexer =>
      rw [first] at placed yields
      change lexer.toSignificant = _ at placed
      rw [toSignificant_eq] at placed
      change .ok lexer >>= skipComments lexer.bound = _ at placed
      exact yields.significant_length_lt placed

theorem start_stands :
    Stands (.ofText currencies text) (start currencies text >>= toSignificant) := by
  have lists := start_lists currencies text
  cases placed : start currencies text >>= toSignificant with
  | error error =>
      rw [placed] at lists
      have empty := lists.of_error
      exact ⟨congrArg TokenList.tokens empty, congrArg TokenList.ending empty⟩
  | ok lexer =>
      rw [placed] at lists
      exact ⟨lists.leaves, start_length_lt currencies text placed⟩

end

end Lexer

namespace TokenList

variable {list : TokenList}

theorem view?_lists (inside : ∀ token ∈ list.tokens, token.kind ≠ .endOfText) :
    Lists list.view? list := by
  rcases list with ⟨tokens, ending⟩
  induction tokens with
  | nil =>
      cases ending with
      | error error => exact .fault error
      | ok position => exact .finished rfl
  | cons token tokens induction =>
      rw [List.forall_mem_cons] at inside
      let view : View := ⟨token, ⟨tokens, ending⟩⟩
      have advanced : Grammar.Source.advance view = view? ⟨tokens, ending⟩ := by
        rcases token with ⟨token, position⟩
        cases token with
        | endOfText => exact absurd rfl inside.1
        | _ => rfl
      have behind := induction inside.2
      rw [← advanced] at behind
      exact Lists.further inside.1 behind

theorem length_lt_of_view? {view : View} (found : list.view? = .ok view) :
    list.tokens.length < Grammar.Source.bound view := by
  rcases list with ⟨_ | ⟨token, tokens⟩, ending | ending⟩
  · cases found
  · exact Nat.zero_lt_succ _
  all_goals
    cases found
    exact Nat.lt_succ_self _

end TokenList

end Ducat
