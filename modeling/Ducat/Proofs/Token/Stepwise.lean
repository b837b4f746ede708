import Ducat.Proofs.Grammar.Remaining
import Ducat.Proofs.Token.Progress

/-! The list of the tokens of a text and the lexer for it, step by step. -/

namespace Ducat

namespace TokenList

/-- The text has been read to its end, and apart from comments its tokens are the given ones. -/
structure Spells (list : TokenList) (tokens : List Token) : Prop where
  significant : list.significant.tokens.map PlacedToken.token = tokens
  complete : ∃ position, list.ending = .ok position

variable {currencies : List String} {cursor next : Cursor} {token : PlacedToken}

theorem collect_succ_of_error {error : LexError} (steps : Nat)
    (read : cursor.nextToken currencies = (.error error, next)) :
    collect currencies (steps + 1) cursor = ⟨[], .error error⟩ := by
  rw [collect, read]

theorem collect_succ_of_end (steps : Nat)
    (read : cursor.nextToken currencies = (.ok token, next)) (atEnd : token.kind = .endOfText) :
    collect currencies (steps + 1) cursor = ⟨[], .ok token.position⟩ := by
  rcases token with ⟨token, position⟩
  cases Token.eq_endOfText_of_kind atEnd
  rw [collect, read]

theorem collect_succ_of_token (steps : Nat)
    (read : cursor.nextToken currencies = (.ok token, next)) (inside : token.kind ≠ .endOfText) :
    collect currencies (steps + 1) cursor =
      ⟨token :: (collect currencies steps next).tokens,
        (collect currencies steps next).ending⟩ := by
  rw [collect, read]
  split
  next equal => cases equal
  next equal =>
    cases equal
    exact absurd rfl inside
  next equal =>
    cases equal
    rfl

theorem significant_cons_of_comment {tokens : List PlacedToken}
    {ending : Except LexError Position} (comment : token.kind = .comment) :
    significant ⟨token :: tokens, ending⟩ = significant ⟨tokens, ending⟩ := by
  simp [significant, comment]

theorem significant_cons_of_ne {tokens : List PlacedToken} {ending : Except LexError Position}
    (meant : token.kind ≠ .comment) :
    significant ⟨token :: tokens, ending⟩ =
      ⟨token :: (significant ⟨tokens, ending⟩).tokens, ending⟩ := by
  simp [significant, meant]

end TokenList

namespace Lexer

variable {currencies : List String} {cursor next : Cursor} {token : PlacedToken}

theorem advance_of_token {lexer : Lexer} (inside : lexer.current.kind ≠ .endOfText)
    (read : lexer.cursor.nextToken lexer.currencies = (.ok token, next)) :
    lexer.advance = (.ok (), ⟨lexer.currencies, next, token⟩) := by
  rw [advance, read]
  split
  next atEnd => exact absurd (congrArg Token.kind atEnd) inside
  next => rfl

theorem advance_of_error {lexer : Lexer} {error : LexError}
    (inside : lexer.current.kind ≠ .endOfText)
    (read : lexer.cursor.nextToken lexer.currencies = (.error error, next)) :
    lexer.advance = (.error error, { lexer with cursor := next }) := by
  rw [advance, read]
  split
  next atEnd => exact absurd (congrArg Token.kind atEnd) inside
  next => rfl

theorem skipComments_of_ne {lexer : Lexer} (meant : lexer.current.kind ≠ .comment)
    (count : Nat) : skipComments count lexer = .ok lexer := by
  cases count with
  | zero => rfl
  | succ count =>
      rw [skipComments]
      split
      next comment => exact absurd (congrArg Token.kind comment) meant
      next => rfl

theorem toSignificant_eq (lexer : Lexer) :
    lexer.toSignificant = skipComments lexer.bound lexer := by
  rw [toSignificant, bound, skipComments]
  split <;> rfl

end Lexer

end Ducat
