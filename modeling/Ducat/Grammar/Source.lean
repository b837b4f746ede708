import Ducat.Token.Lexer
import Ducat.Token.TokenList

/-! Where the rules of the grammar take their tokens from. -/

namespace Ducat

namespace Grammar

/-- Tokens that are looked at one at a time. There are no comments among them, and the last one
is the end of the text. -/
class Source (σ : Type) where
  current : σ → PlacedToken
  /-- Moves to the next token. The end of the text is never left. -/
  advance : σ → Except LexError σ
  /-- More than the number of tokens that are left. -/
  bound : σ → Nat

end Grammar

namespace Lexer

def skipComments : Nat → Lexer → Except LexError Lexer
  | 0, lexer => .ok lexer
  | steps + 1, lexer =>
      match lexer.current.token with
      | .comment _ =>
          match lexer.advance with
          | (.ok (), next) => skipComments steps next
          | (.error error, _) => .error error
      | _ => .ok lexer

/-- At least one character stands behind each token that is not the last. -/
def bound (lexer : Lexer) : Nat := lexer.cursor.rest.length + 2

def toSignificant (lexer : Lexer) : Except LexError Lexer :=
  match lexer.current.token with
  | .comment _ => skipComments lexer.bound lexer
  | _ => .ok lexer

/-- A program text is split into tokens only as far as the grammar looks. -/
instance : Grammar.Source Lexer where
  current := Lexer.current
  advance lexer :=
    match lexer.advance with
    | (.ok (), next) => next.toSignificant
    | (.error error, _) => .error error
  bound := Lexer.bound

end Lexer

namespace TokenList

structure View where
  current : PlacedToken
  behind : TokenList

def view? : TokenList → Except LexError View
  | ⟨token :: tokens, ending⟩ => .ok ⟨token, ⟨tokens, ending⟩⟩
  | ⟨[], .ok position⟩ => .ok ⟨⟨.endOfText, position⟩, ⟨[], .ok position⟩⟩
  | ⟨[], .error error⟩ => .error error

def significant (list : TokenList) : TokenList :=
  { list with tokens := list.tokens.filter fun token => token.kind != .comment }

instance : Grammar.Source View where
  current := View.current
  advance view :=
    match view.current.token with
    | .endOfText => .ok view
    | _ => view.behind.view?
  bound view := view.behind.tokens.length + 2

end TokenList

end Ducat
