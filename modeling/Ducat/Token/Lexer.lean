import Ducat.Token.Lexeme

/-! A program text that is read token by token. -/

namespace Ducat

structure Lexer where
  /-- The words that are currencies. -/
  currencies : List String
  /-- What is left behind the current token. -/
  cursor : Cursor
  current : PlacedToken

namespace Lexer

def start (currencies : List String) (text : String) : Except LexError Lexer :=
  match (Cursor.ofText text).nextToken currencies with
  | (.ok token, cursor) => .ok ⟨currencies, cursor, token⟩
  | (.error error, _) => .error error

/-- Moves to the next token. The end of the text is never left, and after an error the current
token stays as it is. -/
def advance (lexer : Lexer) : Except LexError Unit × Lexer :=
  match lexer.current.token with
  | .endOfText => (.ok (), lexer)
  | _ =>
      match lexer.cursor.nextToken lexer.currencies with
      | (.ok token, cursor) => (.ok (), { lexer with cursor := cursor, current := token })
      | (.error error, cursor) => (.error error, { lexer with cursor := cursor })

end Lexer

end Ducat
