import Ducat.Token.Lexeme

/-! All tokens of a program text at once. -/

namespace Ducat

structure TokenList where
  tokens : List PlacedToken
  /-- Where the text ends, if it could be read to its end. -/
  ending : Except LexError Position

namespace TokenList

/-- Every step takes at least one character, so that one step more than there are characters
suffices. -/
def collect (currencies : List String) : Nat → Cursor → TokenList
  | 0, cursor => ⟨[], .ok cursor.position⟩
  | steps + 1, cursor =>
      match cursor.nextToken currencies with
      | (.error error, _) => ⟨[], .error error⟩
      | (.ok ⟨.endOfText, position⟩, _) => ⟨[], .ok position⟩
      | (.ok token, cursor) =>
          let behind := collect currencies steps cursor
          ⟨token :: behind.tokens, behind.ending⟩

def ofText (currencies : List String) (text : String) : TokenList :=
  let cursor := Cursor.ofText text
  collect currencies (cursor.rest.length + 1) cursor

end TokenList

end Ducat
