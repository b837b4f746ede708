import Ducat.Text.Position

/-! A text that is read from left to right: what is left of it, and where that stands. -/

namespace Ducat

structure Cursor where
  rest : List Char
  position : Position
deriving DecidableEq, Repr

namespace Cursor

def ofText (text : String) : Cursor := ⟨text.toList, .start⟩

def next : Cursor → Option Char × Cursor
  | ⟨[], position⟩ => (none, ⟨[], position⟩)
  | ⟨character :: rest, position⟩ => (some character, ⟨rest, position.advance character⟩)

def moveOver (cursor : Cursor) (taken rest : List Char) : Cursor :=
  ⟨rest, cursor.position.advanceOver taken⟩

def skip (cursor : Cursor) (skipped : Char → Bool) : Cursor :=
  cursor.moveOver (cursor.rest.takeWhile skipped) (cursor.rest.dropWhile skipped)

end Cursor

end Ducat
