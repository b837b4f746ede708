/-! Places in a text, counted in lines and columns from one. -/

namespace Ducat

structure Position where
  line : Nat
  column : Nat
deriving DecidableEq, Repr

namespace Position

def start : Position := ⟨1, 1⟩

def advance (position : Position) (character : Char) : Position :=
  if character = '\n' then ⟨position.line + 1, 1⟩
  else ⟨position.line, position.column + 1⟩

def advanceOver (position : Position) (characters : List Char) : Position :=
  characters.foldl advance position

def text (position : Position) : String :=
  s!"(line {position.line}, column {position.column})"

@[simp] theorem advanceOver_nil (position : Position) :
    position.advanceOver [] = position := rfl

@[simp] theorem advanceOver_cons (position : Position) (character : Char)
    (characters : List Char) :
    position.advanceOver (character :: characters) =
      (position.advance character).advanceOver characters := rfl

@[simp] theorem advanceOver_append (position : Position) (first second : List Char) :
    position.advanceOver (first ++ second) =
      (position.advanceOver first).advanceOver second :=
  List.foldl_append

end Position

end Ducat
