import Ducat.Number.Nearest
import Ducat.Number.Shortest

/-! The tokens of a configuration text. -/

namespace Ducat

namespace Configuration

inductive Token where
  | currency (id : String)
  | rate (value : Float)
  | semicolon

structure PlacedToken where
  token : Token
  line : Nat

namespace Token

def text : Token → String
  | currency id => s!"identifier '{id}'"
  | rate value => "rate " ++ Double.text value
  | semicolon => "';'"

end Token

def isNameStart (character : Char) : Bool := character.isAlpha || character == '_'

def isNamePart (character : Char) : Bool := character.isAlphanum || character == '_'

def isInlineBlank (character : Char) : Bool :=
  character == ' ' || character == '\t' || character == '\r' || character == '\x0c'

structure InvalidCharacter where
  character : Char
  line : Nat

/-- Reads the fractional digits of a rate. A point without a digit behind it is no part of it. -/
def fraction : List Char → List Char × List Char
  | '.' :: digit :: rest =>
      if digit.isDigit then
        ((digit :: rest).takeWhile Char.isDigit, (digit :: rest).dropWhile Char.isDigit)
      else ([], '.' :: digit :: rest)
  | rest => ([], rest)

inductive Piece where
  | token (token : Token)
  | blank
  | lineEnd
  | invalid

def takePiece (first : Char) (rest : List Char) : Piece × List Char :=
  if first == '\n' then (.lineEnd, rest)
  else if isInlineBlank first then (.blank, rest)
  else if first == ';' then (.token .semicolon, rest)
  else if first == '#' then
    (.blank, rest.dropWhile fun character => character != '\n' && character != '\r')
  else if isNameStart first then
    let name := (first :: rest).takeWhile isNamePart
    (.token (.currency (String.ofList name)), (first :: rest).dropWhile isNamePart)
  else if first.isDigit then
    let whole := (first :: rest).takeWhile Char.isDigit
    let (places, rest) := fraction ((first :: rest).dropWhile Char.isDigit)
    (.token (.rate (Double.ofDigits whole places)), rest)
  else (.invalid, rest)

/-- Splits a text into tokens. Each step takes at least one character, so that as many steps as
there are characters suffice. -/
def tokensWithin : Nat → Nat → List Char → Except InvalidCharacter (List PlacedToken)
  | 0, _, _ => .ok []
  | _ + 1, _, [] => .ok []
  | steps + 1, line, first :: rest =>
      match takePiece first rest with
      | (.token token, rest) => do return ⟨token, line⟩ :: (← tokensWithin steps line rest)
      | (.blank, rest) => tokensWithin steps line rest
      | (.lineEnd, rest) => tokensWithin steps (line + 1) rest
      | (.invalid, _) => .error ⟨first, line⟩

def tokens (text : String) : Except InvalidCharacter (List PlacedToken) :=
  tokensWithin text.toList.length 1 text.toList

end Configuration

end Ducat
