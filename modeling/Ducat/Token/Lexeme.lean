import Ducat.Number.Nearest
import Ducat.Text.Blank
import Ducat.Text.Cursor
import Ducat.Text.Word
import Ducat.Text.Quoted
import Ducat.Token

/-! The piece of text from which one token is read. -/

namespace Ducat

inductive LexFault where
  | unclassifiable (character : Char)
  | unterminatedString
  | leadingZero
  | literalTooLarge
deriving DecidableEq, Repr

structure LexError where
  fault : LexFault
  /-- Where the faulty token begins. -/
  position : Position
deriving DecidableEq, Repr

namespace LexFault

def message : LexFault → String
  | unclassifiable character => s!"Cannot classify token starting with {quoted character}."
  | unterminatedString => "Unexpected ETX encountered inside a string literal."
  | leadingZero => "Number literals cannot start with a leading zero."
  | literalTooLarge => "Literal is too large."

end LexFault

namespace LexError

def message (error : LexError) : String :=
  s!"Error at {error.position.text}: {error.fault.message}"

end LexError

/-- What was taken from the front of a text, and what it was read as. Characters that were looked
at before a fault are taken too. -/
structure Lexeme where
  outcome : Except LexFault Token
  taken : List Char
  rest : List Char

namespace Lexeme

structure Quotation where
  content : List Char
  taken : List Char
  rest : List Char

def quotation : List Char → Option Quotation
  | [] => none
  | '"' :: rest => some ⟨[], ['"'], rest⟩
  | '\\' :: [] => none
  | '\\' :: character :: rest =>
      (quotation rest).map fun quotation =>
        ⟨character :: quotation.content, '\\' :: character :: quotation.taken, quotation.rest⟩
  | character :: rest =>
      (quotation rest).map fun quotation =>
        ⟨character :: quotation.content, character :: quotation.taken, quotation.rest⟩

theorem quotation_taken_append_rest {text : List Char} {read : Quotation}
    (found : quotation text = some read) : read.taken ++ read.rest = text := by
  fun_induction quotation text generalizing read with
  | case1 => cases found
  | case2 rest => cases found; rfl
  | case3 => cases found
  | case4 character rest induction =>
      rcases Option.map_eq_some_iff.mp found with ⟨inner, innerFound, equal⟩
      subst equal
      simp [induction innerFound]
  | case5 character rest _ _ _ induction =>
      rcases Option.map_eq_some_iff.mp found with ⟨inner, innerFound, equal⟩
      subst equal
      simp [induction innerFound]

def ofString (rest : List Char) : Lexeme :=
  match quotation rest with
  | some quotation =>
      ⟨.ok (.string (String.ofList quotation.content)), '"' :: quotation.taken, quotation.rest⟩
  | none => ⟨.error .unterminatedString, '"' :: rest, []⟩

def ofSingleSymbol (first : Char) (rest : List Char) : Lexeme :=
  match Symbol.ofSpelling? (String.ofList [first]) with
  | some symbol => ⟨.ok (.symbol symbol), [first], rest⟩
  | none => ⟨.error (.unclassifiable first), [first], rest⟩

/-- A symbol of two characters is preferred to one of the first character alone. -/
def ofSymbol (first : Char) (rest : List Char) : Lexeme :=
  match rest with
  | [] => ofSingleSymbol first rest
  | second :: behind =>
      match Symbol.ofSpelling? (String.ofList [first, second]) with
      | some symbol => ⟨.ok (.symbol symbol), [first, second], behind⟩
      | none => ofSingleSymbol first rest

/-- A word is a keyword, a currency or a name, in this order. -/
def wordToken (currencies : List String) (word : String) : Token :=
  match Keyword.ofSpelling? word with
  | some keyword => .keyword keyword
  | none => if currencies.contains word then .currency word else .name word

def ofWord (currencies : List String) (text : List Char) : Lexeme :=
  let word := text.takeWhile isWordPart
  ⟨.ok (wordToken currencies (String.ofList word)), word, text.dropWhile isWordPart⟩

def intToken (digits : List Char) : Except LexFault Token :=
  match Integer.ofInt? (Digits.value digits) with
  | some number => .ok (.int number)
  | none => .error .literalTooLarge

def floatToken (whole fraction : List Char) : Except LexFault Token :=
  let number := Double.ofDigits whole fraction
  if (Double.ofFloat number).isFinite then .ok (.float number) else .error .literalTooLarge

/-- Digits, or digits with a point behind them and perhaps more digits behind that. -/
def ofNumber (first : Char) (rest : List Char) : Lexeme :=
  if first == '0' && rest.head?.any Char.isDigit then ⟨.error .leadingZero, [first], rest⟩
  else
    let whole := (first :: rest).takeWhile Char.isDigit
    match (first :: rest).dropWhile Char.isDigit with
    | '.' :: behind =>
        let fraction := behind.takeWhile Char.isDigit
        ⟨floatToken whole fraction, whole ++ '.' :: fraction, behind.dropWhile Char.isDigit⟩
    | behind => ⟨intToken whole, whole, behind⟩

def ofComment (rest : List Char) : Lexeme :=
  let content := rest.takeWhile (· != '\n')
  ⟨.ok (.comment (String.ofList content)), '#' :: content, rest.dropWhile (· != '\n')⟩

def take (currencies : List String) (first : Char) (rest : List Char) : Lexeme :=
  if first == '"' then ofString rest
  else if Symbol.starts.contains first then ofSymbol first rest
  else if isWordStart first then ofWord currencies (first :: rest)
  else if first.isDigit then ofNumber first rest
  else if first == '#' then ofComment rest
  else ⟨.error (.unclassifiable first), [], first :: rest⟩

theorem ofString_taken_append_rest (rest : List Char) :
    (ofString rest).taken ++ (ofString rest).rest = '"' :: rest := by
  unfold ofString
  cases found : quotation rest with
  | none => simp
  | some read => simp [quotation_taken_append_rest found]

theorem ofSingleSymbol_taken_append_rest (first : Char) (rest : List Char) :
    (ofSingleSymbol first rest).taken ++ (ofSingleSymbol first rest).rest = first :: rest := by
  unfold ofSingleSymbol
  split <;> rfl

theorem ofSymbol_taken_append_rest (first : Char) (rest : List Char) :
    (ofSymbol first rest).taken ++ (ofSymbol first rest).rest = first :: rest := by
  unfold ofSymbol
  split
  · exact ofSingleSymbol_taken_append_rest first []
  split
  · rfl
  · exact ofSingleSymbol_taken_append_rest first _

theorem ofWord_taken_append_rest (currencies : List String) (text : List Char) :
    (ofWord currencies text).taken ++ (ofWord currencies text).rest = text := by
  simp [ofWord]

theorem ofNumber_taken_append_rest (first : Char) (rest : List Char) :
    (ofNumber first rest).taken ++ (ofNumber first rest).rest = first :: rest := by
  have whole := List.takeWhile_append_dropWhile (p := Char.isDigit) (l := first :: rest)
  unfold ofNumber
  split
  · rfl
  · dsimp only
    split
    next behind equal =>
      rw [equal] at whole
      simpa using whole
    next => exact whole

theorem ofComment_taken_append_rest (rest : List Char) :
    (ofComment rest).taken ++ (ofComment rest).rest = '#' :: rest := by
  simp [ofComment]

theorem taken_append_rest (currencies : List String) (first : Char) (rest : List Char) :
    (take currencies first rest).taken ++ (take currencies first rest).rest =
      first :: rest := by
  unfold take
  split
  next quote =>
    rw [beq_iff_eq.mp quote]
    exact ofString_taken_append_rest rest
  next =>
    split
    · exact ofSymbol_taken_append_rest first rest
    split
    · exact ofWord_taken_append_rest currencies (first :: rest)
    split
    · exact ofNumber_taken_append_rest first rest
    split
    next mark =>
      rw [beq_iff_eq.mp mark]
      exact ofComment_taken_append_rest rest
    next => rfl

end Lexeme

namespace Cursor

def nextToken (currencies : List String) (cursor : Cursor) :
    Except LexError PlacedToken × Cursor :=
  let start := cursor.skip isBlank
  match start.rest with
  | [] => (.ok ⟨.endOfText, start.position⟩, start)
  | first :: rest =>
      let lexeme := Lexeme.take currencies first rest
      let outcome :=
        match lexeme.outcome with
        | .ok token => .ok ⟨token, start.position⟩
        | .error fault => .error ⟨fault, start.position⟩
      (outcome, start.moveOver lexeme.taken lexeme.rest)

end Cursor

end Ducat
