/-! Operators, brackets and separators. -/

namespace Ducat

inductive Symbol where
  | equal
  | notEqual
  | lessOrEqual
  | greaterOrEqual
  | and
  | or
  | less
  | greater
  | not
  | plus
  | minus
  | star
  | slash
  | assign
  | leftBracket
  | rightBracket
  | leftBrace
  | rightBrace
  | comma
  | semicolon
deriving DecidableEq, Repr

namespace Symbol

def all : List Symbol :=
  [equal, notEqual, lessOrEqual, greaterOrEqual, and, or, less, greater, not, plus, minus, star,
    slash, assign, leftBracket, rightBracket, leftBrace, rightBrace, comma, semicolon]

theorem mem_all (symbol : Symbol) : symbol ∈ all := by cases symbol <;> decide

def spelling : Symbol → String
  | equal => "=="
  | notEqual => "!="
  | lessOrEqual => "<="
  | greaterOrEqual => ">="
  | and => "&&"
  | or => "||"
  | less => "<"
  | greater => ">"
  | not => "!"
  | plus => "+"
  | minus => "-"
  | star => "*"
  | slash => "/"
  | assign => "="
  | leftBracket => "("
  | rightBracket => ")"
  | leftBrace => "\x7b"
  | rightBrace => "\x7d"
  | comma => ","
  | semicolon => ";"

def ofSpelling? (text : String) : Option Symbol :=
  all.find? fun symbol => symbol.spelling == text

theorem ofSpelling?_spelling (symbol : Symbol) :
    ofSpelling? symbol.spelling = some symbol := by
  cases symbol <;> decide

theorem spelling_of_ofSpelling? {text : String} {symbol : Symbol}
    (found : ofSpelling? text = some symbol) : symbol.spelling = text := by
  simpa using List.find?_some found

def starts : List Char :=
  ['=', '!', '<', '>', '&', '|', '+', '-', '*', '/', '(', ')', '{', '}', ',', ';']

def label : Symbol → String
  | equal => "EQUAL"
  | notEqual => "NOT_EQUAL"
  | lessOrEqual => "LESS_OR_EQUAL"
  | greaterOrEqual => "GREATER_OR_EQUAL"
  | and => "AND"
  | or => "OR"
  | less => "LESS"
  | greater => "GREATER"
  | not => "NOT"
  | plus => "ADD"
  | minus => "SUBTRACT"
  | star => "MULTIPLY"
  | slash => "DIVIDE"
  | assign => "ASSIGN"
  | leftBracket => "LEFT_BRACKET"
  | rightBracket => "RIGHT_BRACKET"
  | leftBrace => "LEFT_CURLY_BRACKET"
  | rightBrace => "RIGHT_CURLY_BRACKET"
  | comma => "COMMA"
  | semicolon => "SEMICOLON"

end Symbol

end Ducat
