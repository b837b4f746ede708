/-! Words that a program cannot use as names. -/

namespace Ducat

inductive Keyword where
  | ifWord
  | elseWord
  | whileWord
  | asWord
  | trueWord
  | falseWord
  | boolWord
  | voidWord
  | returnWord
  | intWord
  | floatWord
  | stringWord
deriving DecidableEq, Repr

namespace Keyword

def all : List Keyword :=
  [ifWord, elseWord, whileWord, asWord, trueWord, falseWord, boolWord, voidWord, returnWord,
    intWord, floatWord, stringWord]

theorem mem_all (keyword : Keyword) : keyword ∈ all := by cases keyword <;> decide

def spelling : Keyword → String
  | ifWord => "if"
  | elseWord => "else"
  | whileWord => "while"
  | asWord => "as"
  | trueWord => "true"
  | falseWord => "false"
  | boolWord => "bool"
  | voidWord => "void"
  | returnWord => "return"
  | intWord => "int"
  | floatWord => "float"
  | stringWord => "string"

def ofSpelling? (text : String) : Option Keyword :=
  all.find? fun keyword => keyword.spelling == text

theorem ofSpelling?_spelling (keyword : Keyword) :
    ofSpelling? keyword.spelling = some keyword := by
  cases keyword <;> decide

theorem spelling_of_ofSpelling? {text : String} {keyword : Keyword}
    (found : ofSpelling? text = some keyword) : keyword.spelling = text := by
  simpa using List.find?_some found

def label : Keyword → String
  | ifWord => "IF"
  | elseWord => "ELSE"
  | whileWord => "WHILE"
  | asWord => "CAST"
  | trueWord => "TRUE"
  | falseWord => "FALSE"
  | boolWord => "BOOL"
  | voidWord => "VOID"
  | returnWord => "RETURN"
  | intWord => "INT"
  | floatWord => "FLOAT"
  | stringWord => "STRING"

end Keyword

end Ducat
