import Ducat.Configuration
import Ducat.Grammar.Error
import Ducat.RuntimeError

/-! The reasons for which a run has no result. -/

namespace Ducat

inductive FileFault where
  | missing
  | notText
  | unreadable (reason : String)
deriving DecidableEq, Repr

namespace FileFault

def message : FileFault → String
  | missing => "No such file or directory (os error 2)"
  | notText => "stream did not contain valid UTF-8"
  | unreadable reason => reason

end FileFault

inductive Failure where
  | configuration (error : Configuration.Error)
  /-- Not even the first token of the program could be read. -/
  | firstToken (error : LexError)
  | grammar (error : Grammar.Error)
  | runtime (error : RuntimeError)
  | file (name : String) (fault : FileFault)

namespace Failure

def category : Failure → String
  | configuration _ => "ConfigError"
  | firstToken _ => "LexError"
  | grammar (.lexical _) => "LexError"
  | grammar _ => "ParseError"
  | runtime _ => "RuntimeError"
  | file _ _ => "IoError"

def message : Failure → String
  | configuration error => error.message
  | firstToken error => error.message
  | grammar error => error.message
  | runtime error => error.message
  | file name fault => s!"Failed to read '{name}': {fault.message}."

def causes : Failure → List String
  | configuration error => [error.message]
  | firstToken error => [error.message]
  | grammar (.lexical error) => [error.message, error.message]
  | grammar error => [error.message]
  | runtime error => [error.message]
  | file _ fault => [fault.message]

end Failure

end Ducat
