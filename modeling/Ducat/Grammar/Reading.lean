import Ducat.Grammar.Error
import Ducat.Grammar.Source

/-! Steps in which the rules of the grammar read tokens. A rule that is optional yields nothing
where no token is its first one, and takes no token then. -/

namespace Ducat

namespace Grammar

abbrev Reading (σ α : Type) := StateT σ (Except Error) α

section

variable {σ : Type} [Source σ]

def peek : Reading σ PlacedToken := do return Source.current (← get)

def take : Reading σ Token := do
  let source ← get
  match Source.advance source with
  | .ok next =>
      set next
      return (Source.current source).token
  | .error error => throw (.lexical error)

def takeIf (kind : TokenKind) : Reading σ Bool := do
  if (← peek).kind = kind then
    let _ ← take
    return true
  else return false

def unexpected {α : Type} (rule : Rule) (expected : List TokenKind) : Reading σ α := do
  let found ← peek
  throw (.unexpectedToken rule expected found.kind found.position)

def expect (rule : Rule) (kind : TokenKind) : Reading σ Unit := do
  if !(← takeIf kind) then unexpected rule [kind]

def expectName (rule : Rule) : Reading σ String := do
  match (← peek).token with
  | .name word =>
      let _ ← take
      return word
  | _ => unexpected rule [.name]

def variableType : Reading σ (Option ValueType) := do
  let next ← peek
  if next.kind.isVariableType then
    let _ ← take
    return next.token.type?
  else return none

def required {α : Type} (reading : Reading σ (Option α)) (missing : Position → Error) :
    Reading σ α := do
  let position := (← peek).position
  match ← reading with
  | some result => return result
  | none => throw (missing position)

def itemsBehindCommas {α : Type} (item : Reading σ (Option α)) (missing : Position → Error) :
    Nat → Reading σ (List α)
  | 0 => return []
  | limit + 1 => do
      if ← takeIf (.symbol .comma) then
        let first ← required item missing
        return first :: (← itemsBehindCommas item missing limit)
      else return []

def separatedItems {α : Type} (item : Reading σ (Option α)) (missing : Position → Error)
    (limit : Nat) : Reading σ (List α) := do
  match ← item with
  | none => return []
  | some first => return first :: (← itemsBehindCommas item missing limit)

end

end Grammar

end Ducat
