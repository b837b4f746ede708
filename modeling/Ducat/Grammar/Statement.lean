import Ducat.Grammar.Expression
import Ducat.Statement

/-! The rules for statements. The rule for a statement, which stands again inside blocks, branches
and loops, is a parameter of the others. -/

namespace Ducat

namespace Grammar

section

variable {σ : Type} [Source σ]

def statementsToBrace (statement : Reading σ (Option Statement)) :
    Nat → Reading σ (List Statement)
  | 0 => return []
  | limit + 1 => do
      if ← takeIf (.symbol .rightBrace) then return []
      else
        match ← statement with
        | some first => return first :: (← statementsToBrace statement limit)
        | none => unexpected .block [.symbol .rightBrace]

def block (statement : Reading σ (Option Statement)) (limit : Nat) :
    Reading σ (Option (List Statement)) := do
  if ← takeIf (.symbol .leftBrace) then
    return some (← statementsToBrace statement limit)
  else return none

def bracketedCondition (condition : Reading σ (Option Expression)) : Reading σ Expression := do
  expect .bracketedCondition (.symbol .leftBracket)
  let inner ← required condition (.missingCondition .bracketedCondition)
  expect .bracketedCondition (.symbol .rightBracket)
  return inner

def conditional (condition : Reading σ (Option Expression))
    (statement : Reading σ (Option Statement)) : Reading σ Statement := do
  let test ← bracketedCondition condition
  let consequence ← required statement (.missingInstruction .consequence)
  if ← takeIf (.keyword .elseWord) then
    return .choice test consequence
      (← required statement (.missingInstruction .alternative))
  else return .branch test consequence

def loop (condition : Reading σ (Option Expression)) (statement : Reading σ (Option Statement))
    (limit : Nat) : Reading σ Statement := do
  let test ← bracketedCondition condition
  return .loop test (← required (block statement limit) (.missingBlock .loop))

def declaration (condition : Reading σ (Option Expression)) (type : ValueType) :
    Reading σ Statement := do
  let name ← expectName .declaration
  expect .declaration (.symbol .assign)
  return .declare type name (← required condition (.missingExpression .declaration))

def assignmentOrCall (condition : Reading σ (Option Expression)) (limit : Nat) (name : String) :
    Reading σ Statement := do
  if (← peek).kind = .symbol .leftBracket then
    return .call name (← arguments condition limit)
  else if ← takeIf (.symbol .assign) then
    return .assign name (← required condition (.missingExpression .assignment))
  else unexpected .assignmentOrCall [.symbol .leftBracket, .symbol .assign]

def instruction (condition : Reading σ (Option Expression)) (limit : Nat) :
    Reading σ (Option Statement) := do
  if ← takeIf (.keyword .returnWord) then
    return some (.leave (← condition))
  else
    match ← variableType with
    | some type => return some (← declaration condition type)
    | none =>
        match (← peek).token with
        | .name name =>
            let _ ← take
            return some (← assignmentOrCall condition limit name)
        | _ => return none

def statementOver (condition : Reading σ (Option Expression))
    (statement : Reading σ (Option Statement)) (limit : Nat) :
    Reading σ (Option Statement) := do
  if ← takeIf (.keyword .ifWord) then
    return some (← conditional condition statement)
  else if ← takeIf (.keyword .whileWord) then
    return some (← loop condition statement limit)
  else
    match ← block statement limit with
    | some statements => return some (.block statements)
    | none =>
        match ← instruction condition limit with
        | some instruction =>
            expect .block (.symbol .semicolon)
            return some instruction
        | none => return none

/-- A statement in which statements are nested and repeated fewer than `limit` times. The number
of tokens left is always limit enough. -/
def statement : Nat → Reading σ (Option Statement)
  | 0 => return none
  | limit + 1 => statementOver (condition limit) (statement limit) limit

end

end Grammar

end Ducat
