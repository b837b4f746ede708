import Ducat.Grammar.Statement
import Ducat.Program

/-! The rules for function definitions and whole programs. -/

namespace Ducat

namespace Grammar

section

variable {σ : Type} [Source σ]

def parameter : Reading σ (Option Parameter) := do
  match (← peek).token with
  | .name name =>
      let _ ← take
      return some ⟨none, name⟩
  | _ =>
      match ← variableType with
      | some type => return some ⟨some type, ← expectName .parameter⟩
      | none => return none

def repeated? (seen : List String) : List String → Option String
  | [] => none
  | name :: rest => if name ∈ seen then some name else repeated? (name :: seen) rest

def parameters (function : String) (limit : Nat) : Reading σ (List Parameter) := do
  let parameters ← separatedItems parameter .missingParameter limit
  match repeated? [] (parameters.map Parameter.name) with
  | some name => throw (.duplicateParameter function name)
  | none => return parameters

def returnType : Reading σ (Option ValueType) := do
  if ← takeIf (.keyword .voidWord) then return some .void else variableType

def signatureAndBody (returnType : ValueType) (limit : Nat) : Reading σ Definition := do
  let name ← expectName .function
  expect .function (.symbol .leftBracket)
  let parameters ← parameters name limit
  expect .function (.symbol .rightBracket)
  let body ← required (block (statement limit) limit) (.missingFunctionBlock name)
  return ⟨returnType, name, parameters, body⟩

def definition (limit : Nat) : Reading σ (Option Definition) := do
  match ← returnType with
  | some type => return some (← signatureAndBody type limit)
  | none => return none

def definitionStarts : List TokenKind :=
  [.keyword .intWord, .keyword .floatWord, .keyword .stringWord, .keyword .boolWord, .currency,
    .keyword .voidWord]

def definitions (limit : Nat) : Nat → Program → Reading σ Program
  | 0, program => return program
  | count + 1, program => do
      let next ← peek
      if next.kind = .endOfText then return program
      else
        match ← definition limit with
        | none => unexpected .program (definitionStarts ++ [.endOfText])
        | some definition =>
            if (program.definition? definition.name).isSome then
              throw (.duplicateFunction definition.name next.position)
            else definitions limit count (program.insert definition)

end

def program {σ : Type} [Source σ] (source : σ) : Except Error Program :=
  let limit := Source.bound source
  (definitions limit limit .empty).run' source

end Grammar

end Ducat
