import Ducat.RuntimeError
import Std.Data.ExtTreeMap

/-! The variables of a running function. -/

namespace Ducat

/-- Variables have no order, so that scopes with equal variables are equal. -/
abbrev Scope := Std.ExtTreeMap String Value

/-- The scopes of one call, the innermost one first. -/
structure Context where
  scopes : List Scope

namespace Context

def ofScope (scope : Scope) : Context := ⟨[scope]⟩

def depth (context : Context) : Nat := context.scopes.length

def openScope (context : Context) : Context := ⟨∅ :: context.scopes⟩

def closeScope (context : Context) : Context := ⟨context.scopes.tail⟩

@[simp] theorem closeScope_openScope (context : Context) :
    context.openScope.closeScope = context := rfl

def value? (context : Context) (name : String) : Option Value :=
  context.scopes.findSome? fun scope => scope[name]?

def define (context : Context) (name : String) (value : Value) :
    Except RuntimeError Context :=
  match context.scopes with
  | [] => .error .noActiveCall
  | scope :: outer =>
      if scope.contains name then .error (.variableExists name)
      else .ok ⟨scope.insert name value :: outer⟩

def assignIn (name : String) (value : Value) : List Scope → Option (List Scope)
  | [] => none
  | scope :: outer =>
      if scope.contains name then some (scope.insert name value :: outer)
      else (assignIn name value outer).map (scope :: ·)

def assign (context : Context) (name : String) (value : Value) : Except RuntimeError Context :=
  match assignIn name value context.scopes with
  | some scopes => .ok ⟨scopes⟩
  | none => .error (.unknownVariable name)

end Context

end Ducat
