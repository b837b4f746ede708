import Ducat.Evaluation.Callee

/-! Properties of values, for all values that a machine holds. -/

namespace Ducat

variable {good : Value → Prop}

def Scope.AllGood (good : Value → Prop) (scope : Scope) : Prop :=
  ∀ (name : String) (value : Value), scope[name]? = some value → good value

def Context.AllGood (good : Value → Prop) (context : Context) : Prop :=
  ∀ scope ∈ context.scopes, Scope.AllGood good scope

def Machine.AllGood (good : Value → Prop) (machine : Machine) : Prop :=
  ∀ context ∈ machine.calls, context.AllGood good

def Flow.AllGood (good : Value → Prop) (flow : Flow) : Prop :=
  ∀ value ∈ flow.value?, good value

theorem Scope.allGood_empty : Scope.AllGood good ∅ := by
  intro name value found
  simp at found

theorem Scope.AllGood.insert {scope : Scope} (allGood : Scope.AllGood good scope)
    {name : String} {value : Value} (isGood : good value) :
    Scope.AllGood good (scope.insert name value) := by
  intro other found equal
  rw [Std.ExtTreeMap.getElem?_insert] at equal
  split at equal
  · cases equal
    exact isGood
  · exact allGood other found equal

namespace Context

variable {context updated : Context} {name : String} {value : Value}

theorem allGood_ofScope {scope : Scope} (scopeGood : Scope.AllGood good scope) :
    (ofScope scope).AllGood good := by
  intro other member
  rw [List.mem_singleton.mp member]
  exact scopeGood

theorem allGood_of_forall (isGood : ∀ value, good value) (context : Context) :
    context.AllGood good :=
  fun _ _ _ value _ => isGood value

theorem AllGood.openScope (allGood : context.AllGood good) : context.openScope.AllGood good := by
  intro scope member
  rcases List.mem_cons.mp member with rfl | outer
  · exact Scope.allGood_empty
  · exact allGood scope outer

theorem AllGood.closeScope (allGood : context.AllGood good) : context.closeScope.AllGood good :=
  fun scope member => allGood scope (List.mem_of_mem_tail member)

theorem AllGood.value? (allGood : context.AllGood good) (found : context.value? name = some value) :
    good value := by
  rcases List.exists_of_findSome?_eq_some found with ⟨scope, member, inside⟩
  exact allGood scope member name value inside

theorem AllGood.define (allGood : context.AllGood good) (isGood : good value)
    (defined : context.define name value = .ok updated) : updated.AllGood good := by
  rcases context with ⟨scopes⟩
  cases scopes with
  | nil => cases defined
  | cons scope outer =>
      simp only [Context.define] at defined
      split at defined <;> cases defined
      intro other member
      rcases List.mem_cons.mp member with rfl | isOuter
      · exact (allGood scope List.mem_cons_self).insert isGood
      · exact allGood other (List.mem_cons_of_mem scope isOuter)

theorem allGood_assignIn {scopes changed : List Scope}
    (allGood : ∀ scope ∈ scopes, Scope.AllGood good scope) (isGood : good value)
    (assigned : assignIn name value scopes = some changed) :
    ∀ scope ∈ changed, Scope.AllGood good scope := by
  induction scopes generalizing changed with
  | nil => cases assigned
  | cons scope outer induction =>
      have outerGood : ∀ other ∈ outer, Scope.AllGood good other :=
        fun other member => allGood other (List.mem_cons_of_mem scope member)
      simp only [assignIn] at assigned
      split at assigned
      · cases assigned
        intro other member
        rcases List.mem_cons.mp member with rfl | isOuter
        · exact (allGood scope List.mem_cons_self).insert isGood
        · exact outerGood other isOuter
      · rcases Option.map_eq_some_iff.mp assigned with ⟨others, changedOuter, equal⟩
        cases equal
        intro other member
        rcases List.mem_cons.mp member with same | isOuter
        · rw [same]
          exact allGood scope List.mem_cons_self
        · exact induction outerGood changedOuter other isOuter

theorem AllGood.assign (allGood : context.AllGood good) (isGood : good value)
    (assigned : context.assign name value = .ok updated) : updated.AllGood good := by
  unfold Context.assign at assigned
  split at assigned <;> cases assigned
  next changed => exact allGood_assignIn allGood isGood changed

end Context

namespace Machine

variable {machine : Machine} {context : Context}

theorem allGood_start (device : Device) : (start device).AllGood good := by
  intro context member
  cases member

theorem AllGood.enterCall (allGood : machine.AllGood good) (contextGood : context.AllGood good) :
    (machine.enterCall context).AllGood good := by
  intro other member
  rcases List.mem_cons.mp member with rfl | outer
  · exact contextGood
  · exact allGood other outer

theorem AllGood.leaveCall (allGood : machine.AllGood good) : machine.leaveCall.AllGood good :=
  fun context member => allGood context (List.mem_of_mem_tail member)

theorem AllGood.withCall (allGood : machine.AllGood good) (contextGood : context.AllGood good) :
    (machine.withCall context).AllGood good :=
  allGood.leaveCall.enterCall contextGood

theorem AllGood.closeScope (allGood : machine.AllGood good) : machine.closeScope.AllGood good := by
  cases active : machine.calls with
  | nil =>
      rw [closeScope_of_idle active]
      exact allGood
  | cons context outer =>
      have contextGood := allGood context (by rw [active]; exact List.mem_cons_self)
      rw [closeScope_of_active active]
      exact allGood.withCall contextGood.closeScope

end Machine

theorem Flow.allGood_of_none {flow : Flow} (noValue : flow.value? = none) : flow.AllGood good := by
  intro value member
  rw [noValue] at member
  cases member

namespace Definition

theorem bindAll_cons_eq_ok {parameter : Parameter} {value : Value} {rest : List (Parameter × Value)}
    {scope bound : Scope} (found : bindAll scope ((parameter, value) :: rest) = .ok bound) :
    parameter.check value = .ok () ∧
      bindAll (scope.insert parameter.name value) rest = .ok bound := by
  rw [bindAll] at found
  cases checked : parameter.check value with
  | error error =>
      rw [checked] at found
      cases found
  | ok =>
      rw [checked] at found
      exact ⟨rfl, found⟩

theorem bindAll_allGood {pairs : List (Parameter × Value)} {scope bound : Scope}
    (scopeGood : Scope.AllGood good scope) (isGood : ∀ pair ∈ pairs, good pair.2)
    (found : bindAll scope pairs = .ok bound) : Scope.AllGood good bound := by
  induction pairs generalizing scope with
  | nil =>
      cases found
      exact scopeGood
  | cons pair rest induction =>
      have valueGood := isGood pair List.mem_cons_self
      exact induction (scopeGood.insert valueGood)
        (fun other member => isGood other (List.mem_cons_of_mem _ member))
        (bindAll_cons_eq_ok found).2

theorem bind_allGood {definition : Definition} {arguments : List Value} {scope : Scope}
    (isGood : ∀ value ∈ arguments, good value) (bound : definition.bind arguments = .ok scope) :
    Scope.AllGood good scope :=
  bindAll_allGood Scope.allGood_empty
    (fun pair member => isGood pair.2 (List.of_mem_zip member).2) bound

theorem checkReturn_allGood {definition : Definition} {flow : Flow} {result : Option Value}
    (flowGood : flow.AllGood good) (checked : definition.checkReturn flow = .ok result) :
    ∀ value ∈ result, good value := by
  intro value member
  cases member
  apply flowGood
  unfold checkReturn at checked
  split at checked
  · cases checked
  · cases checked
  · cases checked
  next found equal _ =>
    rw [equal]
    cases accepted : definition.returnType.check found with
    | error error =>
        rw [accepted] at checked
        cases checked
    | ok =>
        rw [accepted] at checked
        cases checked
        rfl

end Definition

end Ducat
