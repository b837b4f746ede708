import Ducat.Proofs.Evaluation.ScopeNames

/-! Where a variable is. The calls of a machine and the scopes of a call are counted from the
outermost ones, so that a variable stays in its place while further ones are opened and closed. -/

namespace Ducat

def atHeight? {α : Type} : List α → Nat → Option α
  | [], _ => none
  | first :: rest, height => if height = rest.length then some first else atHeight? rest height

theorem atHeight?_cons_length {α : Type} (first : α) (rest : List α) :
    atHeight? (first :: rest) rest.length = some first :=
  if_pos rfl

theorem atHeight?_cons_of_ne {α : Type} {first : α} {rest : List α} {height : Nat}
    (other : height ≠ rest.length) : atHeight? (first :: rest) height = atHeight? rest height :=
  if_neg other

theorem lt_length_of_atHeight? {α : Type} {list : List α} {height : Nat} {element : α}
    (found : atHeight? list height = some element) : height < list.length := by
  induction list with
  | nil => cases found
  | cons first rest induction =>
      rw [atHeight?] at found
      split at found
      next equal => simp [equal]
      next => exact Nat.lt_succ_of_lt (induction found)

/-- The call and the scope of a variable, and its name. -/
structure Place where
  call : Nat
  scope : Nat
  name : String

def Context.valueAt? (context : Context) (height : Nat) (name : String) : Option Value :=
  (atHeight? context.scopes height).bind fun scope => scope[name]?

def Machine.valueAt? (machine : Machine) (place : Place) : Option Value :=
  (atHeight? machine.calls place.call).bind fun context => context.valueAt? place.scope place.name

/-- How many scopes there are around the first one that has the variable. -/
def Context.nearest? (name : String) : List Scope → Option Nat
  | [] => none
  | scope :: outer => if scope.contains name then some outer.length else nearest? name outer

def Machine.nearest? (machine : Machine) (name : String) : Option Place :=
  match machine.calls with
  | [] => none
  | context :: outer =>
      (Context.nearest? name context.scopes).map fun scope => ⟨outer.length, scope, name⟩

namespace Context

variable {context updated : Context} {height : Nat} {name other : String} {value held : Value}

theorem lt_depth_of_valueAt? (found : context.valueAt? height name = some held) :
    height < context.depth := by
  rcases Option.bind_eq_some_iff.mp found with ⟨_, atHeight, _⟩
  exact lt_length_of_atHeight? atHeight

theorem valueAt?_openScope (found : context.valueAt? height name = some held) :
    context.openScope.valueAt? height name = some held := by
  have inside := Nat.ne_of_lt (lt_depth_of_valueAt? found)
  rw [valueAt?, openScope, atHeight?_cons_of_ne inside]
  exact found

theorem valueAt?_closeScope (below : height < context.depth - 1) :
    context.closeScope.valueAt? height name = context.valueAt? height name := by
  rcases context with ⟨scopes⟩
  cases scopes with
  | nil => rfl
  | cons scope outer =>
      have inside : height ≠ outer.length := Nat.ne_of_lt below
      simp only [valueAt?, closeScope, List.tail_cons, atHeight?_cons_of_ne inside]

theorem valueAt?_define (defined : context.define name value = .ok updated)
    (found : context.valueAt? height other = some held) :
    updated.valueAt? height other = some held := by
  rcases context with ⟨scopes⟩
  cases scopes with
  | nil => cases defined
  | cons scope outer =>
      simp only [define] at defined
      split at defined <;> cases defined
      next isNew =>
        by_cases innermost : height = outer.length
        · subst innermost
          rw [valueAt?, atHeight?_cons_length] at found ⊢
          have different : name ≠ other := by
            rintro rfl
            have isSome := Option.isSome_of_eq_some found
            have member := Std.ExtTreeMap.mem_iff_isSome_getElem?.mpr isSome
            exact isNew (Std.ExtTreeMap.contains_iff_mem.mpr member)
          simpa [Std.ExtTreeMap.getElem?_insert, different] using found
        · rw [valueAt?, atHeight?_cons_of_ne innermost] at found ⊢
          exact found

theorem valueAt?_of_define (defined : context.define name value = .ok updated) :
    updated.valueAt? (updated.depth - 1) name = some value := by
  rcases context with ⟨scopes⟩
  cases scopes with
  | nil => cases defined
  | cons scope outer =>
      simp only [define] at defined
      split at defined <;> cases defined
      rw [valueAt?, depth, List.length_cons, Nat.add_sub_cancel, atHeight?_cons_length]
      simp

theorem lt_length_of_nearest? {scopes : List Scope} {nearest : Nat}
    (found : nearest? name scopes = some nearest) : nearest < scopes.length := by
  induction scopes with
  | nil => cases found
  | cons scope outer induction =>
      rw [nearest?] at found
      split at found
      · cases found
        exact Nat.lt_succ_self _
      · exact Nat.lt_succ_of_lt (induction found)

theorem valueAt?_assignIn {scopes changed : List Scope}
    (assigned : assignIn name value scopes = some changed) :
    ∃ nearest, nearest? name scopes = some nearest ∧
      ∀ height other, valueAt? ⟨changed⟩ height other =
        if height = nearest ∧ other = name then some value else valueAt? ⟨scopes⟩ height other := by
  induction scopes generalizing changed with
  | nil => cases assigned
  | cons scope outer induction =>
      rw [assignIn] at assigned
      rw [nearest?]
      split at assigned
      next found =>
        cases assigned
        refine ⟨outer.length, if_pos found, fun height other => ?_⟩
        by_cases innermost : height = outer.length
        · subst innermost
          simp only [valueAt?, atHeight?_cons_length, Option.bind_some, true_and,
            Std.ExtTreeMap.getElem?_insert, Std.LawfulEqCmp.compare_eq_iff_eq]
          by_cases same : other = name
          · rw [if_pos same, if_pos same.symm]
          · rw [if_neg same, if_neg (Ne.symm same)]
        · simp only [valueAt?, atHeight?_cons_of_ne innermost, innermost, false_and, if_false]
      next notFound =>
        rcases Option.map_eq_some_iff.mp assigned with ⟨others, changedOuter, rfl⟩
        rcases induction changedOuter with ⟨nearest, isNearest, valueAt⟩
        refine ⟨nearest, (if_neg notFound).trans isNearest, fun height other => ?_⟩
        have sameLength := length_of_assignIn changedOuter
        by_cases innermost : height = outer.length
        · have further : height ≠ nearest :=
            innermost ▸ (Nat.ne_of_lt (lt_length_of_nearest? isNearest)).symm
          rw [if_neg fun both => further both.1]
          simp only [valueAt?, atHeight?, sameLength, innermost, if_true]
        · have unchanged := valueAt height other
          simp only [valueAt?, atHeight?, sameLength, innermost, if_false] at unchanged ⊢
          exact unchanged

theorem valueAt?_assign (assigned : context.assign name value = .ok updated) :
    ∃ nearest, nearest? name context.scopes = some nearest ∧
      ∀ height other, updated.valueAt? height other =
        if height = nearest ∧ other = name then some value else context.valueAt? height other := by
  unfold assign at assigned
  split at assigned <;> cases assigned
  next changed => exact valueAt?_assignIn changed

theorem isSome_assignIn {scopes : List Scope} {nearest : Nat}
    (found : nearest? name scopes = some nearest) (value : Value) :
    (assignIn name value scopes).isSome := by
  induction scopes with
  | nil => cases found
  | cons scope outer induction =>
      rw [nearest?] at found
      rw [assignIn]
      split at found
      next contains => rw [if_pos contains, Option.isSome_some]
      next others => rw [if_neg others, Option.isSome_map, induction found]

theorem exists_assign {nearest : Nat} (found : nearest? name context.scopes = some nearest)
    (value : Value) : ∃ updated, context.assign name value = .ok updated ∧
      updated.valueAt? nearest name = some value := by
  rcases Option.isSome_iff_exists.mp (isSome_assignIn found value) with ⟨scopes, changed⟩
  have assigned : context.assign name value = .ok ⟨scopes⟩ := by rw [assign, changed]
  rcases valueAt?_assign assigned with ⟨same, isNearest, valueAt⟩
  rw [found] at isNearest
  cases isNearest
  exact ⟨_, assigned, (valueAt _ _).trans (if_pos ⟨rfl, rfl⟩)⟩

end Context

namespace Machine

variable {machine after : Machine} {place : Place} {value : Value}

theorem valueAt?_of_sameCalls (same : machine.SameCalls after) (place : Place) :
    after.valueAt? place = machine.valueAt? place := by
  rw [valueAt?, valueAt?, same.calls]

/-- The variables of a call stay where they are while another one runs inside of it. -/
theorem valueAt?_enterCall (found : machine.valueAt? place = some value) (context : Context) :
    (machine.enterCall context).valueAt? place = some value := by
  rcases Option.bind_eq_some_iff.mp found with ⟨_, atHeight, _⟩
  have inside := Nat.ne_of_lt (lt_length_of_atHeight? atHeight)
  rw [valueAt?, enterCall, atHeight?_cons_of_ne inside]
  exact found

theorem valueAt?_withCall {context : Context} {outer : List Context}
    (active : machine.calls = context :: outer) (changed : Context) (place : Place) :
    (machine.withCall changed).valueAt? place =
      if place.call = outer.length then changed.valueAt? place.scope place.name
      else machine.valueAt? place := by
  rw [valueAt?, valueAt?, withCall, active, List.tail_cons, atHeight?, atHeight?]
  split <;> rfl

theorem valueAt?_of_active {context : Context} {outer : List Context}
    (active : machine.calls = context :: outer) (innermost : place.call = outer.length) :
    machine.valueAt? place = context.valueAt? place.scope place.name := by
  rw [valueAt?, active, innermost, atHeight?_cons_length, Option.bind_some]

theorem lt_depth_of_valueAt? {context : Context} {outer : List Context}
    (active : machine.calls = context :: outer) (innermost : place.call = outer.length)
    (found : machine.valueAt? place = some value) : place.scope < context.depth := by
  rw [valueAt?_of_active active innermost] at found
  exact Context.lt_depth_of_valueAt? found

theorem valueAt?_withCall_of_kept {context changed : Context} {outer : List Context}
    (active : machine.calls = context :: outer)
    (kept : ∀ scope name held, context.valueAt? scope name = some held →
      changed.valueAt? scope name = some held)
    (found : machine.valueAt? place = some value) :
    (machine.withCall changed).valueAt? place = some value := by
  rw [valueAt?_withCall active]
  split
  next innermost =>
    rw [valueAt?_of_active active innermost] at found
    exact kept _ _ _ found
  next => exact found

theorem valueAt?_closeScope {context : Context} {outer : List Context}
    (active : machine.calls = context :: outer)
    (outside : place.call = outer.length → place.scope < context.depth - 1) :
    machine.closeScope.valueAt? place = machine.valueAt? place := by
  rw [closeScope_of_active active, valueAt?_withCall active]
  split
  next innermost =>
    rw [Context.valueAt?_closeScope (outside innermost), valueAt?_of_active active innermost]
  next => rfl

theorem nearest?_of_sameCalls (same : machine.SameCalls after) (name : String) :
    after.nearest? name = machine.nearest? name := by
  rw [nearest?, nearest?, same.calls]

theorem nearest?_of_active {context : Context} {outer : List Context} {scope : Nat} {name : String}
    (active : machine.calls = context :: outer)
    (nearest : Context.nearest? name context.scopes = some scope) :
    machine.nearest? name = some ⟨outer.length, scope, name⟩ := by
  rw [nearest?, active]
  exact Option.map_eq_some_iff.mpr ⟨scope, nearest, rfl⟩

theorem exists_assign {name : String} (nearest : machine.nearest? name = some place)
    (value : Value) : ∃ after, Action.assign name value machine = .finished (.ok ()) after ∧
      after.valueAt? place = some value := by
  unfold nearest? at nearest
  split at nearest
  next => cases nearest
  next context outer active =>
    rcases Option.map_eq_some_iff.mp nearest with ⟨scope, found, rfl⟩
    rcases Context.exists_assign found value with ⟨updated, assigned, valueAt⟩
    refine ⟨_, Action.updateCall_of_ok active assigned, ?_⟩
    rw [valueAt?_withCall active, if_pos rfl, valueAt]

end Machine

end Ducat
