import Ducat.Proofs.Evaluation.Frame

/-! Main statement: behind a block, however it ends, there are the same scopes as in front of it,
and in each of them the same variables. -/

namespace Ducat

def Scope.names (scope : Scope) : Set String := {name | name ∈ scope}

def Context.names (context : Context) : List (Set String) := context.scopes.map Scope.names

/-- No scope was opened or closed, and only the innermost one may have more variables. -/
inductive InnermostGains : List (Set String) → List (Set String) → Prop where
  | closed : InnermostGains [] []
  | opened {names more : Set String} {outer : List (Set String)} (subset : names ⊆ more) :
      InnermostGains (names :: outer) (more :: outer)

/-- All calls but the innermost one are unchanged, and the names of the variables of that one have
changed only as `allowed` says. -/
inductive Calls.ChangeInside (allowed : List (Set String) → List (Set String) → Prop) :
    List Context → List Context → Prop where
  | idle : ChangeInside allowed [] []
  | active {context changed : Context} {outer : List Context}
      (names : allowed context.names changed.names) :
      ChangeInside allowed (context :: outer) (changed :: outer)

def Machine.SameNames (before after : Machine) : Prop :=
  Calls.ChangeInside Eq before.calls after.calls

def Machine.GainsNames (before after : Machine) : Prop :=
  Calls.ChangeInside InnermostGains before.calls after.calls

namespace Scope

theorem names_insert (scope : Scope) (name : String) (value : Value) :
    names (scope.insert name value) = insert name (names scope) := by
  ext other
  change other ∈ scope.insert name value ↔ other = name ∨ other ∈ scope
  rw [Std.ExtTreeMap.mem_insert, Std.LawfulEqCmp.compare_eq_iff_eq, eq_comm]

theorem names_insert_of_mem {scope : Scope} {name : String} (member : name ∈ scope)
    (value : Value) : names (scope.insert name value) = names scope := by
  rw [names_insert]
  exact Set.insert_eq_of_mem member

end Scope

instance : IsPreorder (List (Set String)) InnermostGains where
  refl
    | [] => .closed
    | _ :: _ => .opened fun _ member => member
  trans first second third earlier later := by
    cases earlier with
    | closed => exact later
    | opened subset =>
        cases later with
        | opened further => exact .opened (subset.trans further)

theorem InnermostGains.length_eq {before after : List (Set String)}
    (gains : InnermostGains before after) : after.length = before.length := by
  cases gains <;> rfl

theorem InnermostGains.tail_eq {before after : List (Set String)}
    (gains : InnermostGains before after) : after.tail = before.tail := by
  cases gains <;> rfl

namespace Context

variable {context updated : Context} {name : String} {value : Value}

theorem define_gains (defined : context.define name value = .ok updated) :
    InnermostGains context.names updated.names := by
  rcases context with ⟨scopes⟩
  cases scopes with
  | nil => cases defined
  | cons scope outer =>
      simp only [define] at defined
      split at defined <;> cases defined
      rw [names, names, List.map_cons, List.map_cons, Scope.names_insert]
      exact .opened (Set.subset_insert name scope.names)

theorem names_of_assignIn {scopes changed : List Scope}
    (assigned : assignIn name value scopes = some changed) :
    changed.map Scope.names = scopes.map Scope.names := by
  induction scopes generalizing changed with
  | nil => cases assigned
  | cons scope outer induction =>
      simp only [assignIn] at assigned
      split at assigned
      next found =>
        cases assigned
        rw [List.map_cons, List.map_cons, Scope.names_insert_of_mem]
        exact Std.ExtTreeMap.contains_iff_mem.mp found
      next =>
        rcases Option.map_eq_some_iff.mp assigned with ⟨others, changedOuter, rfl⟩
        rw [List.map_cons, List.map_cons, induction changedOuter]

theorem length_of_assignIn {scopes changed : List Scope}
    (assigned : assignIn name value scopes = some changed) : changed.length = scopes.length := by
  have names := congrArg List.length (names_of_assignIn assigned)
  rwa [List.length_map, List.length_map] at names

theorem names_of_assign (assigned : context.assign name value = .ok updated) :
    updated.names = context.names := by
  unfold assign at assigned
  split at assigned <;> cases assigned
  next changed => exact names_of_assignIn changed

theorem names_closeScope (gains : InnermostGains context.openScope.names updated.names) :
    updated.closeScope.names = context.names :=
  calc
    updated.closeScope.names = updated.names.tail := List.map_tail
    _ = context.openScope.names.tail := gains.tail_eq
    _ = context.names := rfl

end Context

namespace Calls.ChangeInside

variable {allowed wider : List (Set String) → List (Set String) → Prop}

theorem refl [IsPreorder (List (Set String)) allowed] (calls : List Context) :
    ChangeInside allowed calls calls := by
  cases calls with
  | nil => exact .idle
  | cons context outer => exact .active (refl_of allowed context.names)

theorem trans [IsPreorder (List (Set String)) allowed] {first second third : List Context}
    (earlier : ChangeInside allowed first second) (later : ChangeInside allowed second third) :
    ChangeInside allowed first third := by
  cases earlier with
  | idle => exact later
  | active names =>
      cases later with
      | active further => exact .active (trans_of allowed names further)

theorem mono {calls others : List Context} (change : ChangeInside allowed calls others)
    (implies : ∀ before after, allowed before after → wider before after) :
    ChangeInside wider calls others := by
  cases change with
  | idle => exact .idle
  | active names => exact .active (implies _ _ names)

end Calls.ChangeInside

namespace Machine

open Calls

instance : IsPreorder Machine GainsNames where
  refl machine := ChangeInside.refl machine.calls
  trans _ _ _ earlier later := ChangeInside.trans earlier later

theorem SameNames.gainsNames {before after : Machine} (same : before.SameNames after) :
    before.GainsNames after := by
  refine ChangeInside.mono same fun names others equal => ?_
  subst equal
  exact refl_of InnermostGains names

theorem SameCalls.gainsNames {before after : Machine} (same : before.SameCalls after) :
    before.GainsNames after := by
  rw [GainsNames, same.calls]
  exact .refl before.calls

theorem GainsNames.exists_of_active {before after : Machine} {context : Context}
    {outer : List Context} (gains : before.GainsNames after)
    (active : before.calls = context :: outer) :
    ∃ changed, after.calls = changed :: outer ∧ changed.depth = context.depth := by
  rw [GainsNames, active] at gains
  generalize after.calls = calls at gains
  cases gains with
  | @active _ changed _ names =>
      have length := names.length_eq
      rw [Context.names, Context.names, List.length_map, List.length_map] at length
      exact ⟨changed, rfl, length⟩

theorem changeInside_withCall {machine : Machine} {context changed : Context}
    {outer : List Context} {allowed : List (Set String) → List (Set String) → Prop}
    (active : machine.calls = context :: outer) (names : allowed context.names changed.names) :
    ChangeInside allowed machine.calls (machine.withCall changed).calls := by
  rw [withCall, active]
  exact .active names

end Machine

namespace Action

open Machine

theorem updateCall_gains_names {update : Context → Except RuntimeError Context}
    (gains : ∀ context updated, update context = .ok updated →
      InnermostGains context.names updated.names) :
    (updateCall update).Keeps GainsNames := by
  intro before result after finished
  cases active : before.calls with
  | nil =>
      rw [updateCall_of_idle active] at finished
      cases finished
      exact refl_of GainsNames before
  | cons context outer =>
      cases updated : update context with
      | error error =>
          rw [updateCall_of_error active updated] at finished
          cases finished
          exact refl_of GainsNames before
      | ok changed =>
          rw [updateCall_of_ok active updated] at finished
          cases finished
          exact changeInside_withCall active (gains context changed updated)

theorem inScope_same_names {α : Type} {action : Action α} (gains : action.Keeps GainsNames) :
    (inScope action).Keeps SameNames := by
  intro before result after finished
  cases active : before.calls with
  | nil =>
      rw [inScope_of_idle action active] at finished
      cases finished
      rw [SameNames, active]
      exact .idle
  | cons context outer =>
      rw [inScope_of_active action active] at finished
      rcases exists_of_restoring finished with ⟨between, ran, rfl⟩
      have gained := gains _ result between ran
      rw [GainsNames, withCall, active] at gained
      generalize innermost : between.calls = calls at gained
      cases gained with
      | active names =>
          rw [closeScope_of_active innermost, SameNames, withCall, active, innermost]
          exact .active (Context.names_closeScope names).symm

end Action

theorem Coupling.gainsNames_allowsStatements :
    (ofMoves Machine.GainsNames).AllowsStatements Discipline.free.good where
  read := ofMoves_allowsReading
  define name value _ := by
    have gains : (Action.define name value).Keeps Machine.GainsNames :=
      Action.updateCall_gains_names fun _ _ => Context.define_gains
    exact gains.refines fun _ => trivial
  assign name value _ := by
    have gains : (Action.assign name value).Keeps Machine.GainsNames := by
      refine Action.updateCall_gains_names fun context updated assigned => ?_
      rw [Context.names_of_assign assigned]
      exact refl_of InnermostGains context.names
    exact gains.refines fun _ => trivial
  inScope {action other} refines := by
    rintro before _ rfl result after finished
    have same := Action.inScope_same_names refines.keeps before result after finished
    cases active : before.calls with
    | nil =>
        rw [Action.inScope_of_idle _ active] at finished ⊢
        cases finished
        exact ⟨before, rfl, rfl, same.gainsNames, fun _ equal => by cases equal⟩
    | cons context outer =>
        rw [Action.inScope_of_active _ active] at finished ⊢
        rcases Action.exists_of_restoring finished with ⟨between, ran, rfl⟩
        rcases refines _ _ rfl result between ran with ⟨_, otherRan, rfl, _, isGood⟩
        exact ⟨_, Action.restoring_of_finished otherRan, rfl, same.gainsNames, isGood⟩

section

variable (program : Program) (rates : Rates) (steps repetitions : Nat)

theorem Setting.ofProgram_gains_names :
    (Setting.ofProgram program rates steps).Keeps Machine.GainsNames := fun callee arguments =>
  (ofProgram_keeps_calls program rates steps callee arguments).mono fun _ _ same => same.gainsNames

theorem Statement.executeAll_gains_names (statements : List Statement) :
    (executeAll (.ofProgram program rates steps) repetitions statements).Keeps
      Machine.GainsNames := by
  have executed := Statement.executeAll_refines
    (Setting.ofProgram_gains_names program rates steps).refines
    Coupling.gainsNames_allowsStatements (Nat.le_refl repetitions) statements fun _ _ => trivial
  exact executed.keeps

/-- A statement may declare variables, but only in the innermost scope. A block declares none. Other
calls than the innermost one are left alone. All this is so however the statements end. -/
theorem blocks_are_hermetic :
    (∀ (statements : List Statement) before result after,
      Statement.executeBlock (.ofProgram program rates steps) repetitions statements before =
          .finished result after →
        before.SameNames after) ∧
    ∀ (statement : Statement) before result after,
      statement.execute (.ofProgram program rates steps) repetitions before =
          .finished result after →
        before.GainsNames after := by
  constructor
  · intro statements
    exact Action.inScope_same_names
      (Statement.executeAll_gains_names program rates steps repetitions statements)
  · intro statement
    have kept := Setting.ofProgram_gains_names program rates steps
    exact statement.execute_keeps kept Coupling.gainsNames_allowsStatements repetitions

end

def countdownStatements : List Statement :=
  let one : Expression := .literal (.int 1)
  let number : Expression := .reference "n"
  [.loop (.comparison .greater number one)
    [.branch (.literal (.bool true)) (.declare .int "m" (.arithmetic .subtract number one)),
      .assign "n" (.reference "m")],
    .call "waste" [number]]

def nestedMachine (number : Int64) (output : Output) : Machine :=
  ⟨[⟨[∅, (∅ : Scope).insert "n" (.int number)]⟩, ⟨[(∅ : Scope).insert "m" (.bool true)]⟩], output⟩

def declaringMachine : Machine :=
  ⟨[⟨[(∅ : Scope).insert "m" (.int 2), (∅ : Scope).insert "n" (.int 2)]⟩,
      ⟨[(∅ : Scope).insert "m" (.bool true)]⟩], .start .unlimited⟩

theorem blocks_are_hermetic_of_countdown :
    (Statement.executeBlock (.ofProgram wastefulProgram .empty 4) 3 countdownStatements
          (nestedMachine 2 (.start .unlimited)) =
        .finished (.error .divisionByZero) (nestedMachine 1 ⟨.unlimited, #[0x31, 0x0A], 1⟩) ∧
      (nestedMachine 2 (.start .unlimited)).SameNames
        (nestedMachine 1 ⟨.unlimited, #[0x31, 0x0A], 1⟩)) ∧
    (Statement.branch (.literal (.bool true)) (.declare .int "m" (.reference "n"))).execute
          (.ofProgram wastefulProgram .empty 4) 3 (nestedMachine 2 (.start .unlimited)) =
        .finished (.ok .proceed) declaringMachine ∧
      (nestedMachine 2 (.start .unlimited)).GainsNames declaringMachine := by
  rcases blocks_are_hermetic wastefulProgram .empty 4 3 with ⟨ofBlocks, ofStatements⟩
  refine ⟨⟨?stopped, ofBlocks _ _ _ _ ?stopped⟩, ?declared, ofStatements _ _ _ _ ?declared⟩
  case stopped => cbv
  case declared => cbv

end Ducat
