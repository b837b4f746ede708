import Ducat.Proofs.Evaluation.Refinement.Call

/-! A run beside itself. Values remain good that were good before, and a run that finishes is not
changed by more steps. -/

namespace Ducat

def Coupling.ofGood (good : Value → Prop) : Coupling :=
  .ofLink fun machine other => machine = other ∧ machine.AllGood good

namespace Action

variable {good : Value → Prop} {α : Type} {goodResult : α → Prop}

theorem Refines.allGood {action other : Action α}
    (refines : action.Refines (.ofGood good) goodResult other) {before after : Machine}
    {result : Except RuntimeError α} (allGood : before.AllGood good)
    (finished : action before = .finished result after) :
    after.AllGood good ∧ ∀ value, result = .ok value → goodResult value := by
  rcases refines before before ⟨rfl, allGood⟩ result after finished with
    ⟨_, _, ⟨_, stillGood⟩, _, resultGood⟩
  exact ⟨stillGood, resultGood⟩

theorem refines_of_allGood {action : Action α}
    (ensured : ∀ before result after, before.AllGood good → action before = .finished result after →
      after.AllGood good ∧ ∀ value, result = .ok value → goodResult value) :
    action.Refines (.ofGood good) goodResult action := by
  rintro machine _ ⟨rfl, allGood⟩ result after finished
  rcases ensured machine result after allGood finished with ⟨stillGood, resultGood⟩
  exact ⟨after, finished, ⟨rfl, stillGood⟩, trivial, resultGood⟩

theorem currentCall_refines_self :
    currentCall.Refines (.ofGood good) (Context.AllGood good) currentCall := by
  apply refines_of_allGood
  rintro ⟨calls, output⟩ result after allGood finished
  cases calls with
  | nil =>
      cases finished
      exact ⟨allGood, fun _ equal => by cases equal⟩
  | cons context outer =>
      cases finished
      refine ⟨allGood, fun value equal => ?_⟩
      cases equal
      exact allGood context List.mem_cons_self

theorem updateCall_refines_self {update : Context → Except RuntimeError Context}
    (updated : ∀ context result, context.AllGood good → update context = .ok result →
      result.AllGood good) :
    (updateCall update).Refines (.ofGood good) (fun _ => True) (updateCall update) := by
  unfold updateCall
  refine bind_refines currentCall_refines_self fun context contextGood => ?_
  refine bind_refines (lift_refines (updated context · contextGood)) fun result resultGood => ?_
  apply refines_of_allGood
  intro before _ after allGood finished
  cases finished
  exact ⟨allGood.withCall resultGood, fun _ _ => trivial⟩

theorem onOutput_refines_self (effect : Output → Option String × Output) :
    (onOutput effect).Refines (.ofGood good) (fun _ => True) (onOutput effect) := by
  apply refines_of_allGood
  intro before result after allGood finished
  unfold onOutput at finished
  split at finished <;> cases finished <;> exact ⟨allGood, fun _ _ => trivial⟩

end Action

namespace Coupling

variable {good : Value → Prop}

theorem ofGood_allowsReading : (ofGood good).AllowsReading good :=
  Comparison.AllowsReading.of_currentCall Action.currentCall_refines_self.compares

theorem ofGood_allowsStatements : (ofGood good).AllowsStatements good := by
  refine .of_updateCall ofGood_allowsReading (fun _ => Action.updateCall_refines_self) ?_
  rintro machine _ ⟨rfl, allGood⟩
  exact ⟨⟨rfl, allGood.closeScope⟩, trivial⟩

theorem ofGood_allowsCalls (program : Program) (rates : Rates) :
    (ofGood good).AllowsCalls (ofGood good) good program rates where
  carried refines := refines
  statements := ofGood_allowsStatements
  depth := by
    rintro machine _ ⟨rfl, _⟩
    rfl
  enter := by
    rintro machine _ scope scopeGood ⟨rfl, allGood⟩
    exact ⟨rfl, allGood.enterCall (Context.allGood_ofScope scopeGood)⟩
  leave := by
    rintro machine _ ⟨rfl, allGood⟩
    exact ⟨rfl, allGood.leaveCall⟩
  moved _ _ _ _ := trivial
  writeLine _ := Action.onOutput_refines_self _
  flush := Action.onOutput_refines_self _

end Coupling

section

variable {program : Program} {steps more : Nat}

theorem Setting.ofProgram_refines_self {discipline : Discipline}
    (allowed : discipline.AllowsProgram program) (rates : Rates) (le : steps ≤ more) :
    (Setting.ofProgram program rates steps).Refines (.ofGood discipline.good) discipline.good
      (.ofProgram program rates more) :=
  ofProgram_refines (Coupling.ofGood_allowsCalls program rates) allowed le fun refines => refines

section

variable {discipline : Discipline} {rates : Rates} {before after : Machine}

theorem Expression.evaluate_allGood (allowed : discipline.AllowsProgram program)
    {expression : Expression} (expressionAllowed : discipline.allowsExpression expression)
    {result : Except RuntimeError Value} (allGood : before.AllGood discipline.good)
    (finished : expression.evaluate (.ofProgram program rates steps) before =
      .finished result after) :
    after.AllGood discipline.good ∧ ∀ value, result = .ok value → discipline.good value := by
  have refines := Setting.ofProgram_refines_self allowed rates (Nat.le_refl steps)
  have evaluated := expression.evaluate_refines refines Coupling.ofGood_allowsReading
    expressionAllowed
  exact evaluated.allGood allGood finished

theorem Expression.evaluateAll_allGood (allowed : discipline.AllowsProgram program)
    {expressions : List Expression}
    (expressionsAllowed : ∀ expression ∈ expressions, discipline.allowsExpression expression)
    {result : Except RuntimeError (List Value)} (allGood : before.AllGood discipline.good)
    (finished : Expression.evaluateAll (.ofProgram program rates steps) expressions before =
      .finished result after) :
    after.AllGood discipline.good ∧
      ∀ values, result = .ok values → ∀ value ∈ values, discipline.good value := by
  have refines := Setting.ofProgram_refines_self allowed rates (Nat.le_refl steps)
  have evaluated := Expression.evaluateAll_refines refines Coupling.ofGood_allowsReading
    expressions expressionsAllowed
  exact evaluated.allGood allGood finished

theorem Statement.execute_allGood (allowed : discipline.AllowsProgram program)
    {statement : Statement} (statementAllowed : discipline.allowsStatement statement)
    {result : Except RuntimeError Flow} (allGood : before.AllGood discipline.good)
    (finished : statement.execute (.ofProgram program rates steps) steps before =
      .finished result after) :
    after.AllGood discipline.good ∧ ∀ flow, result = .ok flow → flow.AllGood discipline.good := by
  have same := Nat.le_refl steps
  have refines := Setting.ofProgram_refines_self allowed rates same
  have executed := statement.execute_refines refines Coupling.ofGood_allowsStatements same
    statementAllowed
  exact executed.allGood allGood finished

end

theorem Action.Refines.finished_of_finished {α : Type} {action other : Action α}
    {goodResult : α → Prop}
    (refines : action.Refines (.ofGood Discipline.free.good) goodResult other)
    {machine after : Machine} {result : Except RuntimeError α}
    (finished : action machine = .finished result after) :
    other machine = .finished result after := by
  have allGood : machine.AllGood Discipline.free.good := fun _ _ _ _ _ _ _ => trivial
  rcases refines machine machine ⟨rfl, allGood⟩ result after finished with
    ⟨_, otherFinished, ⟨rfl, _⟩, _⟩
  exact otherFinished

section

variable {rates : Rates} {machine after : Machine}

theorem Expression.evaluate_of_le (le : steps ≤ more) {expression : Expression}
    {result : Except RuntimeError Value}
    (finished : expression.evaluate (.ofProgram program rates steps) machine =
      .finished result after) :
    expression.evaluate (.ofProgram program rates more) machine = .finished result after := by
  have refines := Setting.ofProgram_refines_self (Discipline.free_allowsProgram program) rates le
  have evaluated := expression.evaluate_refines refines Coupling.ofGood_allowsReading trivial
  exact evaluated.finished_of_finished finished

theorem Expression.evaluateAll_of_le (le : steps ≤ more) {expressions : List Expression}
    {result : Except RuntimeError (List Value)}
    (finished : Expression.evaluateAll (.ofProgram program rates steps) expressions machine =
      .finished result after) :
    Expression.evaluateAll (.ofProgram program rates more) expressions machine =
      .finished result after := by
  have refines := Setting.ofProgram_refines_self (Discipline.free_allowsProgram program) rates le
  have evaluated := Expression.evaluateAll_refines refines Coupling.ofGood_allowsReading
    expressions fun _ _ => trivial
  exact evaluated.finished_of_finished finished

theorem Statement.execute_of_le (le : steps ≤ more) {statement : Statement}
    {result : Except RuntimeError Flow}
    (finished : statement.execute (.ofProgram program rates steps) steps machine =
      .finished result after) :
    statement.execute (.ofProgram program rates more) more machine = .finished result after := by
  have refines := Setting.ofProgram_refines_self (Discipline.free_allowsProgram program) rates le
  have executed := statement.execute_refines refines Coupling.ofGood_allowsStatements le trivial
  exact executed.finished_of_finished finished

theorem Statement.repeatWhile_of_le (le : steps ≤ more) {condition : Expression}
    {body : List Statement} {result : Except RuntimeError Flow}
    (finished : repeatWhile (condition.test (.ofProgram program rates steps))
      (Action.inScope (Statement.executeAll (.ofProgram program rates steps) steps body)) steps
      machine = .finished result after) :
    repeatWhile (condition.test (.ofProgram program rates more))
      (Action.inScope (Statement.executeAll (.ofProgram program rates more) more body)) steps
      machine = .finished result after := by
  have refines := Setting.ofProgram_refines_self (Discipline.free_allowsProgram program) rates le
  have allows : (Coupling.ofGood Discipline.free.good).AllowsStatements _ :=
    Coupling.ofGood_allowsStatements
  have tested := condition.test_refines refines allows.read trivial
  have executed := Statement.executeAll_refines refines allows le body fun _ _ => trivial
  have repeated := repeatWhile_refines tested (allows.inScope executed) (Nat.le_refl steps)
  exact repeated.finished_of_finished finished

end

/-- A run that finishes does so as well if it is allowed more steps. -/
theorem Setting.enter_of_le {rates : Rates} (le : steps ≤ more) {entry : String}
    {machine after : Machine} {result : Except RuntimeError (Option Value)}
    (finished : (Setting.ofProgram program rates steps).enter entry machine =
      .finished result after) :
    (Setting.ofProgram program rates more).enter entry machine = .finished result after := by
  have entered := enter_refines (Coupling.ofGood_allowsCalls program rates)
    (Discipline.free_allowsProgram program) le entry
  exact entered.finished_of_finished finished

end

end Ducat
