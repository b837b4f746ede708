import Ducat.Proofs.Evaluation.Finishing
import Ducat.Proofs.Evaluation.Place

/-! Where values come from: a variable that there is at one moment of a run is still in its place at
any moment to which that leads, with the value that it had or one that was assigned to it in the
meantime. -/

namespace Ducat

namespace Moment

inductive Assigns (program : Program) (rates : Rates) : Moment → Place → Value → Prop where
  | assign {name : String} {expression : Expression} {machine between : Machine} {place : Place}
      {value : Value} {steps : Nat}
      (evaluated : expression.evaluate (.ofProgram program rates steps) machine =
        .finished (.ok value) between)
      (nearest : machine.nearest? name = some place) :
      Assigns program rates ⟨.execution (.assign name expression), machine⟩ place value

/-- Every variable that there is at the moment is in its place afterwards, with the value that it
had or one that was assigned to it in the course of the activity. -/
def Explains (program : Program) (rates : Rates) (moment : Moment) (after : Machine) : Prop :=
  ∀ place value, moment.machine.valueAt? place = some value →
    ∃ later, after.valueAt? place = some later ∧
      (later = value ∨ ∃ assignment,
        Relation.ReflTransGen (LeadsTo program rates) moment assignment ∧
          assignment.Assigns program rates place later)

variable {program : Program} {rates : Rates} {first second : Moment} {after : Machine}

theorem Explains.of_kept (kept : ∀ place value, first.machine.valueAt? place = some value →
      after.valueAt? place = some value) : first.Explains program rates after :=
  fun place value found => ⟨value, kept place value found, .inl rfl⟩

theorem Explains.refl (moment : Moment) : moment.Explains program rates moment.machine :=
  .of_kept fun _ _ found => found

theorem Explains.of_sameCalls (same : first.machine.SameCalls after) :
    first.Explains program rates after :=
  .of_kept fun place _ found => (Machine.valueAt?_of_sameCalls same place).trans found

theorem Explains.trans (earlier : first.Explains program rates second.machine)
    (reached : Relation.ReflTransGen (LeadsTo program rates) first second)
    (later : second.Explains program rates after) : first.Explains program rates after := by
  intro place value found
  rcases earlier place value found with ⟨between, foundBetween, origin⟩
  rcases later place between foundBetween with ⟨last, foundLast, rfl | ⟨assignment, leads, assigns⟩⟩
  · exact ⟨last, foundLast, origin⟩
  · exact ⟨last, foundLast, .inr ⟨assignment, reached.trans leads, assigns⟩⟩

theorem LeadsTo.explains_of_begun (leads : first.LeadsTo program rates second)
    (begun : second.machine = first.machine) (later : second.Explains program rates after) :
    first.Explains program rates after := by
  have same : first.Explains program rates second.machine := by
    rw [begun]
    exact .refl first
  exact same.trans (.single leads) later

end Moment

def Activity.Explains (program : Program) (rates : Rates) (activity : Activity) {α : Type}
    (action : Action α) : Prop :=
  ∀ machine value after, action machine = .finished (.ok value) after →
    Moment.Explains program rates ⟨activity, machine⟩ after

theorem Action.ok_of_bind {α β : Type} {action : Action α} {continuation : α → Action β}
    {machine after : Machine} {value : β}
    (succeeded : (action >>= continuation) machine = .finished (.ok value) after) :
    ∃ first between, action machine = .finished (.ok first) between ∧
      continuation first between = .finished (.ok value) after := by
  cases ran : action machine with
  | exhausted =>
      rw [bind_of_exhausted ran] at succeeded
      cases succeeded
  | finished result between =>
      cases result with
      | error error =>
          rw [bind_of_error ran] at succeeded
          cases succeeded
      | ok first =>
          rw [bind_of_ok ran] at succeeded
          exact ⟨first, between, rfl, succeeded⟩

theorem Action.exists_of_updateCall {update : Context → Except RuntimeError Context}
    {machine after : Machine} {value : Unit}
    (updated : updateCall update machine = .finished (.ok value) after) :
    ∃ context outer changed, machine.calls = context :: outer ∧ update context = .ok changed ∧
      after = machine.withCall changed := by
  cases active : machine.calls with
  | nil =>
      rw [updateCall_of_idle active] at updated
      cases updated
  | cons context outer =>
      cases changed : update context with
      | error error =>
          rw [updateCall_of_error active changed] at updated
          cases updated
      | ok result =>
          rw [updateCall_of_ok active changed] at updated
          cases updated
          exact ⟨context, outer, result, rfl, changed, rfl⟩

theorem ValueType.accepts_of_check {type : ValueType} {value : Value}
    (checked : type.check value = .ok ()) : type.accepts value := by
  unfold check at checked
  split at checked
  next accepted => exact accepted
  next => cases checked

section

open Moment

variable {program : Program} {rates : Rates} {steps : Nat}

theorem Expression.sameCalls_of_evaluate {expression : Expression} {machine after : Machine}
    {result : Except RuntimeError Value}
    (evaluated : expression.evaluate (.ofProgram program rates steps) machine =
      .finished result after) : machine.SameCalls after :=
  expression.evaluate_keeps (Setting.ofProgram_keeps_calls program rates steps) _ _ _ evaluated

namespace Statement

variable {statement : Statement} {machine after : Machine} {flow : Flow}

theorem assign_explains (name : String) (expression : Expression) :
    (Activity.execution (.assign name expression)).Explains program rates
      ((assign name expression).execute (.ofProgram program rates steps) steps) := by
  rintro machine flow after executed ⟨height, scope, other⟩ held found
  rw [execute] at executed
  rcases Action.ok_of_bind executed with ⟨value, between, evaluated, executed⟩
  rcases Action.ok_of_bind executed with ⟨_, last, assigned, finished⟩
  cases finished
  rcases Action.exists_of_updateCall assigned with ⟨context, outer, changed, active, updated, rfl⟩
  rcases Context.valueAt?_assign updated with ⟨nearest, isNearest, valueAt⟩
  have same := Expression.sameCalls_of_evaluate evaluated
  rw [← Machine.valueAt?_of_sameCalls same] at found
  rw [Machine.valueAt?_withCall active]
  by_cases innermost : height = outer.length
  · subst innermost
    rw [Machine.valueAt?_of_active active rfl] at found
    rw [if_pos rfl, valueAt]
    by_cases isTarget : scope = nearest ∧ other = name
    · rcases isTarget with ⟨rfl, rfl⟩
      rw [if_pos ⟨rfl, rfl⟩]
      have target := Machine.nearest?_of_active (same.calls.symm.trans active) isNearest
      exact ⟨value, rfl, .inr ⟨_, .refl, .assign evaluated target⟩⟩
    · rw [if_neg isTarget]
      exact ⟨held, found, .inl rfl⟩
  · rw [if_neg innermost]
    exact ⟨held, found, .inl rfl⟩

theorem exists_of_declare {type : ValueType} {name : String} {expression : Expression}
    (executed : (declare type name expression).execute (.ofProgram program rates steps) steps
      machine = .finished (.ok flow) after) :
    ∃ value between context outer changed,
      expression.evaluate (.ofProgram program rates steps) machine = .finished (.ok value) between ∧
        type.accepts value ∧ between.calls = context :: outer ∧
          context.define name value = .ok changed ∧ after = between.withCall changed := by
  rw [execute] at executed
  rcases Action.ok_of_bind executed with ⟨value, between, evaluated, executed⟩
  rcases Action.ok_of_bind executed with ⟨_, checked, check, executed⟩
  rcases Action.ok_of_bind executed with ⟨_, last, defined, finished⟩
  cases finished
  rcases Action.exists_of_updateCall defined with ⟨context, outer, changed, active, updated, rfl⟩
  cases checkedType : type.check value with
  | error error =>
      rw [checkedType] at check
      cases check
  | ok =>
      rw [checkedType] at check
      cases check
      have accepted := ValueType.accepts_of_check checkedType
      exact ⟨value, _, context, outer, changed, evaluated, accepted, active, updated, rfl⟩

theorem declare_explains (type : ValueType) (name : String) (expression : Expression) :
    (Activity.execution (.declare type name expression)).Explains program rates
      ((declare type name expression).execute (.ofProgram program rates steps) steps) := by
  intro machine flow after executed
  rcases exists_of_declare executed with
    ⟨value, between, context, outer, changed, evaluated, _, active, defined, rfl⟩
  refine .of_kept fun place held found => ?_
  rw [← Machine.valueAt?_of_sameCalls (Expression.sameCalls_of_evaluate evaluated)] at found
  have kept : ∀ scope name held, context.valueAt? scope name = some held →
      changed.valueAt? scope name = some held := fun _ _ _ => Context.valueAt?_define defined
  exact Machine.valueAt?_withCall_of_kept active kept found

theorem block_explains {statements : List Statement}
    (executed : (Activity.executions statements).Explains program rates
      (executeAll (.ofProgram program rates steps) steps statements)) :
    (Activity.execution (.block statements)).Explains program rates
      ((block statements).execute (.ofProgram program rates steps) steps) := by
  intro machine flow after finished
  rw [execute] at finished
  cases active : machine.calls with
  | nil =>
      rw [Action.inScope_of_idle _ active] at finished
      cases finished
  | cons context outer =>
      rw [Action.inScope_of_active _ active] at finished
      rcases Action.exists_of_restoring finished with ⟨between, ran, rfl⟩
      have opened : Explains program rates ⟨.execution (.block statements), machine⟩
          (machine.withCall context.openScope) :=
        .of_kept fun _ _ => Machine.valueAt?_withCall_of_kept active fun _ _ _ =>
          Context.valueAt?_openScope
      have inside := opened.trans (.single (.block active)) (executed _ _ _ ran)
      have gains := executeAll_gains_names program rates steps steps statements _ _ _ ran
      have openedActive :
          (machine.withCall context.openScope).calls = context.openScope :: outer := by
        rw [Machine.withCall, active, List.tail_cons]
      rcases gains.exists_of_active openedActive with ⟨changed, stillActive, depth⟩
      intro place held found
      rcases inside place held found with ⟨later, foundLater, origin⟩
      refine ⟨later, ?_, origin⟩
      rw [Machine.valueAt?_closeScope stillActive]
      · exact foundLater
      · intro innermost
        rw [depth]
        exact Machine.lt_depth_of_valueAt? active innermost found

theorem repeatWhile_explains (condition : Expression) {body : List Statement}
    (executed : (Activity.execution (.block body)).Explains program rates
      ((block body).execute (.ofProgram program rates steps) steps)) (repetitions : Nat) :
    (Activity.execution (.loop condition body)).Explains program rates
      (repeatWhile (condition.test (.ofProgram program rates steps))
        ((block body).execute (.ofProgram program rates steps) steps) repetitions) := by
  -- The induction is on the repetitions, of which each leads to the next one.
  induction repetitions with
  | zero =>
      intro machine flow after finished
      cases finished
  | succ repetitions induction =>
      intro machine flow after finished
      rw [repeatWhile_succ] at finished
      rcases Action.ok_of_bind finished with ⟨truth, between, tested, finished⟩
      have evaluated := Expression.evaluate_of_test tested
      have same : Explains program rates ⟨.execution (.loop condition body), machine⟩ between :=
        .of_sameCalls (Expression.sameCalls_of_evaluate evaluated)
      cases truth with
      | false =>
          cases finished
          exact same
      | true =>
          rcases Action.ok_of_bind finished with ⟨ending, last, ran, finished⟩
          have round := same.trans (.single (.chosen rfl evaluated rfl)) (executed _ _ _ ran)
          cases ending with
          | proceed =>
              exact round.trans (.single (.repetition evaluated ran)) (induction _ _ _ finished)
          | leave =>
              cases finished
              exact round

mutual

theorem execute_explains : ∀ statement : Statement, (Activity.execution statement).Explains program
    rates (statement.execute (.ofProgram program rates steps) steps)
  | .assign name value => assign_explains name value
  | .declare type name value => declare_explains type name value
  | .leave none => by
      intro machine flow after finished
      rw [execute] at finished
      cases finished
      exact .refl _
  | .leave (some value) => by
      intro machine flow after finished
      rw [execute] at finished
      rcases Action.ok_of_bind finished with ⟨_, between, evaluated, finished⟩
      cases finished
      exact .of_sameCalls (Expression.sameCalls_of_evaluate evaluated)
  | .branch condition consequence => by
      intro machine flow after finished
      rw [execute] at finished
      rcases Action.ok_of_bind finished with ⟨truth, between, tested, finished⟩
      have evaluated := Expression.evaluate_of_test tested
      have same : Explains program rates ⟨.execution (.branch condition consequence), machine⟩
          between := .of_sameCalls (Expression.sameCalls_of_evaluate evaluated)
      cases truth with
      | true =>
          exact same.trans (.single (.chosen rfl evaluated rfl))
            (consequence.execute_explains _ _ _ finished)
      | false =>
          cases finished
          exact same
  | .choice condition consequence alternative => by
      intro machine flow after finished
      rw [execute] at finished
      rcases Action.ok_of_bind finished with ⟨truth, between, tested, finished⟩
      have evaluated := Expression.evaluate_of_test tested
      have same : Explains program rates
          ⟨.execution (.choice condition consequence alternative), machine⟩ between :=
        .of_sameCalls (Expression.sameCalls_of_evaluate evaluated)
      cases truth with
      | true =>
          exact same.trans (.single (.chosen rfl evaluated rfl))
            (consequence.execute_explains _ _ _ finished)
      | false =>
          exact same.trans (.single (.chosen rfl evaluated rfl))
            (alternative.execute_explains _ _ _ finished)
  | .loop condition body => by
      rw [execute]
      have repeated := repeatWhile_explains condition
        (block_explains (executeAll_explains body)) steps
      rw [execute] at repeated
      exact repeated
  | .call function arguments => by
      intro machine flow after finished
      rw [execute] at finished
      rcases Action.ok_of_bind finished with ⟨_, between, called, finished⟩
      cases finished
      have kept := Setting.ofProgram_keeps_calls program rates steps
      exact .of_sameCalls (Setting.call_keeps kept function arguments.length
        (Expression.evaluateAll_keeps kept arguments) _ _ _ called)
  | .block statements => block_explains (executeAll_explains statements)

theorem executeAll_explains : ∀ statements : List Statement,
    (Activity.executions statements).Explains program rates
      (executeAll (.ofProgram program rates steps) steps statements)
  | [] => by
      intro machine flow after finished
      rw [executeAll] at finished
      cases finished
      exact .refl _
  | first :: rest => by
      intro machine flow after finished
      rw [executeAll] at finished
      rcases Action.ok_of_bind finished with ⟨ending, between, executed, finished⟩
      have behind : Explains program rates ⟨.executions (first :: rest), machine⟩ between :=
        LeadsTo.firstStatement.explains_of_begun rfl (first.execute_explains _ _ _ executed)
      cases ending with
      | proceed =>
          exact behind.trans (.single (.furtherStatements executed))
            (executeAll_explains rest _ _ _ finished)
      | leave =>
          cases finished
          exact behind

end

end Statement

end

namespace Moment

variable {program : Program} {rates : Rates} {first second : Moment}

theorem LeadsTo.explains (leads : first.LeadsTo program rates second) :
    first.Explains program rates second.machine := by
  cases leads with
  | firstOperand | firstArgument | arguments | expression | firstStatement =>
      exact .refl _
  | secondOperand _ evaluated | furtherArguments evaluated | chosen _ evaluated =>
      exact .of_sameCalls (Expression.sameCalls_of_evaluate evaluated)
  | application _ _ evaluated =>
      exact .of_sameCalls (Expression.evaluateAll_keeps
        (Setting.ofProgram_keeps_calls program rates _) _ _ _ _ evaluated)
  | body => exact .of_kept fun _ _ found => Machine.valueAt?_enterCall found _
  | @repetition condition body machine between _ _ _ evaluated executed =>
      have same : Explains program rates ⟨.execution (.loop condition body), machine⟩ between :=
        .of_sameCalls (Expression.sameCalls_of_evaluate evaluated)
      exact same.trans (.single (.chosen rfl evaluated rfl))
        (Statement.execute_explains _ _ _ _ executed)
  | block active =>
      exact .of_kept fun _ _ => Machine.valueAt?_withCall_of_kept active fun _ _ _ =>
        Context.valueAt?_openScope
  | furtherStatements executed =>
      exact LeadsTo.firstStatement.explains_of_begun rfl
        (Statement.execute_explains _ _ _ _ executed)

/-- From one moment of a run on, the values of its variables come from it or were assigned. -/
theorem explains_of_leadsTo (reached : Relation.ReflTransGen (LeadsTo program rates) first second) :
    first.Explains program rates second.machine := by
  induction reached with
  | refl => exact .refl first
  | tail earlier leads induction => exact induction.trans earlier leads.explains

end Moment

end Ducat
