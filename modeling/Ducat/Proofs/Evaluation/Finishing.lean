import Ducat.Proofs.Evaluation.Goodness
import Ducat.Proofs.Evaluation.Moment

/-! Nothing keeps an activity from finishing but the moments to which it leads: if each of them
finishes, it does so itself. -/

namespace Ducat

namespace Action

variable {α β : Type} {machine : Machine}

/-- With enough steps the action finishes, and then always in the same way. -/
def Finishes (action : Nat → Action α) (machine : Machine) : Prop :=
  ∃ least result after, ∀ steps, least ≤ steps → action steps machine = .finished result after

theorem Finishes.of_finished {action : Action α} {result : Except RuntimeError α} {after : Machine}
    (finished : action machine = .finished result after) :
    Finishes (fun _ => action) machine :=
  ⟨0, result, after, fun _ _ => finished⟩

theorem pure_finishes (result : α) : Finishes (fun _ => (pure result : Action α)) machine :=
  .of_finished rfl

theorem fail_finishes (error : RuntimeError) :
    Finishes (fun _ => (fail error : Action α)) machine :=
  .of_finished rfl

theorem lift_finishes (result : Except RuntimeError α) :
    Finishes (fun _ => (liftM result : Action α)) machine := by
  cases result with
  | ok result => exact pure_finishes result
  | error error => exact fail_finishes error

theorem bind_finishes {action : Nat → Action α} {continuation : Nat → α → Action β}
    (first : Finishes action machine)
    (behind : ∀ steps value after, action steps machine = .finished (.ok value) after →
      Finishes (fun steps => continuation steps value) after) :
    Finishes (fun steps => action steps >>= continuation steps) machine := by
  rcases first with ⟨least, result, between, finished⟩
  cases result with
  | error error => exact ⟨least, _, _, fun steps le => bind_of_error (finished steps le)⟩
  | ok value =>
      rcases behind least value between (finished least (Nat.le_refl _)) with
        ⟨further, result, after, stillFinished⟩
      refine ⟨max least further, result, after, fun steps le => ?_⟩
      exact (bind_of_ok (finished steps (by omega))).trans (stillFinished steps (by omega))

theorem Finishes.of_succ {action : Nat → Action α}
    (finishes : Finishes (fun steps => action (steps + 1)) machine) : Finishes action machine := by
  rcases finishes with ⟨least, result, after, finished⟩
  refine ⟨least + 1, result, after, fun steps le => ?_⟩
  rcases steps with _ | steps
  · omega
  · exact finished steps (by omega)

theorem Finishes.succ {action : Nat → Action α} (finishes : Finishes action machine) :
    Finishes (fun steps => action (steps + 1)) machine := by
  rcases finishes with ⟨least, result, after, finished⟩
  exact ⟨least, result, after, fun steps le => finished (steps + 1) (by omega)⟩

theorem currentCall_finishes : Finishes (fun _ => currentCall) machine := by
  rcases machine with ⟨calls, output⟩
  cases calls with
  | nil => exact .of_finished rfl
  | cons context outer => exact .of_finished rfl

theorem read_finishes (name : String) : Finishes (fun _ => read name) machine := by
  rw [read]
  refine bind_finishes currentCall_finishes fun _ context after _ => ?_
  split
  · exact pure_finishes _
  · exact fail_finishes _

theorem updateCall_finishes (update : Context → Except RuntimeError Context) :
    Finishes (fun _ => updateCall update) machine := by
  unfold updateCall
  refine bind_finishes currentCall_finishes fun _ context after _ => ?_
  refine bind_finishes (lift_finishes _) fun _ context after _ => ?_
  exact .of_finished rfl

theorem onOutput_finishes (effect : Output → Option String × Output) :
    Finishes (fun _ => onOutput effect) machine := by
  rcases equation : effect machine.output with ⟨failure, output⟩
  cases failure with
  | none => exact .of_finished (by rw [onOutput, equation])
  | some reason => exact .of_finished (by rw [onOutput, equation])

theorem restoring_finishes {action : Nat → Action α} (restore : Machine → Machine)
    (finishes : Finishes action machine) :
    Finishes (fun steps => restoring restore (action steps)) machine := by
  rcases finishes with ⟨least, result, after, finished⟩
  exact ⟨least, result, restore after, fun steps le => restoring_of_finished (finished steps le)⟩

theorem inScope_finishes {action : Nat → Action α}
    (inside : ∀ context outer, machine.calls = context :: outer →
      Finishes action (machine.withCall context.openScope)) :
    Finishes (fun steps => inScope (action steps)) machine := by
  simp only [inScope_eq_restoring]
  refine bind_finishes (updateCall_finishes _) fun _ _ opened finished => ?_
  cases active : machine.calls with
  | nil =>
      have idle := finished.symm.trans (updateCall_of_idle active)
      cases idle
  | cons context outer =>
      have updated := finished.symm.trans (updateCall_of_ok active rfl)
      cases updated
      exact restoring_finishes _ (inside context outer active)

theorem inCall_finishes {action : Nat → Action α} {scope : Scope}
    (inside : Finishes action (machine.enterCall (.ofScope scope))) :
    Finishes (fun steps => inCall scope (action steps)) machine :=
  restoring_finishes Machine.leaveCall inside

end Action

namespace Builtin

theorem writeLines_finishes (values : List Value) (machine : Machine) :
    Action.Finishes (fun _ => writeLines values) machine := by
  induction values generalizing machine with
  | nil => exact Action.pure_finishes ()
  | cons value rest induction =>
      exact Action.bind_finishes (Action.onOutput_finishes _) fun _ _ after _ => induction after

theorem run_finishes (builtin : Builtin) (arguments : List Value) (machine : Machine) :
    Action.Finishes (fun _ => builtin.run arguments) machine := by
  cases builtin with
  | print =>
      refine Action.bind_finishes (writeLines_finishes arguments machine) fun _ _ after _ => ?_
      refine Action.bind_finishes (Action.onOutput_finishes _) fun _ _ after _ => ?_
      exact Action.pure_finishes none
  | typeOf => exact Action.pure_finishes _

end Builtin

theorem Expression.evaluate_of_test {setting : Setting} {condition : Expression} {truth : Bool}
    {machine after : Machine}
    (tested : condition.test setting machine = .finished (.ok truth) after) :
    condition.evaluate setting machine = .finished (.ok (.bool truth)) after := by
  unfold Expression.test at tested
  cases evaluated : condition.evaluate setting machine with
  | exhausted =>
      rw [Action.bind_of_exhausted evaluated] at tested
      cases tested
  | finished result between =>
      cases result with
      | error error =>
          rw [Action.bind_of_error evaluated] at tested
          cases tested
      | ok value =>
          rw [Action.bind_of_ok evaluated] at tested
          cases value <;> cases tested
          rfl

namespace Moment

def Finishes (program : Program) (rates : Rates) : Moment → Prop
  | ⟨.evaluation expression, machine⟩ =>
      Action.Finishes (fun steps => expression.evaluate (.ofProgram program rates steps)) machine
  | ⟨.evaluations expressions, machine⟩ =>
      Action.Finishes
        (fun steps => Expression.evaluateAll (.ofProgram program rates steps) expressions) machine
  | ⟨.application callee arguments, machine⟩ =>
      Action.Finishes
        (fun steps => (Setting.ofProgram program rates steps).apply callee arguments) machine
  | ⟨.execution statement, machine⟩ =>
      Action.Finishes
        (fun steps => statement.execute (.ofProgram program rates steps) steps) machine
  | ⟨.executions statements, machine⟩ =>
      Action.Finishes
        (fun steps => Statement.executeAll (.ofProgram program rates steps) steps statements)
        machine

/-- All moments to which the moment leads finish. -/
def Advances (program : Program) (rates : Rates) (moment : Moment) : Prop :=
  ∀ next, moment.LeadsTo program rates next → next.Finishes program rates

variable {program : Program} {rates : Rates} {machine : Machine}

theorem Advances.call {activity : Activity} {function : String} {arguments : List Expression}
    (advances : Advances program rates ⟨activity, machine⟩)
    (isCall : activity.call? = some (function, arguments)) :
    Action.Finishes (fun steps => (Setting.ofProgram program rates steps).call function
      arguments.length (Expression.evaluateAll (.ofProgram program rates steps) arguments))
      machine := by
  simp only [Setting.call, Setting.ofProgram]
  cases found : Callee.find program function arguments.length with
  | error error => exact Action.fail_finishes error
  | ok callee =>
      change Action.Finishes (fun steps =>
        Expression.evaluateAll (.ofProgram program rates steps) arguments >>=
          (Setting.ofProgram program rates steps).apply callee) machine
      refine Action.bind_finishes (advances _ (.arguments isCall found)) ?_
      intro steps values after evaluated
      exact advances _ (.application isCall found evaluated)

theorem Advances.evaluation {expression : Expression}
    (advances : Advances program rates ⟨.evaluation expression, machine⟩) :
    Finishes program rates ⟨.evaluation expression, machine⟩ := by
  unfold Finishes
  cases expression with
  | literal constant =>
      simp only [Expression.evaluate]
      exact Action.pure_finishes constant.value
  | reference name =>
      simp only [Expression.evaluate]
      exact Action.read_finishes name
  | call function arguments =>
      simp only [Expression.evaluate]
      refine Action.bind_finishes (advances.call rfl) fun _ result after _ => ?_
      cases result with
      | some value => exact Action.pure_finishes value
      | none => exact Action.fail_finishes _
  | bracketed inner =>
      simp only [Expression.evaluate]
      exact advances _ (.firstOperand rfl)
  | negation operand =>
      simp only [Expression.evaluate]
      refine Action.bind_finishes (advances _ (.firstOperand rfl)) fun _ value after _ => ?_
      exact Action.lift_finishes _
  | cast operand target =>
      simp only [Expression.evaluate]
      refine Action.bind_finishes (advances _ (.firstOperand rfl)) fun _ value after _ => ?_
      exact Action.lift_finishes (value.cast target rates)
  | arithmetic operator left right =>
      simp only [Expression.evaluate]
      refine Action.bind_finishes (advances _ (.firstOperand rfl)) fun _ value after first => ?_
      have second := advances _ (.secondOperand rfl first rfl)
      refine Action.bind_finishes second fun _ value after _ => ?_
      exact Action.lift_finishes _
  | comparison operator left right =>
      simp only [Expression.evaluate]
      refine Action.bind_finishes (advances _ (.firstOperand rfl)) fun _ value after first => ?_
      have second := advances _ (.secondOperand rfl first rfl)
      refine Action.bind_finishes second fun _ value after _ => ?_
      refine Action.bind_finishes (Action.lift_finishes _) fun _ truth after _ => ?_
      exact Action.pure_finishes _
  | logical operator left right =>
      simp only [Expression.evaluate]
      refine Action.bind_finishes (advances _ (.firstOperand rfl)) fun _ value between first => ?_
      cases value with
      | bool truth =>
          change Action.Finishes (fun steps => ite _ _ _) between
          by_cases decided : truth = operator.decisive
          · simp only [if_pos decided]
            exact Action.pure_finishes _
          · simp only [if_neg decided]
            have second := advances _ (.secondOperand rfl first (if_neg decided))
            refine Action.bind_finishes second fun _ value after _ => ?_
            refine Action.bind_finishes (Action.lift_finishes _) fun _ truth after _ => ?_
            exact Action.pure_finishes _
      | _ => exact Action.fail_finishes _
  | not operand =>
      simp only [Expression.evaluate]
      refine Action.bind_finishes (advances _ (.firstOperand rfl)) fun _ value after _ => ?_
      refine Action.bind_finishes (Action.lift_finishes _) fun _ truth after _ => ?_
      exact Action.pure_finishes _

theorem Advances.evaluations {expressions : List Expression}
    (advances : Advances program rates ⟨.evaluations expressions, machine⟩) :
    Finishes program rates ⟨.evaluations expressions, machine⟩ := by
  unfold Finishes
  cases expressions with
  | nil =>
      simp only [Expression.evaluateAll]
      exact Action.pure_finishes []
  | cons first rest =>
      simp only [Expression.evaluateAll]
      refine Action.bind_finishes (advances _ .firstArgument) fun _ value after evaluated => ?_
      refine Action.bind_finishes (advances _ (.furtherArguments evaluated)) fun _ values _ _ => ?_
      exact Action.pure_finishes _

theorem Advances.application {callee : Callee} {arguments : List Value}
    (advances : Advances program rates ⟨.application callee arguments, machine⟩) :
    Finishes program rates ⟨.application callee arguments, machine⟩ := by
  unfold Finishes
  cases callee with
  | builtin builtin => exact builtin.run_finishes arguments machine
  | defined definition =>
      change Action.Finishes
        (fun steps => Definition.invoke program rates steps definition arguments) machine
      apply Action.Finishes.of_succ
      simp only [Definition.invoke, checkArgumentCount]
      by_cases complete : definition.parameters.length = arguments.length
      · simp only [if_pos complete]
        change Action.Finishes (fun steps => ite (maximumCallDepth ≤ machine.calls.length) _ _)
          machine
        by_cases deep : maximumCallDepth ≤ machine.calls.length
        · simp only [if_pos deep]
          exact Action.fail_finishes _
        · simp only [if_neg deep]
          cases bound : definition.bind arguments with
          | error error => exact Action.fail_finishes error
          | ok scope =>
              change Action.Finishes (fun steps => Action.inCall scope
                (Statement.executeBlock (.ofProgram program rates steps) steps definition.body) >>=
                  fun flow => liftM (definition.checkReturn flow)) machine
              have begun := advances _ (.body complete (Nat.lt_of_not_le deep) bound)
              simp only [Finishes, Statement.execute] at begun
              refine Action.bind_finishes (Action.inCall_finishes begun) fun _ flow after _ => ?_
              exact Action.lift_finishes _
      · simp only [if_neg complete]
        exact Action.fail_finishes _

theorem Advances.test {statement : Statement} {condition : Expression}
    (advances : Advances program rates ⟨.execution statement, machine⟩)
    (begins : statement.expression? = some condition) :
    Action.Finishes (fun steps => condition.test (.ofProgram program rates steps)) machine := by
  unfold Expression.test
  refine Action.bind_finishes (advances _ (.expression begins)) fun _ value after _ => ?_
  exact Action.lift_finishes _

/-- A round of a loop is allowed one repetition less than the round before it, and the same steps
otherwise. -/
theorem Advances.loop {condition : Expression} {body : List Statement}
    (advances : Advances program rates ⟨.execution (.loop condition body), machine⟩) :
    Finishes program rates ⟨.execution (.loop condition body), machine⟩ := by
  simp only [Finishes, Statement.execute]
  apply Action.Finishes.of_succ
  simp only [repeatWhile_succ]
  refine Action.bind_finishes (advances.test rfl).succ fun _ truth between tested => ?_
  have evaluated := Expression.evaluate_of_test tested
  cases truth with
  | false => exact Action.pure_finishes _
  | true =>
      have begun := advances _ (.chosen rfl evaluated rfl)
      simp only [Finishes, Statement.execute] at begun
      refine Action.bind_finishes begun.succ fun _ flow after executed => ?_
      cases flow with
      | leave value => exact Action.pure_finishes _
      | proceed =>
          have again := advances _ (.repetition evaluated executed)
          simp only [Finishes, Statement.execute] at again
          rcases again with ⟨least, result, last, finished⟩
          refine ⟨least, result, last, fun steps le => ?_⟩
          exact Statement.repeatWhile_of_le (Nat.le_succ steps) (finished steps le)

theorem Advances.execution {statement : Statement}
    (advances : Advances program rates ⟨.execution statement, machine⟩) :
    Finishes program rates ⟨.execution statement, machine⟩ := by
  unfold Finishes
  cases statement with
  | assign name value =>
      simp only [Statement.execute]
      refine Action.bind_finishes (advances _ (.expression rfl)) fun _ value after _ => ?_
      refine Action.bind_finishes (Action.updateCall_finishes _) fun _ _ after _ => ?_
      exact Action.pure_finishes _
  | declare type name value =>
      simp only [Statement.execute]
      refine Action.bind_finishes (advances _ (.expression rfl)) fun _ value after _ => ?_
      refine Action.bind_finishes (Action.lift_finishes _) fun _ _ after _ => ?_
      refine Action.bind_finishes (Action.updateCall_finishes _) fun _ _ after _ => ?_
      exact Action.pure_finishes _
  | leave value =>
      cases value with
      | none =>
          simp only [Statement.execute]
          exact Action.pure_finishes _
      | some value =>
          simp only [Statement.execute]
          refine Action.bind_finishes (advances _ (.expression rfl)) fun _ value after _ => ?_
          exact Action.pure_finishes _
  | branch condition consequence =>
      simp only [Statement.execute]
      refine Action.bind_finishes (advances.test rfl) fun _ truth after tested => ?_
      have evaluated := Expression.evaluate_of_test tested
      cases truth with
      | true => exact advances _ (.chosen rfl evaluated rfl)
      | false => exact Action.pure_finishes _
  | choice condition consequence alternative =>
      simp only [Statement.execute]
      refine Action.bind_finishes (advances.test rfl) fun _ truth after tested => ?_
      have evaluated := Expression.evaluate_of_test tested
      cases truth with
      | true => exact advances _ (.chosen rfl evaluated rfl)
      | false => exact advances _ (.chosen rfl evaluated rfl)
  | loop condition body => exact advances.loop
  | call function arguments =>
      simp only [Statement.execute]
      refine Action.bind_finishes (advances.call rfl) fun _ result after _ => ?_
      exact Action.pure_finishes _
  | block statements =>
      simp only [Statement.execute]
      refine Action.inScope_finishes fun context outer active => ?_
      exact advances _ (.block active)

theorem Advances.executions {statements : List Statement}
    (advances : Advances program rates ⟨.executions statements, machine⟩) :
    Finishes program rates ⟨.executions statements, machine⟩ := by
  unfold Finishes
  cases statements with
  | nil =>
      simp only [Statement.executeAll]
      exact Action.pure_finishes _
  | cons first rest =>
      simp only [Statement.executeAll]
      refine Action.bind_finishes (advances _ .firstStatement) fun _ flow after executed => ?_
      cases flow with
      | proceed => exact advances _ (.furtherStatements executed)
      | leave value => exact Action.pure_finishes _

/-- An activity that goes on forever does so in one of those that it begins. -/
theorem Advances.finishes {moment : Moment} (advances : moment.Advances program rates) :
    moment.Finishes program rates := by
  rcases moment with ⟨activity, machine⟩
  cases activity with
  | evaluation => exact advances.evaluation
  | evaluations => exact advances.evaluations
  | application => exact advances.application
  | execution => exact advances.execution
  | executions => exact advances.executions

end Moment

end Ducat
