import Ducat.Proofs.Evaluation.Finishing
import Ducat.Proofs.Evaluation.Interruption

/-! No construct recovers from an error: whatever leads to an activity that fails does so itself,
with the same error, and writes nothing behind it. -/

namespace Ducat

namespace Action

variable {α β : Type} {machine between after : Machine} {value : α}
variable {error : RuntimeError} {output : Output}

def Gives (action : Nat → Action α) (machine : Machine) (value : α) (after : Machine) : Prop :=
  ∃ least, ∀ steps, least ≤ steps → action steps machine = .finished (.ok value) after

def FailsWith (action : Nat → Action α) (machine : Machine) (error : RuntimeError)
    (output : Output) : Prop :=
  ∃ least, ∀ steps, least ≤ steps →
    ∃ after, action steps machine = .finished (.error error) after ∧ after.output = output

theorem Gives.of_finished {action : Action α}
    (finished : action machine = .finished (.ok value) after) :
    Gives (fun _ => action) machine value after :=
  ⟨0, fun _ _ => finished⟩

theorem Gives.succ {action : Nat → Action α} (gives : Gives action machine value after) :
    Gives (fun steps => action (steps + 1)) machine value after := by
  rcases gives with ⟨least, finished⟩
  exact ⟨least, fun steps le => finished (steps + 1) (by omega)⟩

theorem FailsWith.succ {action : Nat → Action α} (fails : FailsWith action machine error output) :
    FailsWith (fun steps => action (steps + 1)) machine error output := by
  rcases fails with ⟨least, failed⟩
  exact ⟨least, fun steps le => failed (steps + 1) (by omega)⟩

theorem FailsWith.of_succ {action : Nat → Action α}
    (fails : FailsWith (fun steps => action (steps + 1)) machine error output) :
    FailsWith action machine error output := by
  rcases fails with ⟨least, failed⟩
  refine ⟨least + 1, fun steps le => ?_⟩
  rcases steps with _ | steps
  · omega
  · exact failed steps (by omega)

theorem FailsWith.bind {action : Nat → Action α} (fails : FailsWith action machine error output)
    (continuation : Nat → α → Action β) :
    FailsWith (fun steps => action steps >>= continuation steps) machine error output := by
  rcases fails with ⟨least, failed⟩
  refine ⟨least, fun steps le => ?_⟩
  rcases failed steps le with ⟨after, ran, same⟩
  exact ⟨after, bind_of_error ran, same⟩

theorem Gives.bind {action : Nat → Action α} {continuation : Nat → α → Action β} {result : β}
    (gives : Gives action machine value between)
    (further : Gives (fun steps => continuation steps value) between result after) :
    Gives (fun steps => action steps >>= continuation steps) machine result after := by
  rcases gives with ⟨least, finished⟩
  rcases further with ⟨more, stillFinished⟩
  refine ⟨max least more, fun steps le => ?_⟩
  exact (bind_of_ok (finished steps (by omega))).trans (stillFinished steps (by omega))

theorem Gives.bind_fails {action : Nat → Action α} {continuation : Nat → α → Action β}
    (gives : Gives action machine value between)
    (fails : FailsWith (fun steps => continuation steps value) between error output) :
    FailsWith (fun steps => action steps >>= continuation steps) machine error output := by
  rcases gives with ⟨least, finished⟩
  rcases fails with ⟨more, failed⟩
  refine ⟨max least more, fun steps le => ?_⟩
  rcases failed steps (by omega) with ⟨after, ran, same⟩
  exact ⟨after, (bind_of_ok (finished steps (by omega))).trans ran, same⟩

theorem FailsWith.restoring {action : Nat → Action α} {restore : Machine → Machine}
    (fails : FailsWith action machine error output)
    (written : ∀ machine, (restore machine).output = machine.output) :
    FailsWith (fun steps => restoring restore (action steps)) machine error output := by
  rcases fails with ⟨least, failed⟩
  refine ⟨least, fun steps le => ?_⟩
  rcases failed steps le with ⟨after, ran, same⟩
  exact ⟨restore after, restoring_of_finished ran, (written after).trans same⟩

theorem FailsWith.inCall {action : Nat → Action α} {scope : Scope}
    (fails : FailsWith action (machine.enterCall (.ofScope scope)) error output) :
    FailsWith (fun steps => inCall scope (action steps)) machine error output := by
  have left : FailsWith (fun steps => Action.restoring Machine.leaveCall (action steps))
      (machine.enterCall (.ofScope scope)) error output := fails.restoring fun _ => rfl
  exact left

theorem FailsWith.inScope {action : Nat → Action α} {context : Context} {outer : List Context}
    (active : machine.calls = context :: outer)
    (fails : FailsWith action (machine.withCall context.openScope) error output) :
    FailsWith (fun steps => inScope (action steps)) machine error output := by
  simp only [inScope_eq_restoring]
  have opened : Gives (fun _ => updateCall fun context => .ok context.openScope) machine ()
      (machine.withCall context.openScope) := .of_finished (updateCall_of_ok active rfl)
  exact opened.bind_fails (fails.restoring Machine.closeScope_output)

end Action

section

variable {program : Program} {rates : Rates} {machine between after : Machine} {steps : Nat}
variable {error : RuntimeError} {output : Output}

open Ducat.Action

namespace Expression

theorem gives_of_finished {expression : Expression} {value : Value}
    (finished : expression.evaluate (.ofProgram program rates steps) machine =
      .finished (.ok value) after) :
    Gives (fun steps => expression.evaluate (.ofProgram program rates steps)) machine value after :=
  ⟨steps, fun _ le => evaluate_of_le le finished⟩

theorem fails_of_finished {expression : Expression}
    (finished : expression.evaluate (.ofProgram program rates steps) machine =
      .finished (.error error) after) :
    FailsWith (fun steps => expression.evaluate (.ofProgram program rates steps)) machine error
      after.output :=
  ⟨steps, fun _ le => ⟨after, evaluate_of_le le finished, rfl⟩⟩

theorem fails_of_firstOperand {expression first : Expression}
    (isFirst : expression.firstOperand? = some first)
    (fails : FailsWith (fun steps => first.evaluate (.ofProgram program rates steps)) machine error
      output) :
    FailsWith (fun steps => expression.evaluate (.ofProgram program rates steps)) machine error
      output := by
  cases expression <;> cases isFirst <;> simp only [evaluate]
  case bracketed => exact fails
  case negation | cast | not | arithmetic | comparison | logical => exact fails.bind _

theorem fails_of_secondOperand {expression first second : Expression} {value : Value}
    (isFirst : expression.firstOperand? = some first)
    (gives : Gives (fun steps => first.evaluate (.ofProgram program rates steps)) machine value
      between)
    (isSecond : expression.secondOperand? value = some second)
    (fails : FailsWith (fun steps => second.evaluate (.ofProgram program rates steps)) between error
      output) :
    FailsWith (fun steps => expression.evaluate (.ofProgram program rates steps)) machine error
      output := by
  cases expression with
  | arithmetic | comparison =>
      cases isFirst
      cases isSecond
      simp only [evaluate]
      exact gives.bind_fails (fails.bind _)
  | logical operator left right =>
      cases isFirst
      simp only [secondOperand?] at isSecond
      split at isSecond
      next truth =>
        split at isSecond
        next => cases isSecond
        next undecided =>
          cases isSecond
          simp only [evaluate]
          refine gives.bind_fails ?_
          change FailsWith (fun steps => ite _ _ _) between error output
          simp only [if_neg undecided]
          exact fails.bind _
      next => cases isSecond
  | literal | reference | call | bracketed | negation | cast | not => cases isSecond

theorem test_of_evaluate {setting : Setting} {condition : Expression} {truth : Bool}
    (evaluated : condition.evaluate setting machine = .finished (.ok (.bool truth)) after) :
    condition.test setting machine = .finished (.ok truth) after :=
  bind_of_ok evaluated

theorem gives_of_test {condition : Expression} {truth : Bool}
    (finished : condition.evaluate (.ofProgram program rates steps) machine =
      .finished (.ok (.bool truth)) after) :
    Gives (fun steps => condition.test (.ofProgram program rates steps)) machine truth after :=
  (gives_of_finished finished).bind (.of_finished rfl)

end Expression

namespace Setting

variable {function : String} {arguments : List Expression} {callee : Callee}

theorem fails_of_arguments (found : Callee.find program function arguments.length = .ok callee)
    (fails : FailsWith
      (fun steps => Expression.evaluateAll (.ofProgram program rates steps) arguments) machine error
      output) :
    FailsWith (fun steps => (Setting.ofProgram program rates steps).call function arguments.length
      (Expression.evaluateAll (.ofProgram program rates steps) arguments)) machine error
      output := by
  simp only [call, ofProgram, found]
  exact fails.bind _

theorem fails_of_application {values : List Value}
    (found : Callee.find program function arguments.length = .ok callee)
    (evaluated : Expression.evaluateAll (.ofProgram program rates steps) arguments machine =
      .finished (.ok values) between)
    (fails : FailsWith (fun steps => (Setting.ofProgram program rates steps).apply callee values)
      between error output) :
    FailsWith (fun steps => (Setting.ofProgram program rates steps).call function arguments.length
      (Expression.evaluateAll (.ofProgram program rates steps) arguments)) machine error
      output := by
  simp only [call, ofProgram, found]
  have gives : Gives
      (fun steps => Expression.evaluateAll (.ofProgram program rates steps) arguments) machine
      values between := ⟨steps, fun _ le => Expression.evaluateAll_of_le le evaluated⟩
  exact gives.bind_fails fails

end Setting

theorem Definition.fails_of_body {definition : Definition} {arguments : List Value} {scope : Scope}
    (complete : definition.parameters.length = arguments.length)
    (shallow : machine.calls.length < maximumCallDepth)
    (bound : definition.bind arguments = .ok scope)
    (fails : FailsWith (fun steps =>
      (Statement.block definition.body).execute (.ofProgram program rates steps) steps)
      (machine.enterCall (.ofScope scope)) error output) :
    FailsWith (fun steps => (Setting.ofProgram program rates steps).apply (.defined definition)
      arguments) machine error output := by
  apply FailsWith.of_succ
  simp only [Setting.apply, Setting.ofProgram, invoke_succ, checkArgumentCount, if_pos complete,
    bound]
  simp only [Statement.execute] at fails
  have checked : Gives (fun _ => checkDepth definition.name) machine () machine :=
    .of_finished (checkDepth_of_shallow shallow definition.name)
  exact checked.bind_fails (fails.inCall.bind _)

namespace Statement

theorem gives_of_finished {statement : Statement} {flow : Flow}
    (finished : statement.execute (.ofProgram program rates steps) steps machine =
      .finished (.ok flow) after) :
    Gives (fun steps => statement.execute (.ofProgram program rates steps) steps) machine flow
      after :=
  ⟨steps, fun _ le => execute_of_le le finished⟩

theorem fails_of_expression {statement : Statement} {expression : Expression}
    (begins : statement.expression? = some expression)
    (fails : FailsWith (fun steps => expression.evaluate (.ofProgram program rates steps)) machine
      error output) :
    FailsWith (fun steps => statement.execute (.ofProgram program rates steps) steps) machine error
      output := by
  cases statement with
  | assign | declare | leave =>
      cases begins
      simp only [execute]
      exact fails.bind _
  | branch | choice =>
      cases begins
      simp only [execute, Expression.test]
      exact (fails.bind _).bind _
  | loop condition body =>
      cases begins
      apply FailsWith.of_succ
      simp only [execute, repeatWhile_succ, Expression.test]
      exact (fails.succ.bind _).bind _
  | call | block => cases begins

def OpensScope : Statement → Prop
  | .loop _ _ | .block _ => True
  | _ => False

theorem execute_of_chosen {statement next : Statement} {expression : Expression} {value : Value}
    {setting : Setting} (begins : statement.expression? = some expression)
    (evaluated : expression.evaluate setting machine = .finished (.ok value) between)
    (isNext : statement.chosen? value = some next) (plain : ¬ statement.OpensScope)
    (repetitions : Nat) :
    statement.execute setting repetitions machine = next.execute setting repetitions between := by
  cases statement with
  | branch condition consequence =>
      cases begins
      simp only [chosen?] at isNext
      split at isNext <;> cases isNext
      rw [execute, bind_of_ok (Expression.test_of_evaluate evaluated), if_pos rfl]
  | choice condition consequence alternative =>
      cases begins
      simp only [chosen?] at isNext
      rw [execute]
      split at isNext <;> cases isNext
      · rw [bind_of_ok (Expression.test_of_evaluate evaluated), if_pos rfl]
      · rw [bind_of_ok (Expression.test_of_evaluate evaluated), if_neg Bool.false_ne_true]
  | loop => exact absurd trivial plain
  | assign | declare | leave | call | block => cases isNext

theorem fails_of_chosen {statement next : Statement} {expression : Expression} {value : Value}
    (begins : statement.expression? = some expression)
    (evaluated : expression.evaluate (.ofProgram program rates steps) machine =
      .finished (.ok value) between)
    (isNext : statement.chosen? value = some next)
    (fails : FailsWith (fun steps => next.execute (.ofProgram program rates steps) steps) between
      error output) :
    FailsWith (fun steps => statement.execute (.ofProgram program rates steps) steps) machine error
      output := by
  cases statement with
  | branch | choice =>
      rcases fails with ⟨least, failed⟩
      refine ⟨max least steps, fun more le => ?_⟩
      rcases Nat.max_le.mp le with ⟨enough, further⟩
      rcases failed more enough with ⟨last, ran, same⟩
      have evaluated := Expression.evaluate_of_le further evaluated
      exact ⟨last, (execute_of_chosen begins evaluated isNext not_false more).trans ran, same⟩
  | loop condition body =>
      cases begins
      simp only [chosen?] at isNext
      split at isNext <;> cases isNext
      apply FailsWith.of_succ
      simp only [execute, repeatWhile_succ] at fails ⊢
      exact (Expression.gives_of_test evaluated).succ.bind_fails (fails.succ.bind _)
  | assign | declare | leave | call | block => cases isNext

/-- The rounds of a loop before the one that fails do not keep the loop from failing. -/
theorem fails_of_repetition {condition : Expression} {body : List Statement} {further : Nat}
    (evaluated : condition.evaluate (.ofProgram program rates steps) machine =
      .finished (.ok (.bool true)) between)
    (executed : (Statement.block body).execute (.ofProgram program rates further) further between =
      .finished (.ok .proceed) after)
    (fails : FailsWith
      (fun steps => (Statement.loop condition body).execute (.ofProgram program rates steps) steps)
      after error output) :
    FailsWith
      (fun steps => (Statement.loop condition body).execute (.ofProgram program rates steps) steps)
      machine error output := by
  have gives := gives_of_finished executed
  apply FailsWith.of_succ
  simp only [execute, repeatWhile_succ] at fails gives ⊢
  refine (Expression.gives_of_test evaluated).succ.bind_fails (gives.succ.bind_fails ?_)
  -- The other rounds are one fewer, but may take as many steps as the whole loop.
  rcases fails with ⟨least, failed⟩
  refine ⟨least, fun steps le => ?_⟩
  rcases failed steps le with ⟨last, ran, same⟩
  exact ⟨last, repeatWhile_of_le (Nat.le_succ steps) ran, same⟩

end Statement

end

namespace Moment

def FailsWith (program : Program) (rates : Rates) (error : RuntimeError) (output : Output) :
    Moment → Prop
  | ⟨.evaluation expression, machine⟩ =>
      Action.FailsWith (fun steps => expression.evaluate (.ofProgram program rates steps)) machine
        error output
  | ⟨.evaluations expressions, machine⟩ =>
      Action.FailsWith
        (fun steps => Expression.evaluateAll (.ofProgram program rates steps) expressions) machine
        error output
  | ⟨.application callee arguments, machine⟩ =>
      Action.FailsWith
        (fun steps => (Setting.ofProgram program rates steps).apply callee arguments) machine error
        output
  | ⟨.execution statement, machine⟩ =>
      Action.FailsWith
        (fun steps => statement.execute (.ofProgram program rates steps) steps) machine error output
  | ⟨.executions statements, machine⟩ =>
      Action.FailsWith
        (fun steps => Statement.executeAll (.ofProgram program rates steps) steps statements)
        machine error output

variable {program : Program} {rates : Rates} {machine : Machine} {error : RuntimeError}
variable {output : Output}

theorem failsWith_of_call {activity : Activity} {function : String} {arguments : List Expression}
    (isCall : activity.call? = some (function, arguments))
    (fails : Action.FailsWith (fun steps => (Setting.ofProgram program rates steps).call function
      arguments.length (Expression.evaluateAll (.ofProgram program rates steps) arguments)) machine
      error output) :
    FailsWith program rates error output ⟨activity, machine⟩ := by
  cases activity with
  | evaluation expression =>
      cases expression <;> cases isCall
      simp only [FailsWith, Expression.evaluate]
      exact fails.bind _
  | execution statement =>
      cases statement <;> cases isCall
      simp only [FailsWith, Statement.execute]
      exact fails.bind _
  | evaluations | application | executions => cases isCall

theorem LeadsTo.fails {first second : Moment} (leads : first.LeadsTo program rates second)
    (fails : second.FailsWith program rates error output) :
    first.FailsWith program rates error output := by
  cases leads with
  | firstOperand isFirst => exact Expression.fails_of_firstOperand isFirst fails
  | secondOperand isFirst evaluated isSecond =>
      have gives := Expression.gives_of_finished evaluated
      exact Expression.fails_of_secondOperand isFirst gives isSecond fails
  | firstArgument =>
      simp only [FailsWith, Expression.evaluateAll]
      exact fails.bind _
  | furtherArguments evaluated =>
      simp only [FailsWith, Expression.evaluateAll]
      exact (Expression.gives_of_finished evaluated).bind_fails (fails.bind _)
  | arguments isCall found =>
      exact failsWith_of_call isCall (Setting.fails_of_arguments found fails)
  | application isCall found evaluated =>
      exact failsWith_of_call isCall (Setting.fails_of_application found evaluated fails)
  | body complete shallow bound => exact Definition.fails_of_body complete shallow bound fails
  | expression begins => exact Statement.fails_of_expression begins fails
  | chosen begins evaluated isNext => exact Statement.fails_of_chosen begins evaluated isNext fails
  | repetition evaluated executed => exact Statement.fails_of_repetition evaluated executed fails
  | block active =>
      simp only [FailsWith, Statement.execute]
      exact Action.FailsWith.inScope active fails
  | firstStatement =>
      simp only [FailsWith, Statement.executeAll]
      exact fails.bind _
  | furtherStatements executed =>
      simp only [FailsWith, Statement.executeAll]
      exact (Statement.gives_of_finished executed).bind_fails fails

/-- However deep inside an activity something fails, the activity itself does. -/
theorem fails_of_leadsTo {first last : Moment}
    (reached : Relation.ReflTransGen (LeadsTo program rates) first last)
    (fails : last.FailsWith program rates error output) :
    first.FailsWith program rates error output := by
  induction reached with
  | refl => exact fails
  | tail _ leads induction => exact induction (leads.fails fails)

end Moment

end Ducat
