import Ducat.Proofs.Evaluation.Finishing
import Ducat.Proofs.Evaluation.Operation

/-! Where errors come from: a run that fails does so at one of its moments, at which an activity
fails that has not merely begun another one that does. -/

namespace Ducat

namespace Moment

/-- At the moment the error is raised by the activity itself, and not by one that it begins. -/
inductive Raises (program : Program) (rates : Rates) : Moment → RuntimeError → Prop where
  | reference {name : String} {machine after : Machine} {error : RuntimeError}
      (failed : Action.read name machine = .finished (.error error) after) :
      Raises program rates ⟨.evaluation (.reference name), machine⟩ error
  | firstOperand {expression first : Expression} {machine between : Machine} {value : Value}
      {error : RuntimeError} {steps : Nat} (isFirst : expression.firstOperand? = some first)
      (evaluated : first.evaluate (.ofProgram program rates steps) machine =
        .finished (.ok value) between)
      (noSecond : expression.secondOperand? value = none)
      (refused : expression.resultOfFirst rates value = .error error) :
      Raises program rates ⟨.evaluation expression, machine⟩ error
  | bothOperands {expression first second : Expression} {machine between after : Machine}
      {left right : Value} {error : RuntimeError} {steps : Nat}
      (isFirst : expression.firstOperand? = some first)
      (evaluated : first.evaluate (.ofProgram program rates steps) machine =
        .finished (.ok left) between)
      (isSecond : expression.secondOperand? left = some second)
      (alsoEvaluated : second.evaluate (.ofProgram program rates steps) between =
        .finished (.ok right) after)
      (refused : expression.resultOfBoth left right = .error error) :
      Raises program rates ⟨.evaluation expression, machine⟩ error
  | lookup {activity : Activity} {function : String} {arguments : List Expression}
      {machine : Machine} {error : RuntimeError}
      (isCall : activity.call? = some (function, arguments))
      (unknown : Callee.find program function arguments.length = .error error) :
      Raises program rates ⟨activity, machine⟩ error
  | missingValue {function : String} {arguments : List Expression}
      {machine after : Machine} {steps : Nat}
      (called : (Setting.ofProgram program rates steps).call function arguments.length
        (Expression.evaluateAll (.ofProgram program rates steps) arguments) machine =
          .finished (.ok none) after) :
      Raises program rates ⟨.evaluation (.call function arguments), machine⟩
        (.missingValue function)
  | builtin {builtin : Builtin} {arguments : List Value} {machine after : Machine}
      {error : RuntimeError}
      (failed : builtin.run arguments machine = .finished (.error error) after) :
      Raises program rates ⟨.application (.builtin builtin) arguments, machine⟩ error
  | argumentCount {definition : Definition} {arguments : List Value} {machine : Machine}
      (incomplete : definition.parameters.length ≠ arguments.length) :
      Raises program rates ⟨.application (.defined definition) arguments, machine⟩
        (.argumentCount definition.name definition.parameters.length arguments.length)
  | depth {definition : Definition} {arguments : List Value} {machine : Machine}
      (deep : maximumCallDepth ≤ machine.calls.length) :
      Raises program rates ⟨.application (.defined definition) arguments, machine⟩
        (.callDepthExceeded definition.name maximumCallDepth)
  | binding {definition : Definition} {arguments : List Value} {machine : Machine}
      {error : RuntimeError} (refused : definition.bind arguments = .error error) :
      Raises program rates ⟨.application (.defined definition) arguments, machine⟩ error
  | result {definition : Definition} {arguments : List Value} {scope : Scope}
      {machine after : Machine} {flow : Flow} {error : RuntimeError} {steps : Nat}
      (bound : definition.bind arguments = .ok scope)
      (executed : (Statement.block definition.body).execute (.ofProgram program rates steps) steps
        (machine.enterCall (.ofScope scope)) = .finished (.ok flow) after)
      (refused : definition.checkReturn flow = .error error) :
      Raises program rates ⟨.application (.defined definition) arguments, machine⟩ error
  | effect {statement : Statement} {expression : Expression} {machine between after : Machine}
      {value : Value} {error : RuntimeError} {steps : Nat}
      (begins : statement.expression? = some expression)
      (evaluated : expression.evaluate (.ofProgram program rates steps) machine =
        .finished (.ok value) between)
      (failed : statement.effect value between = .finished (.error error) after) :
      Raises program rates ⟨.execution statement, machine⟩ error
  | idle {statements : List Statement} {machine : Machine} (idle : machine.calls = []) :
      Raises program rates ⟨.execution (.block statements), machine⟩ .noActiveCall

def Incurs (program : Program) (rates : Rates) (moment : Moment) (error : RuntimeError) : Prop :=
  ∃ origin, Relation.ReflTransGen (LeadsTo program rates) moment origin ∧
    origin.Raises program rates error

variable {program : Program} {rates : Rates} {first second : Moment} {error : RuntimeError}

theorem Raises.incurs (raises : first.Raises program rates error) :
    first.Incurs program rates error :=
  ⟨first, .refl, raises⟩

theorem LeadsTo.incurs (leads : first.LeadsTo program rates second)
    (incurs : second.Incurs program rates error) : first.Incurs program rates error := by
  rcases incurs with ⟨origin, reached, raises⟩
  exact ⟨origin, .head leads reached, raises⟩

end Moment

def Activity.Accounts (program : Program) (rates : Rates) (activity : Activity) {α : Type}
    (action : Action α) : Prop :=
  ∀ machine error after, action machine = .finished (.error error) after →
    Moment.Incurs program rates ⟨activity, machine⟩ error

def Setting.CallsAccount (program : Program) (rates : Rates) (steps : Nat) : Prop :=
  ∀ callee values, (Activity.application callee values).Accounts program rates
    ((Setting.ofProgram program rates steps).apply callee values)

section

open Moment

variable {program : Program} {rates : Rates} {steps : Nat}

theorem Setting.CallsAccount.call (applied : CallsAccount program rates steps)
    {activity : Activity} {function : String} {arguments : List Expression}
    (isCall : activity.call? = some (function, arguments))
    (evaluated : (Activity.evaluations arguments).Accounts program rates
      (Expression.evaluateAll (.ofProgram program rates steps) arguments)) :
    activity.Accounts program rates ((Setting.ofProgram program rates steps).call function
      arguments.length (Expression.evaluateAll (.ofProgram program rates steps) arguments)) := by
  intro machine error after failed
  simp only [Setting.call, ofProgram] at failed
  cases found : Callee.find program function arguments.length with
  | error other =>
      rw [found] at failed
      cases failed
      exact (Raises.lookup isCall found).incurs
  | ok callee =>
      rw [found] at failed
      change (Expression.evaluateAll (.ofProgram program rates steps) arguments >>=
        (Setting.ofProgram program rates steps).apply callee) machine = _ at failed
      rcases Action.error_of_bind failed with failed | ⟨values, between, given, failed⟩
      · exact (LeadsTo.arguments isCall found).incurs (evaluated _ _ _ failed)
      · have incurs := applied callee values _ _ _ failed
        exact (LeadsTo.application isCall found given).incurs incurs

namespace Expression

theorem evaluate_accounts_of_operands {expression first : Expression}
    (isFirst : expression.firstOperand? = some first)
    (firstEvaluated : (Activity.evaluation first).Accounts program rates
      (first.evaluate (.ofProgram program rates steps)))
    (secondEvaluated : ∀ value second, expression.secondOperand? value = some second →
      (Activity.evaluation second).Accounts program rates
        (second.evaluate (.ofProgram program rates steps))) :
    (Activity.evaluation expression).Accounts program rates
      (expression.evaluate (.ofProgram program rates steps)) := by
  intro machine error after failed
  rw [evaluate_of_firstOperand isFirst] at failed
  rcases Action.error_of_bind failed with failed | ⟨value, between, evaluated, failed⟩
  · exact (LeadsTo.firstOperand isFirst).incurs (firstEvaluated _ _ _ failed)
  cases isSecond : expression.secondOperand? value with
  | none =>
      rw [isSecond] at failed
      exact (Raises.firstOperand isFirst evaluated isSecond (Action.error_of_lift failed)).incurs
  | some second =>
      rw [isSecond] at failed
      rcases Action.error_of_bind failed with failed | ⟨other, _, alsoEvaluated, failed⟩
      · exact (LeadsTo.secondOperand isFirst evaluated isSecond).incurs
          (secondEvaluated value second isSecond _ _ _ failed)
      · exact (Raises.bothOperands isFirst evaluated isSecond alsoEvaluated
          (Action.error_of_lift failed)).incurs

mutual

theorem evaluate_accounts (applied : Setting.CallsAccount program rates steps) :
    ∀ expression : Expression, (Activity.evaluation expression).Accounts program rates
      (expression.evaluate (.ofProgram program rates steps))
  | .literal constant => by
      intro machine error after failed
      rw [evaluate] at failed
      cases failed
  | .reference name => by
      intro machine error after failed
      rw [evaluate] at failed
      exact (Raises.reference failed).incurs
  | .call function arguments => by
      intro machine error after failed
      rw [evaluate] at failed
      rcases Action.error_of_bind failed with failed | ⟨result, between, called, failed⟩
      · exact applied.call rfl (evaluateAll_accounts applied arguments) _ _ _ failed
      · cases result <;> cases failed
        exact (Raises.missingValue called).incurs
  | .bracketed operand | .negation operand | .cast operand _ | .not operand =>
      evaluate_accounts_of_operands rfl (operand.evaluate_accounts applied) nofun
  | .arithmetic _ left right | .comparison _ left right =>
      evaluate_accounts_of_operands rfl (left.evaluate_accounts applied) fun _ _ isSecond => by
        cases isSecond
        exact right.evaluate_accounts applied
  | .logical _ left right =>
      evaluate_accounts_of_operands rfl (left.evaluate_accounts applied) fun _ _ isSecond => by
        rw [eq_of_secondOperand?_logical isSecond]
        exact right.evaluate_accounts applied

theorem evaluateAll_accounts (applied : Setting.CallsAccount program rates steps) :
    ∀ expressions : List Expression, (Activity.evaluations expressions).Accounts program rates
      (evaluateAll (.ofProgram program rates steps) expressions)
  | [] => by
      intro machine error after failed
      rw [evaluateAll] at failed
      cases failed
  | first :: rest => by
      intro machine error after failed
      rw [evaluateAll] at failed
      rcases Action.error_of_bind failed with failed | ⟨value, between, evaluated, failed⟩
      · exact LeadsTo.firstArgument.incurs (first.evaluate_accounts applied _ _ _ failed)
      rcases Action.error_of_bind failed with failed | ⟨values, _, _, failed⟩
      · exact (LeadsTo.furtherArguments evaluated).incurs
          (evaluateAll_accounts applied rest _ _ _ failed)
      · cases failed

end

end Expression

namespace Statement

variable {statement : Statement} {expression : Expression}

theorem incurs_of_expression (begins : statement.expression? = some expression)
    (evaluated : (Activity.evaluation expression).Accounts program rates
      (expression.evaluate (.ofProgram program rates steps))) :
    (Activity.execution statement).Accounts program rates
      (expression.evaluate (.ofProgram program rates steps)) :=
  fun machine error after failed =>
    (LeadsTo.expression begins).incurs (evaluated machine error after failed)

theorem incurs_of_test {continuation : Bool → Action Flow} {machine after : Machine}
    {error : RuntimeError} (begins : statement.expression? = some expression)
    (decides : ∀ value, statement.effect value = do
      let _ ← value.truth
      return ())
    (evaluated : (Activity.evaluation expression).Accounts program rates
      (expression.evaluate (.ofProgram program rates steps)))
    (failed : (expression.test (.ofProgram program rates steps) >>= continuation) machine =
      .finished (.error error) after)
    (behind : ∀ truth between, expression.evaluate (.ofProgram program rates steps) machine =
        .finished (.ok (.bool truth)) between →
      continuation truth between = .finished (.error error) after →
      Incurs program rates ⟨.execution statement, machine⟩ error) :
    Incurs program rates ⟨.execution statement, machine⟩ error := by
  rcases Action.error_of_bind failed with failed | ⟨truth, between, tested, failed⟩
  · rcases Action.error_of_bind failed with failed | ⟨value, between, given, failed⟩
    · exact incurs_of_expression begins evaluated _ _ _ failed
    · have refused : statement.effect value between = .finished (.error error) after := by
        rw [decides]
        exact Action.bind_of_error failed
      exact (Raises.effect begins given refused).incurs
  · exact behind truth between (Expression.evaluate_of_test tested) failed

theorem effect_accounts (begins : statement.expression? = some expression)
    (evaluated : (Activity.evaluation expression).Accounts program rates
      (expression.evaluate (.ofProgram program rates steps))) :
    (Activity.execution statement).Accounts program rates (do
      let value ← expression.evaluate (.ofProgram program rates steps)
      statement.effect value
      return Flow.proceed) := by
  intro machine error after failed
  rcases Action.error_of_bind failed with failed | ⟨value, between, given, failed⟩
  · exact incurs_of_expression begins evaluated _ _ _ failed
  rcases Action.error_of_bind failed with failed | ⟨_, _, _, failed⟩
  · exact (Raises.effect begins given failed).incurs
  · cases failed

theorem block_accounts {statements : List Statement}
    (executed : (Activity.executions statements).Accounts program rates
      (executeAll (.ofProgram program rates steps) steps statements)) :
    (Activity.execution (.block statements)).Accounts program rates
      ((block statements).execute (.ofProgram program rates steps) steps) := by
  intro machine error after failed
  rw [execute] at failed
  cases active : machine.calls with
  | nil =>
      rw [Action.inScope_of_idle _ active] at failed
      cases failed
      exact (Raises.idle active).incurs
  | cons context outer =>
      rw [Action.inScope_of_active _ active] at failed
      rcases Action.exists_of_restoring failed with ⟨between, ran, _⟩
      exact (LeadsTo.block active).incurs (executed _ _ _ ran)

theorem repeatWhile_accounts {condition : Expression} {body : List Statement}
    (evaluated : (Activity.evaluation condition).Accounts program rates
      (condition.evaluate (.ofProgram program rates steps)))
    (executed : (Activity.execution (.block body)).Accounts program rates
      ((block body).execute (.ofProgram program rates steps) steps)) (repetitions : Nat) :
    (Activity.execution (.loop condition body)).Accounts program rates
      (repeatWhile (condition.test (.ofProgram program rates steps))
        ((block body).execute (.ofProgram program rates steps) steps) repetitions) := by
  -- The induction is on the repetitions, of which each leads to the next one.
  induction repetitions with
  | zero =>
      intro machine error after failed
      cases failed
  | succ repetitions induction =>
      intro machine error after failed
      rw [repeatWhile_succ] at failed
      refine incurs_of_test rfl (fun _ => rfl) evaluated failed fun truth between given failed => ?_
      cases truth with
      | false => cases failed
      | true =>
          rcases Action.error_of_bind failed with failed | ⟨flow, last, repeated, failed⟩
          · exact (LeadsTo.chosen rfl given rfl).incurs (executed _ _ _ failed)
          cases flow with
          | proceed =>
              exact (LeadsTo.repetition given repeated).incurs (induction _ _ _ failed)
          | leave => cases failed

mutual

theorem execute_accounts (applied : Setting.CallsAccount program rates steps) :
    ∀ statement : Statement, (Activity.execution statement).Accounts program rates
      (statement.execute (.ofProgram program rates steps) steps)
  | .assign name value => by
      rw [execute]
      exact effect_accounts rfl (value.evaluate_accounts applied)
  | .declare type name value => by
      rw [execute, ← funext (execute_declare_effect type name value)]
      exact effect_accounts rfl (value.evaluate_accounts applied)
  | .leave none => by
      intro machine error after failed
      rw [execute] at failed
      cases failed
  | .leave (some value) => by
      intro machine error after failed
      rw [execute] at failed
      rcases Action.error_of_bind failed with failed | ⟨value, between, given, failed⟩
      · exact incurs_of_expression rfl (Expression.evaluate_accounts applied _) _ _ _ failed
      · cases failed
  | .branch condition consequence => by
      intro machine error after failed
      rw [execute] at failed
      refine incurs_of_test rfl (fun _ => rfl) (condition.evaluate_accounts applied) failed
        fun truth between given failed => ?_
      cases truth with
      | true =>
          exact (LeadsTo.chosen rfl given rfl).incurs
            (consequence.execute_accounts applied _ _ _ failed)
      | false => cases failed
  | .choice condition consequence alternative => by
      intro machine error after failed
      rw [execute] at failed
      refine incurs_of_test rfl (fun _ => rfl) (condition.evaluate_accounts applied) failed
        fun truth between given failed => ?_
      cases truth with
      | true =>
          exact (LeadsTo.chosen rfl given rfl).incurs
            (consequence.execute_accounts applied _ _ _ failed)
      | false =>
          exact (LeadsTo.chosen rfl given rfl).incurs
            (alternative.execute_accounts applied _ _ _ failed)
  | .loop condition body => by
      rw [execute]
      have repeated := repeatWhile_accounts (condition.evaluate_accounts applied)
        (block_accounts (executeAll_accounts applied body)) steps
      rw [execute] at repeated
      exact repeated
  | .call function arguments => by
      intro machine error after failed
      rw [execute] at failed
      rcases Action.error_of_bind failed with failed | ⟨_, _, _, failed⟩
      · exact applied.call rfl (Expression.evaluateAll_accounts applied arguments) _ _ _ failed
      · cases failed
  | .block statements => block_accounts (executeAll_accounts applied statements)

theorem executeAll_accounts (applied : Setting.CallsAccount program rates steps) :
    ∀ statements : List Statement, (Activity.executions statements).Accounts program rates
      (executeAll (.ofProgram program rates steps) steps statements)
  | [] => by
      intro machine error after failed
      rw [executeAll] at failed
      cases failed
  | first :: rest => by
      intro machine error after failed
      rw [executeAll] at failed
      rcases Action.error_of_bind failed with failed | ⟨flow, between, executed, failed⟩
      · exact LeadsTo.firstStatement.incurs (first.execute_accounts applied _ _ _ failed)
      cases flow with
      | proceed =>
          exact (LeadsTo.furtherStatements executed).incurs
            (executeAll_accounts applied rest _ _ _ failed)
      | leave => cases failed

end

end Statement

namespace Setting

theorem builtin_accounts (builtin : Builtin) (values : List Value) :
    (Activity.application (.builtin builtin) values).Accounts program rates (builtin.run values) :=
  fun _ _ _ failed => (Raises.builtin failed).incurs

theorem callsAccount_zero : CallsAccount program rates 0 := by
  intro callee values
  cases callee with
  | builtin builtin => exact builtin_accounts builtin values
  | defined definition =>
      intro machine error after failed
      cases failed

theorem CallsAccount.succ (applied : CallsAccount program rates steps) :
    CallsAccount program rates (steps + 1) := by
  intro callee values
  cases callee with
  | builtin builtin => exact builtin_accounts builtin values
  | defined definition =>
      intro machine error after failed
      simp only [apply, ofProgram, Definition.invoke_succ, checkArgumentCount] at failed
      by_cases complete : definition.parameters.length = values.length
      case neg =>
        rw [if_neg complete] at failed
        cases failed
        exact (Raises.argumentCount complete).incurs
      rw [if_pos complete] at failed
      change (Action.checkDepth definition.name >>= _) machine = _ at failed
      by_cases deep : maximumCallDepth ≤ machine.calls.length
      case pos =>
        rw [Action.bind_of_error (Action.checkDepth_of_deep deep _)] at failed
        cases failed
        exact (Raises.depth deep).incurs
      have shallow := Nat.lt_of_not_le deep
      rw [Action.bind_of_ok (Action.checkDepth_of_shallow shallow _)] at failed
      cases bound : definition.bind values with
      | error other =>
          rw [bound] at failed
          cases failed
          exact (Raises.binding bound).incurs
      | ok scope =>
          rw [bound] at failed
          change (Action.inCall scope _ >>= _) machine = _ at failed
          have executed := Statement.execute_accounts applied (.block definition.body)
          rw [Statement.execute] at executed
          rcases Action.error_of_bind failed with failed | ⟨flow, _, called, failed⟩
          · rcases Action.exists_of_restoring failed with ⟨between, ran, _⟩
            exact (LeadsTo.body complete shallow bound).incurs (executed _ _ _ ran)
          · rcases Action.exists_of_restoring called with ⟨between, ran, _⟩
            exact (Raises.result bound ran (Action.error_of_lift failed)).incurs

theorem callsAccount (program : Program) (rates : Rates) (steps : Nat) :
    CallsAccount program rates steps := by
  induction steps with
  | zero => exact callsAccount_zero
  | succ steps induction => exact induction.succ

/-- A run that fails does so at one of its moments, unless there is nothing to be run. -/
theorem error_of_enter {entry : String} {start after : Machine} {error : RuntimeError}
    (failed : (ofProgram program rates steps).enter entry start =
      .finished (.error error) after) :
    error = .missingEntry entry ∨
      ∃ moment : Moment, moment.OfRun program rates entry start ∧
        moment.Raises program rates error := by
  simp only [enter, ofProgram] at failed
  cases found : program.definition? entry with
  | none =>
      rw [found] at failed
      cases failed
      exact .inl rfl
  | some definition =>
      rw [found] at failed
      rcases Action.error_of_bind failed with failed | ⟨_, _, _, failed⟩
      · rcases callsAccount program rates steps (.defined definition) [] _ _ _ failed with
          ⟨origin, reached, raises⟩
        exact .inr ⟨origin, ⟨definition, found, reached⟩, raises⟩
      · cases failed

end Setting

end

end Ducat
