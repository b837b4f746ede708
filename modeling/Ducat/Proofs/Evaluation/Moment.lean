import Ducat.Proofs.Evaluation.Activity
import Ducat.Proofs.Evaluation.Frame

/-! The moments of a run: all that is evaluated, executed or called in the course of it, together
with the machine as it is when that begins. -/

namespace Ducat

structure Moment where
  activity : Activity
  machine : Machine

namespace Moment

/-- The activity of the first moment begins that of the second one by itself. -/
inductive LeadsTo (program : Program) (rates : Rates) : Moment → Moment → Prop where
  | firstOperand {expression first : Expression} {machine : Machine}
      (isFirst : expression.firstOperand? = some first) :
      LeadsTo program rates ⟨.evaluation expression, machine⟩ ⟨.evaluation first, machine⟩
  | secondOperand {expression first second : Expression} {machine after : Machine}
      {value : Value} {steps : Nat} (isFirst : expression.firstOperand? = some first)
      (evaluated : first.evaluate (.ofProgram program rates steps) machine =
        .finished (.ok value) after)
      (isSecond : expression.secondOperand? value = some second) :
      LeadsTo program rates ⟨.evaluation expression, machine⟩ ⟨.evaluation second, after⟩
  | firstArgument {first : Expression} {rest : List Expression} {machine : Machine} :
      LeadsTo program rates ⟨.evaluations (first :: rest), machine⟩ ⟨.evaluation first, machine⟩
  | furtherArguments {first : Expression} {rest : List Expression} {machine after : Machine}
      {value : Value} {steps : Nat}
      (evaluated : first.evaluate (.ofProgram program rates steps) machine =
        .finished (.ok value) after) :
      LeadsTo program rates ⟨.evaluations (first :: rest), machine⟩ ⟨.evaluations rest, after⟩
  | arguments {activity : Activity} {function : String} {arguments : List Expression}
      {callee : Callee} {machine : Machine}
      (isCall : activity.call? = some (function, arguments))
      (found : Callee.find program function arguments.length = .ok callee) :
      LeadsTo program rates ⟨activity, machine⟩ ⟨.evaluations arguments, machine⟩
  | application {activity : Activity} {function : String} {arguments : List Expression}
      {callee : Callee} {machine after : Machine} {values : List Value} {steps : Nat}
      (isCall : activity.call? = some (function, arguments))
      (found : Callee.find program function arguments.length = .ok callee)
      (evaluated : Expression.evaluateAll (.ofProgram program rates steps) arguments machine =
        .finished (.ok values) after) :
      LeadsTo program rates ⟨activity, machine⟩ ⟨.application callee values, after⟩
  | body {definition : Definition} {arguments : List Value} {scope : Scope} {machine : Machine}
      (complete : definition.parameters.length = arguments.length)
      (shallow : machine.calls.length < maximumCallDepth)
      (bound : definition.bind arguments = .ok scope) :
      LeadsTo program rates ⟨.application (.defined definition) arguments, machine⟩
        ⟨.execution (.block definition.body), machine.enterCall (.ofScope scope)⟩
  | expression {statement : Statement} {expression : Expression} {machine : Machine}
      (begins : statement.expression? = some expression) :
      LeadsTo program rates ⟨.execution statement, machine⟩ ⟨.evaluation expression, machine⟩
  | chosen {statement next : Statement} {expression : Expression} {machine after : Machine}
      {value : Value} {steps : Nat} (begins : statement.expression? = some expression)
      (evaluated : expression.evaluate (.ofProgram program rates steps) machine =
        .finished (.ok value) after)
      (isNext : statement.chosen? value = some next) :
      LeadsTo program rates ⟨.execution statement, machine⟩ ⟨.execution next, after⟩
  | repetition {condition : Expression} {body : List Statement}
      {machine between after : Machine} {steps further : Nat}
      (evaluated : condition.evaluate (.ofProgram program rates steps) machine =
        .finished (.ok (.bool true)) between)
      (executed : (Statement.block body).execute (.ofProgram program rates further) further
        between = .finished (.ok .proceed) after) :
      LeadsTo program rates ⟨.execution (.loop condition body), machine⟩
        ⟨.execution (.loop condition body), after⟩
  | block {statements : List Statement} {machine : Machine} {context : Context}
      {outer : List Context} (active : machine.calls = context :: outer) :
      LeadsTo program rates ⟨.execution (.block statements), machine⟩
        ⟨.executions statements, machine.withCall context.openScope⟩
  | firstStatement {first : Statement} {rest : List Statement} {machine : Machine} :
      LeadsTo program rates ⟨.executions (first :: rest), machine⟩ ⟨.execution first, machine⟩
  | furtherStatements {first : Statement} {rest : List Statement} {machine after : Machine}
      {steps : Nat}
      (executed : first.execute (.ofProgram program rates steps) steps machine =
        .finished (.ok .proceed) after) :
      LeadsTo program rates ⟨.executions (first :: rest), machine⟩ ⟨.executions rest, after⟩

/-- One of the moments of the run from the given function, which is called in `start`. -/
def OfRun (program : Program) (rates : Rates) (entry : String) (start : Machine)
    (moment : Moment) : Prop :=
  ∃ definition, program.definition? entry = some definition ∧
    Relation.ReflTransGen (LeadsTo program rates)
      ⟨.application (.defined definition) [], start⟩ moment

end Moment

def Machine.SameHeight (before after : Machine) : Prop :=
  after.calls.length = before.calls.length

instance : IsPreorder Machine Machine.SameHeight where
  refl _ := rfl
  trans _ _ _ earlier later := later.trans earlier

theorem Coupling.sameHeight_allowsStatements :
    (ofMoves Machine.SameHeight).AllowsStatements Discipline.free.good := by
  refine ofMoves_allowsStatements fun machine context active => ?_
  cases calls : machine.calls with
  | nil => exact absurd calls active
  | cons => simp [Machine.SameHeight, Machine.withCall, calls]

namespace Moment

variable {program : Program} {rates : Rates}

/-- Calls are nested by the bodies of functions, and not beyond the maximum. -/
theorem LeadsTo.height {first second : Moment} (leads : first.LeadsTo program rates second) :
    first.machine.SameHeight second.machine ∨
      first.machine.calls.length < maximumCallDepth ∧
        second.machine.calls.length = first.machine.calls.length + 1 := by
  have kept : ∀ steps, (Setting.ofProgram program rates steps).Keeps Machine.SameHeight :=
    fun steps callee arguments =>
      (Setting.ofProgram_keeps_calls program rates steps callee arguments).mono
        fun _ _ same => congrArg List.length same.calls
  cases leads with
  | firstOperand | firstArgument | arguments | expression | firstStatement => exact .inl rfl
  | secondOperand _ evaluated | furtherArguments evaluated | chosen _ evaluated =>
      exact .inl (Expression.evaluate_keeps (kept _) _ _ _ _ evaluated)
  | application _ _ evaluated =>
      exact .inl (Expression.evaluateAll_keeps (kept _) _ _ _ _ evaluated)
  | body _ shallow => exact .inr ⟨shallow, rfl⟩
  | repetition evaluated executed =>
      have tested := Expression.evaluate_keeps (kept _) _ _ _ _ evaluated
      have repeated := Statement.execute_keeps (kept _)
        Coupling.sameHeight_allowsStatements _ _ _ _ _ executed
      exact .inl (trans_of Machine.SameHeight tested repeated)
  | block active => exact .inl (by simp [Machine.SameHeight, Machine.withCall, active])
  | furtherStatements executed =>
      exact .inl (Statement.execute_keeps (kept _)
        Coupling.sameHeight_allowsStatements _ _ _ _ _ executed)

theorem OfRun.height {entry : String} {start : Machine} {moment : Moment}
    (reached : moment.OfRun program rates entry start) :
    moment.machine.calls.length ≤ max maximumCallDepth start.calls.length := by
  rcases reached with ⟨definition, _, reached⟩
  induction reached with
  | refl => exact Nat.le_max_right _ _
  | tail _ leads induction =>
      rcases leads.height with same | ⟨shallow, deeper⟩
      · rw [same]
        exact induction
      · rw [deeper]
        exact Nat.le_trans shallow (Nat.le_max_left _ _)

end Moment

end Ducat
