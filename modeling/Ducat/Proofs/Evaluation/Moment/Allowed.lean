import Ducat.Proofs.Evaluation.Goodness
import Ducat.Proofs.Evaluation.Moment

/-! The code of a program is allowed by a discipline at every moment of a run, and all values that
there are at the moment are good. -/

namespace Ducat

namespace Activity

def perform (setting : Setting) (steps : Nat) : Activity → Action (List Value)
  | evaluation expression => do return [← expression.evaluate setting]
  | evaluations expressions => Expression.evaluateAll setting expressions
  | application callee arguments => do return (← setting.apply callee arguments).toList
  | execution statement => do return (← statement.execute setting steps).value?.toList
  | executions statements => do
      return (← Statement.executeAll setting steps statements).value?.toList

theorem perform_refines_self {discipline : Discipline} {program : Program}
    (allowed : discipline.AllowsProgram program) (rates : Rates) (steps : Nat)
    {activity : Activity} (activityAllowed : discipline.AllowsActivity activity) :
    (activity.perform (.ofProgram program rates steps) steps).Refines (.ofGood discipline.good)
      (fun values => ∀ value ∈ values, discipline.good value)
      (activity.perform (.ofProgram program rates steps) steps) := by
  have same := Nat.le_refl steps
  have refines := Setting.ofProgram_refines_self allowed rates same
  have allows : (Coupling.ofGood discipline.good).AllowsStatements _ :=
    Coupling.ofGood_allowsStatements
  cases activity with
  | evaluation expression =>
      have evaluated := expression.evaluate_refines refines allows.read activityAllowed
      refine Action.bind_refines evaluated fun value isGood => ?_
      exact Action.pure_refines (List.forall_mem_singleton.mpr isGood)
  | evaluations expressions =>
      exact Expression.evaluateAll_refines refines allows.read expressions activityAllowed
  | application callee arguments =>
      have applied := Setting.ofProgram_apply_refines (Coupling.ofGood_allowsCalls program rates)
        allowed same callee arguments activityAllowed.1 activityAllowed.2
      refine Action.bind_refines applied fun result isGood => ?_
      exact Action.pure_refines fun value member => isGood value (Option.mem_toList.mp member)
  | execution statement =>
      have executed := statement.execute_refines refines allows same activityAllowed
      refine Action.bind_refines executed fun flow isGood => ?_
      exact Action.pure_refines fun value member => isGood value (Option.mem_toList.mp member)
  | executions statements =>
      have executed := Statement.executeAll_refines refines allows same statements activityAllowed
      refine Action.bind_refines executed fun flow isGood => ?_
      exact Action.pure_refines fun value member => isGood value (Option.mem_toList.mp member)

end Activity

structure Discipline.AllowsMoment (discipline : Discipline) (moment : Moment) : Prop where
  activity : discipline.AllowsActivity moment.activity
  machine : moment.machine.AllGood discipline.good

namespace Moment

variable {discipline : Discipline} {program : Program} {rates : Rates}

/-- What one activity does for the next one: it has evaluated or executed something before, or
passes on a part of its own code and the machine as it is. -/
theorem LeadsTo.allowed {first second : Moment} (leads : first.LeadsTo program rates second)
    (programAllowed : discipline.AllowsProgram program) (allowed : discipline.AllowsMoment first) :
    discipline.AllowsMoment second := by
  rcases allowed with ⟨allowed, allGood⟩
  cases leads with
  | firstOperand isFirst => exact ⟨discipline.firstOperand allowed isFirst, allGood⟩
  | secondOperand isFirst evaluated isSecond =>
      have operandAllowed := discipline.firstOperand allowed isFirst
      have after := Expression.evaluate_allGood programAllowed operandAllowed allGood evaluated
      exact ⟨discipline.secondOperand _ allowed isSecond, after.1⟩
  | firstArgument => exact ⟨(List.forall_mem_cons.mp allowed).1, allGood⟩
  | furtherArguments evaluated =>
      rcases List.forall_mem_cons.mp allowed with ⟨firstAllowed, restAllowed⟩
      have after := Expression.evaluate_allGood programAllowed firstAllowed allGood evaluated
      exact ⟨restAllowed, after.1⟩
  | arguments isCall => exact ⟨Discipline.AllowsActivity.arguments allowed isCall, allGood⟩
  | application isCall found evaluated =>
      have argumentsAllowed := Discipline.AllowsActivity.arguments allowed isCall
      have after := Expression.evaluateAll_allGood programAllowed argumentsAllowed allGood evaluated
      exact ⟨⟨programAllowed.callee found, after.2 _ rfl⟩, after.1⟩
  | body _ _ bound =>
      have scopeGood := Definition.bind_allGood allowed.2 bound
      exact ⟨allowed.1, allGood.enterCall (Context.allGood_ofScope scopeGood)⟩
  | expression begins => exact ⟨discipline.expression allowed begins, allGood⟩
  | chosen begins evaluated isNext =>
      have expressionAllowed := discipline.expression allowed begins
      have after := Expression.evaluate_allGood programAllowed expressionAllowed allGood evaluated
      exact ⟨discipline.chosen _ allowed isNext, after.1⟩
  | repetition evaluated executed =>
      have conditionAllowed := discipline.expression allowed rfl
      have bodyAllowed := discipline.chosen (.bool true) allowed rfl
      have between := Expression.evaluate_allGood programAllowed conditionAllowed allGood evaluated
      have after := Statement.execute_allGood programAllowed bodyAllowed between.1 executed
      exact ⟨allowed, after.1⟩
  | block active =>
      have contextGood := allGood _ (by rw [active]; exact List.mem_cons_self)
      exact ⟨discipline.block allowed, allGood.withCall contextGood.openScope⟩
  | firstStatement => exact ⟨(List.forall_mem_cons.mp allowed).1, allGood⟩
  | furtherStatements executed =>
      rcases List.forall_mem_cons.mp allowed with ⟨firstAllowed, restAllowed⟩
      have after := Statement.execute_allGood programAllowed firstAllowed allGood executed
      exact ⟨restAllowed, after.1⟩

theorem OfRun.allowed {entry : String} {start : Machine} {moment : Moment}
    (reached : moment.OfRun program rates entry start)
    (programAllowed : discipline.AllowsProgram program) (allGood : start.AllGood discipline.good) :
    discipline.AllowsMoment moment := by
  rcases reached with ⟨definition, found, reached⟩
  induction reached with
  | refl => exact ⟨⟨programAllowed entry definition found, by simp⟩, allGood⟩
  | tail _ leads induction => exact leads.allowed programAllowed induction

end Moment

end Ducat
