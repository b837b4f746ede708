import Ducat.Proofs.Evaluation.Moment
import Ducat.Proofs.Evaluation.ScopeNames

/-! Whatever a running program evaluates or executes, it does so in an active call and an open
scope. -/

namespace Ducat

namespace Machine

def IsReady (machine : Machine) : Prop :=
  ∃ context outer, machine.calls = context :: outer ∧ context.scopes ≠ []

variable {machine before after : Machine}

theorem isReady_enterCall (machine : Machine) (scope : Scope) :
    (machine.enterCall (.ofScope scope)).IsReady :=
  ⟨.ofScope scope, machine.calls, rfl, List.cons_ne_nil _ _⟩

theorem isReady_openScope (machine : Machine) (context : Context) :
    (machine.withCall context.openScope).IsReady :=
  ⟨context.openScope, machine.calls.tail, rfl, List.cons_ne_nil _ _⟩

theorem IsReady.of_sameCalls (ready : before.IsReady) (same : before.SameCalls after) :
    after.IsReady := by
  rw [IsReady, same.calls]
  exact ready

theorem IsReady.of_gainsNames (ready : before.IsReady) (gains : before.GainsNames after) :
    after.IsReady := by
  rcases ready with ⟨context, outer, active, opened⟩
  rw [GainsNames, active] at gains
  generalize later : after.calls = calls at gains
  cases gains with
  | active names =>
      refine ⟨_, outer, later, fun closed => ?_⟩
      rw [Context.names, Context.names, closed] at names
      generalize earlier : context.scopes.map Scope.names = scopes at names
      cases names
      exact opened (List.map_eq_nil_iff.mp earlier)

end Machine

namespace Activity

/-- A function can be called while nothing else runs. All else is done in the call of a function. -/
def NeedsCall : Activity → Prop
  | application _ _ => False
  | _ => True

theorem needsCall_of_call? {activity : Activity} {function : String} {arguments : List Expression}
    (isCall : activity.call? = some (function, arguments)) : activity.NeedsCall := by
  cases activity with
  | application => cases isCall
  | _ => trivial

end Activity

namespace Moment

def IsReady (moment : Moment) : Prop := moment.activity.NeedsCall → moment.machine.IsReady

variable {program : Program} {rates : Rates}

theorem LeadsTo.ready {first second : Moment} (leads : first.LeadsTo program rates second)
    (ready : first.IsReady) : second.IsReady := by
  have evaluationKept := Setting.ofProgram_keeps_calls program rates
  have executionKept := Setting.ofProgram_gains_names program rates
  cases leads with
  | firstOperand | firstArgument | expression | firstStatement => exact ready
  | arguments isCall => exact fun _ => ready (Activity.needsCall_of_call? isCall)
  | application => exact nofun
  | body => exact fun _ => Machine.isReady_enterCall _ _
  | secondOperand _ evaluated | furtherArguments evaluated | chosen _ evaluated =>
      exact fun _ => (ready trivial).of_sameCalls
        (Expression.evaluate_keeps (evaluationKept _) _ _ _ _ evaluated)
  | repetition evaluated executed =>
      have between := (ready trivial).of_sameCalls
        (Expression.evaluate_keeps (evaluationKept _) _ _ _ _ evaluated)
      exact fun _ => between.of_gainsNames (Statement.execute_keeps (executionKept _)
        Coupling.gainsNames_allowsStatements _ _ _ _ _ executed)
  | block => exact fun _ => Machine.isReady_openScope _ _
  | furtherStatements executed =>
      exact fun _ => (ready trivial).of_gainsNames (Statement.execute_keeps (executionKept _)
        Coupling.gainsNames_allowsStatements _ _ _ _ _ executed)

theorem OfRun.ready {entry : String} {start : Machine} {moment : Moment}
    (reached : moment.OfRun program rates entry start) : moment.IsReady := by
  rcases reached with ⟨definition, _, reached⟩
  induction reached with
  | refl => exact nofun
  | tail _ leads induction => exact leads.ready induction

end Moment

end Ducat
