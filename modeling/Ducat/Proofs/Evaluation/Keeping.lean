import Ducat.Proofs.Evaluation.Refinement.Call

/-! What actions do to their machine, whatever they finish with. A relation between the machine
before an action and the machine after it is kept by a whole expression or statement as soon as
its simplest actions keep it. -/

namespace Ducat

namespace Action

def Keeps {α : Type} (relation : Machine → Machine → Prop) (action : Action α) : Prop :=
  ∀ before result after, action before = .finished result after → relation before after

section

variable {relation : Machine → Machine → Prop} {α : Type}

theorem Keeps.mono {wider : Machine → Machine → Prop} {action : Action α}
    (kept : action.Keeps relation)
    (implies : ∀ before after, relation before after → wider before after) :
    action.Keeps wider :=
  fun before result after finished => implies before after (kept before result after finished)

variable [IsPreorder Machine relation]

theorem Keeps.refines {action : Action α} (kept : action.Keeps relation) {good : α → Prop}
    (isGood : ∀ value, good value) : action.Refines (.ofMoves relation) good action := by
  rintro before _ rfl result after finished
  exact ⟨after, finished, rfl, kept before result after finished, fun value _ => isGood value⟩

theorem Refines.keeps {action other : Action α} {good : α → Prop}
    (refines : action.Refines (.ofMoves relation) good other) : action.Keeps relation := by
  intro before result after finished
  rcases refines before before rfl result after finished with ⟨_, _, _, moved, _⟩
  exact moved

theorem currentCall_keeps : currentCall.Keeps relation := by
  intro before result after finished
  unfold currentCall at finished
  split at finished <;> cases finished <;> exact refl_of relation before

theorem updateCall_keeps (replaced : ∀ machine context, machine.calls ≠ [] →
      relation machine (machine.withCall context))
    (update : Context → Except RuntimeError Context) : (updateCall update).Keeps relation := by
  intro before result after finished
  cases active : before.calls with
  | nil =>
      rw [updateCall_of_idle active] at finished
      cases finished
      exact refl_of relation before
  | cons context outer =>
      cases updated : update context with
      | error error =>
          rw [updateCall_of_error active updated] at finished
          cases finished
          exact refl_of relation before
      | ok context =>
          rw [updateCall_of_ok active updated] at finished
          cases finished
          exact replaced before context (by simp [active])

end

end Action

namespace Coupling

variable {relation : Machine → Machine → Prop} [IsPreorder Machine relation]

theorem ofMoves_allowsReading : (ofMoves relation).AllowsReading Discipline.free.good := by
  have current : Action.currentCall.Keeps relation := Action.currentCall_keeps
  have allGood := Context.allGood_of_forall fun _ : Value => trivial
  exact Comparison.AllowsReading.of_currentCall (current.refines allGood).compares

theorem ofMoves_allowsStatements (replaced : ∀ machine context, machine.calls ≠ [] →
      relation machine (machine.withCall context)) :
    (ofMoves relation).AllowsStatements Discipline.free.good := by
  refine .of_updateCall ofMoves_allowsReading (fun update _ => ?_) ?_
  · exact (Action.updateCall_keeps replaced update).refines fun _ => trivial
  · rintro machine _ rfl
    refine ⟨rfl, ?_⟩
    cases active : machine.calls with
    | nil =>
        rw [Machine.closeScope_of_idle active]
        exact refl_of relation machine
    | cons context outer =>
        rw [Machine.closeScope_of_active active]
        exact replaced machine _ (by simp [active])

end Coupling

def Setting.Keeps (relation : Machine → Machine → Prop) (setting : Setting) : Prop :=
  ∀ callee arguments, (setting.apply callee arguments).Keeps relation

section

variable {relation : Machine → Machine → Prop} [IsPreorder Machine relation]
variable {setting : Setting}

theorem Setting.Keeps.refines (kept : setting.Keeps relation) :
    setting.Refines (.ofMoves relation) Discipline.free.good setting :=
  .of_apply (Discipline.free_allowsProgram _) rfl rfl fun callee arguments _ _ =>
    (kept callee arguments).refines fun _ _ _ => trivial

theorem Setting.call_keeps (kept : setting.Keeps relation) (function : String) (count : Nat)
    {arguments : Action (List Value)} (argumentsKept : arguments.Keeps relation) :
    (setting.call function count arguments).Keeps relation := by
  have called := kept.refines.call function count (argumentsKept.refines fun _ _ _ => trivial)
  exact called.keeps

/-- An expression changes the machine only through the functions that it calls. -/
theorem Expression.evaluate_keeps (kept : setting.Keeps relation) (expression : Expression) :
    (expression.evaluate setting).Keeps relation := by
  have evaluated := expression.evaluate_refines kept.refines Coupling.ofMoves_allowsReading trivial
  exact evaluated.keeps

theorem Expression.evaluateAll_keeps (kept : setting.Keeps relation)
    (expressions : List Expression) :
    (Expression.evaluateAll setting expressions).Keeps relation := by
  have evaluated := Expression.evaluateAll_refines kept.refines Coupling.ofMoves_allowsReading
    expressions fun _ _ => trivial
  exact evaluated.keeps

theorem Statement.execute_keeps (kept : setting.Keeps relation)
    (allows : (Coupling.ofMoves relation).AllowsStatements Discipline.free.good) (steps : Nat)
    (statement : Statement) : (statement.execute setting steps).Keeps relation := by
  have executed := statement.execute_refines kept.refines allows (Nat.le_refl steps) trivial
  exact executed.keeps

end

end Ducat
