import Ducat.Proofs.Evaluation.Comparison.Call
import Ducat.Proofs.Evaluation.Refinement

/-! Calls in two runs. While a function runs, its machines may be coupled otherwise than those that
called it. -/

namespace Ducat

namespace Coupling

/-- Functions that refine themselves from machines coupled by `outer` do so as well from machines
coupled by `inner`, which leaves them less to be linked. -/
def CarriesCalls (outer inner : Coupling) (program : Program) (rates : Rates) : Prop :=
  ∀ {callee : Callee} {arguments : List Value} {steps more : Nat} {good : Option Value → Prop},
    ((Setting.ofProgram program rates steps).apply callee arguments).Refines outer good
        ((Setting.ofProgram program rates more).apply callee arguments) →
      ((Setting.ofProgram program rates steps).apply callee arguments).Refines inner good
        ((Setting.ofProgram program rates more).apply callee arguments)

structure AllowsEntering (outer inner : Coupling) (good : Value → Prop) : Prop where
  enter : ∀ machine other scope, Scope.AllGood good scope → outer.linked machine other →
    inner.linked (machine.enterCall (.ofScope scope)) (other.enterCall (.ofScope scope))
  leave : ∀ machine other, inner.linked machine other →
    outer.linked machine.leaveCall other.leaveCall
  moved : ∀ machine context after, inner.moves (machine.enterCall context) after →
    outer.moves machine after.leaveCall

structure AllowsCalls (outer inner : Coupling) (good : Value → Prop) (program : Program)
    (rates : Rates) : Prop extends AllowsEntering outer inner good where
  carried : outer.CarriesCalls inner program rates
  statements : inner.AllowsStatements good
  depth : ∀ machine other, outer.linked machine other →
    machine.calls.length = other.calls.length
  writeLine : ∀ text,
    (Action.writeLine text).Refines outer (fun _ => True) (Action.writeLine text)
  flush : Action.flush.Refines outer (fun _ => True) Action.flush

end Coupling

section

variable {outer inner : Coupling} {discipline : Discipline} {program : Program} {rates : Rates}
variable {steps more : Nat}

namespace Action

theorem callDepth_refines (depth : ∀ machine other, outer.linked machine other →
      machine.calls.length = other.calls.length) :
    callDepth.Refines outer (fun _ => True) callDepth := by
  intro machine other linked result after finished
  cases finished
  refine ⟨other, ?_, linked, outer.refl machine, fun _ _ => trivial⟩
  rw [callDepth, depth machine other linked]

theorem checkDepth_refines (depth : ∀ machine other, outer.linked machine other →
      machine.calls.length = other.calls.length) (function : String) :
    (checkDepth function).Refines outer (fun _ => True) (checkDepth function) := by
  refine bind_refines (callDepth_refines depth) fun height _ => ?_
  split
  · exact fail_refines _
  · exact pure_refines trivial

theorem inCall_refines {α : Type} {good : Value → Prop} {goodResult : α → Prop}
    {action other : Action α} {scope : Scope} (allows : outer.AllowsEntering inner good)
    (refines : action.Refines inner goodResult other) (scopeGood : Scope.AllGood good scope) :
    (inCall scope action).Refines outer goodResult (inCall scope other) := by
  intro machine otherMachine linked result after finished
  rw [inCall_eq_restoring] at finished ⊢
  rcases exists_of_restoring finished with ⟨between, ran, rfl⟩
  have entered := allows.enter machine otherMachine scope scopeGood linked
  rcases refines _ _ entered result between ran with
    ⟨otherBetween, otherRan, stillLinked, moved, isGood⟩
  exact ⟨_, restoring_of_finished otherRan, allows.leave between otherBetween stillLinked,
    allows.moved machine _ between moved, isGood⟩

end Action

theorem Coupling.AllowsCalls.compares
    (allows : outer.AllowsCalls inner discipline.good program rates) :
    outer.comparison.AllowsCalls inner.comparison discipline.good program rates rates where
  carried := allows.carried
  statements := allows.statements.compares
  checkDepth := Action.checkDepth_refines allows.depth
  inCall scopeGood refines :=
    Action.inCall_refines allows.toAllowsEntering refines scopeGood
  writeLine := allows.writeLine
  flush := allows.flush

namespace Setting

theorem ofProgram_apply_refines (allows : outer.AllowsCalls inner discipline.good program rates)
    (allowed : discipline.AllowsProgram program) (le : steps ≤ more) :
    ∀ callee arguments, discipline.AllowsCallee callee →
      (∀ value ∈ arguments, discipline.good value) →
      ((ofProgram program rates steps).apply callee arguments).Refines outer
        (fun result => ∀ value ∈ result, discipline.good value)
        ((ofProgram program rates more).apply callee arguments) :=
  ofProgram_apply_compares allows.compares allowed (discipline.sameCasts_self rates) le

theorem ofProgram_refines (allows : outer.AllowsCalls inner discipline.good program rates)
    (allowed : discipline.AllowsProgram program) (le : steps ≤ more) {coupling : Coupling}
    (carried : outer.CarriesCalls coupling program rates) :
    (ofProgram program rates steps).Refines coupling discipline.good
      (.ofProgram program rates more) :=
  Compares.refines
    (ofProgram_compares allows.compares allowed (discipline.sameCasts_self rates) le carried) rfl

theorem enter_refines (allows : outer.AllowsCalls inner discipline.good program rates)
    (allowed : discipline.AllowsProgram program) (le : steps ≤ more) (entry : String) :
    ((ofProgram program rates steps).enter entry).Refines outer
      (fun result => ∀ value ∈ result, discipline.good value)
      ((ofProgram program rates more).enter entry) :=
  enter_compares allows.compares allowed (discipline.sameCasts_self rates) le entry

end Setting

end

end Ducat
