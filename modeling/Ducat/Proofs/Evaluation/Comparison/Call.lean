import Ducat.Proofs.Evaluation.Comparison

/-! Calls in two runs. What a function does while it runs may be compared in another way than the
calls of it. -/

namespace Ducat

namespace Action

def checkDepth (function : String) : Action Unit := do
  if maximumCallDepth ≤ (← callDepth) then fail (.callDepthExceeded function maximumCallDepth)

variable {machine : Machine}

theorem checkDepth_apply (function : String) (machine : Machine) :
    checkDepth function machine =
      (if maximumCallDepth ≤ machine.calls.length then
        fail (.callDepthExceeded function maximumCallDepth)
      else pure () : Action Unit) machine := rfl

theorem checkDepth_of_deep (deep : maximumCallDepth ≤ machine.calls.length) (function : String) :
    checkDepth function machine =
      .finished (.error (.callDepthExceeded function maximumCallDepth)) machine := by
  rw [checkDepth_apply, if_pos deep]
  rfl

theorem checkDepth_of_shallow (shallow : machine.calls.length < maximumCallDepth)
    (function : String) : checkDepth function machine = .finished (.ok ()) machine := by
  rw [checkDepth_apply, if_neg (Nat.not_le_of_lt shallow)]
  rfl

theorem eq_of_checkDepth {function : String} {after : Machine} {result : Except RuntimeError Unit}
    (finished : checkDepth function machine = .finished result after) : after = machine := by
  by_cases deep : maximumCallDepth ≤ machine.calls.length
  · rw [checkDepth_of_deep deep] at finished
    cases finished
    rfl
  · rw [checkDepth_of_shallow (Nat.lt_of_not_le deep)] at finished
    cases finished
    rfl

end Action

theorem Definition.invoke_succ (program : Program) (rates : Rates) (steps : Nat)
    (definition : Definition) (arguments : List Value) :
    invoke program rates (steps + 1) definition arguments = (do
      checkArgumentCount definition.name definition.parameters.length arguments.length
      Action.checkDepth definition.name
      let scope ← definition.bind arguments
      let flow ← Action.inCall scope
        (Statement.executeBlock (.ofProgram program rates steps) steps definition.body)
      definition.checkReturn flow) := by
  funext machine
  rw [invoke]
  cases checkArgumentCount definition.name definition.parameters.length arguments.length with
  | error error => rfl
  | ok counted =>
      change (if maximumCallDepth ≤ machine.calls.length then _ else _ : Action _) machine =
        (Action.checkDepth definition.name >>= _) machine
      by_cases deep : maximumCallDepth ≤ machine.calls.length
      · rw [if_pos deep, Action.bind_of_error (Action.checkDepth_of_deep deep _)]
        rfl
      · have shallow := Nat.lt_of_not_le deep
        rw [if_neg deep, Action.bind_of_ok (Action.checkDepth_of_shallow shallow _)]
        rfl

namespace Comparison

/-- Functions that compare to themselves by `outer` do so as well by `inner`, which asks less of
them. -/
def CarriesCalls (outer inner : Comparison) (program : Program) (rates otherRates : Rates) :
    Prop :=
  ∀ {callee : Callee} {arguments : List Value} {steps more : Nat} {good : Option Value → Prop},
    ((Setting.ofProgram program rates steps).apply callee arguments).Compares outer good
        ((Setting.ofProgram program otherRates more).apply callee arguments) →
      ((Setting.ofProgram program rates steps).apply callee arguments).Compares inner good
        ((Setting.ofProgram program otherRates more).apply callee arguments)

/-- Functions compare to themselves by `outer` if their bodies do so by `inner`. -/
structure AllowsCalls (outer inner : Comparison) (good : Value → Prop) (program : Program)
    (rates otherRates : Rates) : Prop where
  carried : outer.CarriesCalls inner program rates otherRates
  statements : inner.AllowsStatements good
  checkDepth : ∀ function,
    (Action.checkDepth function).Compares outer (fun _ => True) (Action.checkDepth function)
  inCall : ∀ {action other : Action Flow} {scope : Scope}, Scope.AllGood good scope →
    action.Compares inner (Flow.AllGood good) other →
      (Action.inCall scope action).Compares outer (Flow.AllGood good) (Action.inCall scope other)
  writeLine : ∀ text,
    (Action.writeLine text).Compares outer (fun _ => True) (Action.writeLine text)
  flush : Action.flush.Compares outer (fun _ => True) Action.flush

end Comparison

section

variable {outer inner : Comparison} {discipline : Discipline} {program : Program}
variable {rates otherRates : Rates} {steps more : Nat}

namespace Builtin

theorem run_compares (allows : outer.AllowsCalls inner discipline.good program rates otherRates)
    (builtin : Builtin) (arguments : List Value) :
    (builtin.run arguments).Compares outer (fun result => ∀ value ∈ result, discipline.good value)
      (builtin.run arguments) := by
  have written : ∀ values : List Value,
      (writeLines values).Compares outer (fun _ => True) (writeLines values) := by
    intro values
    induction values with
    | nil => exact Action.pure_compares trivial
    | cons value rest induction =>
        exact Action.bind_compares (allows.writeLine value.text) fun _ _ => induction
  cases builtin with
  | print =>
      refine Action.bind_compares (written arguments) fun _ _ => ?_
      refine Action.bind_compares allows.flush fun _ _ => ?_
      exact Action.pure_compares (by simp)
  | typeOf =>
      apply Action.pure_compares
      intro value member
      rcases Option.map_eq_some_iff.mp member with ⟨argument, _, rfl⟩
      exact discipline.text _

end Builtin

namespace Setting

theorem ofProgram_compares_of_apply (allowed : discipline.AllowsProgram program)
    (casts : discipline.SameCasts rates otherRates)
    (applied : ∀ callee arguments, discipline.AllowsCallee callee →
      (∀ value ∈ arguments, discipline.good value) →
      ((Setting.ofProgram program rates steps).apply callee arguments).Compares outer
        (fun result => ∀ value ∈ result, discipline.good value)
        ((Setting.ofProgram program otherRates more).apply callee arguments))
    {comparison : Comparison} (carried : outer.CarriesCalls comparison program rates otherRates) :
    (ofProgram program rates steps).Compares comparison discipline
      (.ofProgram program otherRates more) :=
  .of_apply allowed rfl casts fun callee arguments calleeAllowed isGood =>
    carried (applied callee arguments calleeAllowed isGood)

theorem ofProgram_apply_compares
    (allows : outer.AllowsCalls inner discipline.good program rates otherRates)
    (allowed : discipline.AllowsProgram program) (casts : discipline.SameCasts rates otherRates)
    (le : steps ≤ more) :
    ∀ callee arguments, discipline.AllowsCallee callee →
      (∀ value ∈ arguments, discipline.good value) →
      ((ofProgram program rates steps).apply callee arguments).Compares outer
        (fun result => ∀ value ∈ result, discipline.good value)
        ((ofProgram program otherRates more).apply callee arguments) := by
  -- The induction is on the steps: the calls in a body are allowed one step less.
  induction steps generalizing more with
  | zero =>
      intro callee arguments _ _
      cases callee with
      | builtin builtin => exact builtin.run_compares allows arguments
      | defined definition => exact Action.exhaust_compares _
  | succ steps induction =>
      intro callee arguments calleeAllowed argumentsGood
      cases callee with
      | builtin builtin => exact builtin.run_compares allows arguments
      | defined definition =>
          rcases more with _ | more
          · omega
          have fewer : steps ≤ more := by omega
          have compares := ofProgram_compares_of_apply allowed casts (induction fewer)
            allows.carried
          have executed := Statement.execute_compares compares allows.statements fewer
            (.block definition.body) calleeAllowed
          rw [Statement.execute, Statement.execute] at executed
          have bound : ∀ scope, definition.bind arguments = .ok scope →
              Scope.AllGood discipline.good scope :=
            fun scope => Definition.bind_allGood argumentsGood
          simp only [apply, ofProgram, Definition.invoke_succ]
          refine Action.bind_compares (Action.lift_compares_true _) fun _ _ => ?_
          refine Action.bind_compares (allows.checkDepth definition.name) fun _ _ => ?_
          refine Action.bind_compares (Action.lift_compares bound) fun scope scopeGood => ?_
          have called := allows.inCall scopeGood executed
          refine Action.bind_compares called fun flow flowGood => ?_
          exact Action.lift_compares fun result => Definition.checkReturn_allGood flowGood

theorem ofProgram_compares
    (allows : outer.AllowsCalls inner discipline.good program rates otherRates)
    (allowed : discipline.AllowsProgram program) (casts : discipline.SameCasts rates otherRates)
    (le : steps ≤ more) {comparison : Comparison}
    (carried : outer.CarriesCalls comparison program rates otherRates) :
    (ofProgram program rates steps).Compares comparison discipline
      (.ofProgram program otherRates more) :=
  ofProgram_compares_of_apply allowed casts (ofProgram_apply_compares allows allowed casts le)
    carried

theorem enter_compares
    (allows : outer.AllowsCalls inner discipline.good program rates otherRates)
    (allowed : discipline.AllowsProgram program) (casts : discipline.SameCasts rates otherRates)
    (le : steps ≤ more) (entry : String) :
    ((ofProgram program rates steps).enter entry).Compares outer
      (fun result => ∀ value ∈ result, discipline.good value)
      ((ofProgram program otherRates more).enter entry) := by
  simp only [enter, ofProgram]
  cases found : program.definition? entry with
  | none => exact Action.fail_compares _
  | some definition =>
      have invoked := ofProgram_apply_compares allows allowed casts le (.defined definition) []
        (allowed entry definition found) (by simp)
      refine Action.bind_compares invoked fun result isGood => ?_
      apply Action.pure_compares
      split
      · simp
      · exact isGood

end Setting

theorem Expression.evaluate_compares_inside
    (allows : outer.AllowsCalls inner discipline.good program rates otherRates)
    (allowed : discipline.AllowsProgram program) (casts : discipline.SameCasts rates otherRates)
    (le : steps ≤ more) (expression : Expression)
    (expressionAllowed : discipline.allowsExpression expression) :
    (expression.evaluate (.ofProgram program rates steps)).Compares inner discipline.good
      (expression.evaluate (.ofProgram program otherRates more)) :=
  expression.evaluate_compares (Setting.ofProgram_compares allows allowed casts le allows.carried)
    allows.statements.read expressionAllowed

end

end Ducat
