import Mathlib.Order.Defs.Unbundled
import Ducat.Proofs.Evaluation.Comparison

/-! Two runs side by side. An action refines another one if that does the same from a machine that
is linked to its own. Whole expressions and statements do so as soon as their simplest actions do.
Where a single run is at issue, it is compared with itself. -/

namespace Ducat

structure Coupling where
  /-- The machines are linked before and behind every action. -/
  linked : Machine → Machine → Prop
  /-- What may become of the first machine on the way. -/
  moves : Machine → Machine → Prop
  refl : ∀ machine, moves machine machine
  trans : ∀ {first second third}, moves first second → moves second third → moves first third

namespace Coupling

def ofLink (linked : Machine → Machine → Prop) : Coupling where
  linked := linked
  moves _ _ := True
  refl _ := trivial
  trans _ _ := trivial

def ofMoves (moves : Machine → Machine → Prop) [IsPreorder Machine moves] : Coupling where
  linked := Eq
  moves := moves
  refl := refl_of moves
  trans := trans_of moves

end Coupling

namespace Action

/-- From linked machines, whenever the first action finishes, the second one finishes with the same
result. The machines are linked again, and a value that comes of it is good. -/
def Refines {α : Type} (coupling : Coupling) (good : α → Prop) (first second : Action α) : Prop :=
  ∀ machine other, coupling.linked machine other → ∀ result after,
    first machine = .finished result after →
      ∃ otherAfter, second other = .finished result otherAfter ∧
        coupling.linked after otherAfter ∧ coupling.moves machine after ∧
          ∀ value, result = .ok value → good value

section

variable {coupling : Coupling} {α β : Type} {good : α → Prop} {better : β → Prop}

theorem exhaust_refines (action : Action α) :
    (exhaust : Action α).Refines coupling good action := by
  intro machine other linked result after finished
  cases finished

theorem pure_refines {value : α} (isGood : good value) :
    (pure value : Action α).Refines coupling good (pure value) := by
  intro machine other linked result after finished
  cases finished
  refine ⟨other, rfl, linked, coupling.refl machine, fun _ equal => ?_⟩
  cases equal
  exact isGood

theorem fail_refines (error : RuntimeError) :
    (fail error : Action α).Refines coupling good (fail error) := by
  intro machine other linked result after finished
  cases finished
  exact ⟨other, rfl, linked, coupling.refl machine, fun _ equal => by cases equal⟩

theorem bind_refines {first second : Action α} {continuation following : α → Action β}
    (refines : first.Refines coupling good second)
    (behind : ∀ value, good value →
      (continuation value).Refines coupling better (following value)) :
    (first >>= continuation).Refines coupling better (second >>= following) := by
  intro machine other linked result after finished
  cases ran : first machine with
  | exhausted =>
      rw [bind_of_exhausted ran] at finished
      cases finished
  | finished outcome between =>
      rcases refines machine other linked outcome between ran with
        ⟨otherBetween, otherRan, stillLinked, moved, isGood⟩
      cases outcome with
      | error error =>
          rw [bind_of_error ran] at finished
          cases finished
          exact ⟨otherBetween, bind_of_error otherRan, stillLinked, moved,
            fun _ equal => by cases equal⟩
      | ok value =>
          rw [bind_of_ok ran] at finished
          rw [bind_of_ok otherRan]
          rcases behind value (isGood value rfl) between otherBetween stillLinked result after
            finished with ⟨otherAfter, otherFinished, linkedAgain, movedOn, resultGood⟩
          exact ⟨otherAfter, otherFinished, linkedAgain, coupling.trans moved movedOn, resultGood⟩

theorem restoring_refines {restore : Machine → Machine} {first second : Action α}
    (refines : first.Refines coupling good second)
    (restores : ∀ machine other, coupling.linked machine other →
      coupling.linked (restore machine) (restore other) ∧
        coupling.moves machine (restore machine)) :
    (restoring restore first).Refines coupling good (restoring restore second) := by
  intro machine other linked result after finished
  rcases exists_of_restoring finished with ⟨between, ran, rfl⟩
  rcases refines machine other linked result between ran with
    ⟨otherBetween, otherRan, stillLinked, moved, isGood⟩
  rcases restores between otherBetween stillLinked with ⟨linkedAgain, movedBack⟩
  exact ⟨_, restoring_of_finished otherRan, linkedAgain, coupling.trans moved movedBack, isGood⟩

end

end Action

def Coupling.comparison (coupling : Coupling) : Comparison where
  holds good first second := first.Refines coupling good second
  exhaust _ := Action.exhaust_refines
  pure := Action.pure_refines
  fail _ := Action.fail_refines
  bind := Action.bind_refines

namespace Action

variable {coupling : Coupling} {α : Type} {good : α → Prop}

theorem Refines.compares {first second : Action α} (refines : first.Refines coupling good second) :
    first.Compares coupling.comparison good second :=
  refines

theorem lift_refines {result : Except RuntimeError α}
    (isGood : ∀ value, result = .ok value → good value) :
    (liftM result : Action α).Refines coupling good (liftM result) := by
  have compares : (liftM result : Action α).Compares coupling.comparison good (liftM result) :=
    lift_compares isGood
  exact compares

end Action

namespace Coupling

def AllowsReading (coupling : Coupling) (good : Value → Prop) : Prop :=
  ∀ name, (Action.read name).Refines coupling good (Action.read name)

structure AllowsStatements (coupling : Coupling) (good : Value → Prop) : Prop where
  read : coupling.AllowsReading good
  define : ∀ name value, good value →
    (Action.define name value).Refines coupling (fun _ => True) (Action.define name value)
  assign : ∀ name value, good value →
    (Action.assign name value).Refines coupling (fun _ => True) (Action.assign name value)
  inScope : ∀ {action other : Action Flow}, action.Refines coupling (Flow.AllGood good) other →
    (Action.inScope action).Refines coupling (Flow.AllGood good) (Action.inScope other)

theorem AllowsStatements.of_updateCall {coupling : Coupling} {good : Value → Prop}
    (read : coupling.AllowsReading good)
    (updated : ∀ update : Context → Except RuntimeError Context,
      (∀ context result, context.AllGood good → update context = .ok result →
        result.AllGood good) →
      (Action.updateCall update).Refines coupling (fun _ => True) (Action.updateCall update))
    (closed : ∀ machine other, coupling.linked machine other →
      coupling.linked machine.closeScope other.closeScope ∧
        coupling.moves machine machine.closeScope) :
    coupling.AllowsStatements good := by
  have compares : coupling.comparison.AllowsStatements good :=
    .of_updateCall read updated fun refines => Action.restoring_refines refines closed
  exact ⟨compares.read, compares.define, compares.assign, compares.inScope⟩

end Coupling

structure Setting.Refines (coupling : Coupling) (good : Value → Prop) (setting other : Setting) :
    Prop where
  rates : other.rates = setting.rates
  call : ∀ function count {arguments others : Action (List Value)},
    arguments.Refines coupling (fun values => ∀ value ∈ values, good value) others →
      (setting.call function count arguments).Refines coupling
        (fun result => ∀ value ∈ result, good value) (other.call function count others)

theorem Coupling.AllowsStatements.compares {coupling : Coupling} {good : Value → Prop}
    (allows : coupling.AllowsStatements good) : coupling.comparison.AllowsStatements good where
  read := allows.read
  define := allows.define
  assign := allows.assign
  inScope := allows.inScope

section

variable {coupling : Coupling} {discipline : Discipline} {setting other : Setting}

theorem Setting.Refines.compares (refines : setting.Refines coupling discipline.good other) :
    setting.Compares coupling.comparison discipline other where
  casts := by
    rw [refines.rates]
    exact discipline.sameCasts_self setting.rates
  call := refines.call

theorem Setting.Compares.refines (compares : setting.Compares coupling.comparison discipline other)
    (rates : other.rates = setting.rates) : setting.Refines coupling discipline.good other :=
  ⟨rates, compares.call⟩

theorem Setting.Refines.of_apply (allowed : discipline.AllowsProgram setting.program)
    (program : other.program = setting.program) (rates : other.rates = setting.rates)
    (applied : ∀ callee arguments, discipline.AllowsCallee callee →
      (∀ value ∈ arguments, discipline.good value) →
      (setting.apply callee arguments).Refines coupling
        (fun result => ∀ value ∈ result, discipline.good value) (other.apply callee arguments)) :
    setting.Refines coupling discipline.good other := by
  have casts : discipline.SameCasts setting.rates other.rates := by
    rw [rates]
    exact discipline.sameCasts_self setting.rates
  have compares : setting.Compares coupling.comparison discipline other :=
    .of_apply allowed program casts fun callee arguments calleeAllowed isGood =>
      (applied callee arguments calleeAllowed isGood).compares
  exact compares.refines rates

theorem Expression.evaluate_refines (refines : setting.Refines coupling discipline.good other)
    (read : coupling.AllowsReading discipline.good) :
    ∀ expression : Expression, discipline.allowsExpression expression →
      (expression.evaluate setting).Refines coupling discipline.good (expression.evaluate other) :=
  Expression.evaluate_compares refines.compares read

theorem Expression.evaluateAll_refines (refines : setting.Refines coupling discipline.good other)
    (read : coupling.AllowsReading discipline.good) :
    ∀ expressions : List Expression,
      (∀ expression ∈ expressions, discipline.allowsExpression expression) →
      (Expression.evaluateAll setting expressions).Refines coupling
        (fun values => ∀ value ∈ values, discipline.good value)
        (Expression.evaluateAll other expressions) :=
  Expression.evaluateAll_compares refines.compares read

theorem Expression.test_refines (refines : setting.Refines coupling discipline.good other)
    (read : coupling.AllowsReading discipline.good) (condition : Expression)
    (allowed : discipline.allowsExpression condition) :
    (condition.test setting).Refines coupling (fun _ => True) (condition.test other) :=
  condition.test_compares refines.compares read allowed

theorem repeatWhile_refines {good : Value → Prop} {test otherTest : Action Bool}
    {body otherBody : Action Flow} (tested : test.Refines coupling (fun _ => True) otherTest)
    (executed : body.Refines coupling (Flow.AllGood good) otherBody) {steps more : Nat}
    (le : steps ≤ more) :
    (repeatWhile test body steps).Refines coupling (Flow.AllGood good)
      (repeatWhile otherTest otherBody more) :=
  repeatWhile_compares tested.compares executed.compares le

theorem Statement.execute_refines (refines : setting.Refines coupling discipline.good other)
    (allows : coupling.AllowsStatements discipline.good) {steps more : Nat} (le : steps ≤ more) :
    ∀ statement : Statement, discipline.allowsStatement statement →
      (statement.execute setting steps).Refines coupling (Flow.AllGood discipline.good)
        (statement.execute other more) :=
  Statement.execute_compares refines.compares allows.compares le

theorem Statement.executeAll_refines (refines : setting.Refines coupling discipline.good other)
    (allows : coupling.AllowsStatements discipline.good) {steps more : Nat} (le : steps ≤ more) :
    ∀ statements : List Statement,
      (∀ statement ∈ statements, discipline.allowsStatement statement) →
      (Statement.executeAll setting steps statements).Refines coupling
        (Flow.AllGood discipline.good) (Statement.executeAll other more statements) :=
  Statement.executeAll_compares refines.compares allows.compares le

end

end Ducat
