import Ducat.Evaluation.Call
import Ducat.Proofs.Evaluation.AllGood
import Ducat.Proofs.Evaluation.Discipline

/-! Two runs side by side, compared in any way that passes from the parts of an action to the whole.
Whole expressions and statements compare as soon as their simplest actions do. -/

namespace Ducat

/-- A way to compare two actions. A property is known of the values that come of both. -/
structure Comparison where
  holds : ∀ {α : Type}, (α → Prop) → Action α → Action α → Prop
  exhaust : ∀ {α : Type} (good : α → Prop) (action : Action α), holds good Action.exhaust action
  pure : ∀ {α : Type} {good : α → Prop} {value : α}, good value →
    holds good (Pure.pure value) (Pure.pure value)
  fail : ∀ {α : Type} (good : α → Prop) (error : RuntimeError),
    holds good (Action.fail error) (Action.fail error)
  bind : ∀ {α β : Type} {good : α → Prop} {better : β → Prop} {first second : Action α}
    {continuation following : α → Action β}, holds good first second →
      (∀ value, good value → holds better (continuation value) (following value)) →
        holds better (first >>= continuation) (second >>= following)

namespace Action

def Compares {α : Type} (comparison : Comparison) (good : α → Prop) (first second : Action α) :
    Prop :=
  comparison.holds good first second

section

variable {comparison : Comparison} {α β : Type} {good : α → Prop} {better : β → Prop}

theorem exhaust_compares (action : Action α) :
    (exhaust : Action α).Compares comparison good action :=
  comparison.exhaust good action

theorem pure_compares {value : α} (isGood : good value) :
    (pure value : Action α).Compares comparison good (pure value) :=
  comparison.pure isGood

theorem fail_compares (error : RuntimeError) :
    (fail error : Action α).Compares comparison good (fail error) :=
  comparison.fail good error

theorem bind_compares {first second : Action α} {continuation following : α → Action β}
    (compares : first.Compares comparison good second)
    (behind : ∀ value, good value →
      (continuation value).Compares comparison better (following value)) :
    (first >>= continuation).Compares comparison better (second >>= following) :=
  comparison.bind compares behind

theorem lift_compares {result : Except RuntimeError α}
    (isGood : ∀ value, result = .ok value → good value) :
    (liftM result : Action α).Compares comparison good (liftM result) := by
  cases result with
  | ok value => exact pure_compares (isGood value rfl)
  | error error => exact fail_compares error

theorem lift_compares_true (result : Except RuntimeError α) :
    (liftM result : Action α).Compares comparison (fun _ => True) (liftM result) :=
  lift_compares fun _ _ => trivial

end

end Action

def Statement.DeclaresNothing : Statement → Prop
  | .declare _ _ _ => False
  | .branch _ consequence => consequence.DeclaresNothing
  | .choice _ consequence alternative =>
      consequence.DeclaresNothing ∧ alternative.DeclaresNothing
  | .assign _ _ | .leave _ | .loop _ _ | .call _ _ | .block _ => True

namespace Comparison

def AllowsReading (comparison : Comparison) (good : Value → Prop) : Prop :=
  ∀ name, (Action.read name).Compares comparison good (Action.read name)

structure AllowsStatements (comparison : Comparison) (good : Value → Prop) : Prop where
  read : comparison.AllowsReading good
  define : ∀ name value, good value →
    (Action.define name value).Compares comparison (fun _ => True) (Action.define name value)
  assign : ∀ name value, good value →
    (Action.assign name value).Compares comparison (fun _ => True) (Action.assign name value)
  inScope : ∀ {action other : Action Flow}, action.Compares comparison (Flow.AllGood good) other →
    (Action.inScope action).Compares comparison (Flow.AllGood good) (Action.inScope other)

/-- What statements do to the innermost call that declare nothing, each by itself, is the same on
both sides. What they execute in a scope of its own compares by `inner`. -/
structure AllowsOutside (comparison inner : Comparison) (good : Value → Prop) : Prop where
  read : comparison.AllowsReading good
  assign : ∀ name value, good value →
    (Action.assign name value).Compares comparison (fun _ => True) (Action.assign name value)
  inScope : ∀ {action other : Action Flow}, action.Compares inner (Flow.AllGood good) other →
    (Action.inScope action).Compares comparison (Flow.AllGood good) (Action.inScope other)

def AllowsDeclaring (comparison : Comparison) (good : Value → Prop) : Prop :=
  ∀ name value, good value →
    (Action.define name value).Compares comparison (fun _ => True) (Action.define name value)

variable {comparison : Comparison} {good : Value → Prop}

theorem AllowsStatements.outside (allows : comparison.AllowsStatements good) :
    comparison.AllowsOutside comparison good :=
  ⟨allows.read, allows.assign, allows.inScope⟩

theorem AllowsReading.of_currentCall
    (current : Action.currentCall.Compares comparison (Context.AllGood good) Action.currentCall) :
    comparison.AllowsReading good := by
  intro name
  rw [Action.read]
  refine Action.bind_compares current fun context contextGood => ?_
  split
  next found => exact Action.pure_compares (contextGood.value? found)
  next => exact Action.fail_compares _

theorem AllowsStatements.of_updateCall (read : comparison.AllowsReading good)
    (updated : ∀ update : Context → Except RuntimeError Context,
      (∀ context result, context.AllGood good → update context = .ok result →
        result.AllGood good) →
      (Action.updateCall update).Compares comparison (fun _ => True) (Action.updateCall update))
    (closed : ∀ {action other : Action Flow},
      action.Compares comparison (Flow.AllGood good) other →
        (Action.restoring Machine.closeScope action).Compares comparison (Flow.AllGood good)
          (Action.restoring Machine.closeScope other)) :
    comparison.AllowsStatements good where
  read := read
  define _ _ isGood := updated _ fun _ _ contextGood defined => contextGood.define isGood defined
  assign _ _ isGood := updated _ fun _ _ contextGood assigned => contextGood.assign isGood assigned
  inScope compares := by
    rw [Action.inScope_eq_restoring, Action.inScope_eq_restoring]
    refine Action.bind_compares (updated _ ?_) fun _ _ => closed compares
    intro context result contextGood opened
    cases opened
    exact contextGood.openScope

end Comparison

structure Setting.Compares (comparison : Comparison) (discipline : Discipline)
    (setting other : Setting) : Prop where
  casts : discipline.SameCasts setting.rates other.rates
  call : ∀ function count {arguments others : Action (List Value)},
    arguments.Compares comparison (fun values => ∀ value ∈ values, discipline.good value) others →
      (setting.call function count arguments).Compares comparison
        (fun result => ∀ value ∈ result, discipline.good value) (other.call function count others)

section

variable {comparison : Comparison} {discipline : Discipline} {setting other : Setting}

theorem Setting.Compares.of_apply (allowed : discipline.AllowsProgram setting.program)
    (program : other.program = setting.program)
    (casts : discipline.SameCasts setting.rates other.rates)
    (applied : ∀ callee arguments, discipline.AllowsCallee callee →
      (∀ value ∈ arguments, discipline.good value) →
      (setting.apply callee arguments).Compares comparison
        (fun result => ∀ value ∈ result, discipline.good value) (other.apply callee arguments)) :
    setting.Compares comparison discipline other := by
  refine ⟨casts, fun function count arguments others compares => ?_⟩
  rw [Setting.call, Setting.call, program]
  have found : (liftM (Callee.find setting.program function count) : Action Callee).Compares
      comparison discipline.AllowsCallee (liftM (Callee.find setting.program function count)) :=
    Action.lift_compares fun _ => allowed.callee
  refine Action.bind_compares found fun callee calleeAllowed => ?_
  exact Action.bind_compares compares fun values isGood =>
    applied callee values calleeAllowed isGood

mutual

theorem Expression.evaluate_compares (compares : setting.Compares comparison discipline other)
    (read : comparison.AllowsReading discipline.good) :
    ∀ expression : Expression, discipline.allowsExpression expression →
      (expression.evaluate setting).Compares comparison discipline.good (expression.evaluate other)
  | .literal constant, _ => by
      rw [Expression.evaluate, Expression.evaluate]
      exact Action.pure_compares (discipline.literal constant)
  | .reference name, _ => by
      rw [Expression.evaluate, Expression.evaluate]
      exact read name
  | .call function arguments, allowed => by
      rw [Expression.evaluate, Expression.evaluate]
      have evaluated := Expression.evaluateAll_compares compares read arguments
        (discipline.arguments (.inl allowed))
      refine Action.bind_compares (compares.call function arguments.length evaluated)
        fun result isGood => ?_
      cases result with
      | some value => exact Action.pure_compares (isGood value rfl)
      | none => exact Action.fail_compares _
  | .bracketed inner, allowed => by
      rw [Expression.evaluate, Expression.evaluate]
      exact inner.evaluate_compares compares read (discipline.firstOperand allowed rfl)
  | .negation operand, allowed => by
      rw [Expression.evaluate, Expression.evaluate]
      have evaluated :=
        operand.evaluate_compares compares read (discipline.firstOperand allowed rfl)
      refine Action.bind_compares evaluated fun value isGood => ?_
      exact Action.lift_compares fun _ => discipline.negation isGood
  | .cast operand target, allowed => by
      rw [Expression.evaluate, Expression.evaluate]
      have evaluated :=
        operand.evaluate_compares compares read (discipline.firstOperand allowed rfl)
      refine Action.bind_compares evaluated fun value isGood => ?_
      rw [compares.casts allowed isGood]
      exact Action.lift_compares fun _ => discipline.cast allowed isGood
  | .arithmetic operator left right, allowed => by
      rw [Expression.evaluate, Expression.evaluate]
      have leftEvaluated :=
        left.evaluate_compares compares read (discipline.firstOperand allowed rfl)
      refine Action.bind_compares leftEvaluated fun first firstGood => ?_
      have rightEvaluated := right.evaluate_compares compares read
        (discipline.secondOperand first allowed rfl)
      refine Action.bind_compares rightEvaluated fun second secondGood => ?_
      exact Action.lift_compares fun _ => discipline.arithmetic operator firstGood secondGood
  | .comparison operator left right, allowed => by
      rw [Expression.evaluate, Expression.evaluate]
      have leftEvaluated :=
        left.evaluate_compares compares read (discipline.firstOperand allowed rfl)
      refine Action.bind_compares leftEvaluated fun first _ => ?_
      have rightEvaluated := right.evaluate_compares compares read
        (discipline.secondOperand first allowed rfl)
      refine Action.bind_compares rightEvaluated fun second _ => ?_
      exact Action.bind_compares (Action.lift_compares_true _)
        fun truth _ => Action.pure_compares (discipline.truth truth)
  | .logical operator left right, allowed => by
      rw [Expression.evaluate, Expression.evaluate]
      have leftEvaluated :=
        left.evaluate_compares compares read (discipline.firstOperand allowed rfl)
      refine Action.bind_compares leftEvaluated fun first _ => ?_
      refine Action.bind_compares (Action.lift_compares_true _) fun truth _ => ?_
      split
      next => exact Action.pure_compares (discipline.truth truth)
      next undecided =>
        have rightEvaluated := right.evaluate_compares compares read
          (discipline.secondOperand (.bool truth) allowed (if_neg undecided))
        refine Action.bind_compares rightEvaluated fun second _ => ?_
        exact Action.bind_compares (Action.lift_compares_true _)
          fun truth _ => Action.pure_compares (discipline.truth truth)
  | .not operand, allowed => by
      rw [Expression.evaluate, Expression.evaluate]
      have evaluated :=
        operand.evaluate_compares compares read (discipline.firstOperand allowed rfl)
      refine Action.bind_compares evaluated fun value _ => ?_
      exact Action.bind_compares (Action.lift_compares_true _)
        fun truth _ => Action.pure_compares (discipline.truth (!truth))

theorem Expression.evaluateAll_compares
    (compares : setting.Compares comparison discipline other)
    (read : comparison.AllowsReading discipline.good) :
    ∀ expressions : List Expression,
      (∀ expression ∈ expressions, discipline.allowsExpression expression) →
      (Expression.evaluateAll setting expressions).Compares comparison
        (fun values => ∀ value ∈ values, discipline.good value)
        (Expression.evaluateAll other expressions)
  | [], _ => by
      rw [Expression.evaluateAll, Expression.evaluateAll]
      exact Action.pure_compares (by simp)
  | first :: rest, allowed => by
      rw [Expression.evaluateAll, Expression.evaluateAll]
      rcases List.forall_mem_cons.mp allowed with ⟨firstAllowed, restAllowed⟩
      have firstEvaluated := first.evaluate_compares compares read firstAllowed
      have restEvaluated := Expression.evaluateAll_compares compares read rest restAllowed
      refine Action.bind_compares firstEvaluated fun value isGood => ?_
      refine Action.bind_compares restEvaluated fun values allGood => ?_
      exact Action.pure_compares (List.forall_mem_cons.mpr ⟨isGood, allGood⟩)

end

theorem Expression.test_compares (compares : setting.Compares comparison discipline other)
    (read : comparison.AllowsReading discipline.good) (condition : Expression)
    (allowed : discipline.allowsExpression condition) :
    (condition.test setting).Compares comparison (fun _ => True) (condition.test other) := by
  rw [Expression.test, Expression.test]
  refine Action.bind_compares (condition.evaluate_compares compares read allowed) fun value _ => ?_
  exact Action.lift_compares_true _

theorem repeatWhile_compares {good : Value → Prop} {test otherTest : Action Bool}
    {body otherBody : Action Flow} (tested : test.Compares comparison (fun _ => True) otherTest)
    (executed : body.Compares comparison (Flow.AllGood good) otherBody) {steps more : Nat}
    (le : steps ≤ more) :
    (repeatWhile test body steps).Compares comparison (Flow.AllGood good)
      (repeatWhile otherTest otherBody more) := by
  induction steps generalizing more with
  | zero => exact Action.exhaust_compares _
  | succ steps induction =>
      rcases more with _ | more
      · omega
      rw [repeatWhile_succ, repeatWhile_succ]
      refine Action.bind_compares tested fun truth _ => ?_
      cases truth with
      | false => exact Action.pure_compares (Flow.allGood_of_none rfl)
      | true =>
          refine Action.bind_compares executed fun flow flowGood => ?_
          cases flow with
          | proceed => exact induction (by omega)
          | leave value => exact Action.pure_compares flowGood

mutual

/-- Statements in a scope of their own may compare in another way than those around them. Nothing is
asked of declarations where there are none. -/
theorem Statement.execute_compares_outside {outer : Comparison}
    (compares : setting.Compares outer discipline other)
    (allows : outer.AllowsOutside comparison discipline.good)
    (inside : setting.Compares comparison discipline other)
    (within : comparison.AllowsStatements discipline.good) {steps more : Nat} (le : steps ≤ more) :
    ∀ statement : Statement, discipline.allowsStatement statement →
      statement.DeclaresNothing ∨ outer.AllowsDeclaring discipline.good →
        (statement.execute setting steps).Compares outer (Flow.AllGood discipline.good)
          (statement.execute other more)
  | .assign name value, allowed, _ => by
      rw [Statement.execute, Statement.execute]
      have evaluated := value.evaluate_compares compares allows.read
        (discipline.expression allowed rfl)
      refine Action.bind_compares evaluated fun value isGood => ?_
      refine Action.bind_compares (allows.assign name value isGood) fun _ _ => ?_
      exact Action.pure_compares (Flow.allGood_of_none rfl)
  | .declare type name value, allowed, .inr declaring => by
      rw [Statement.execute, Statement.execute]
      have evaluated := value.evaluate_compares compares allows.read
        (discipline.expression allowed rfl)
      refine Action.bind_compares evaluated fun value isGood => ?_
      refine Action.bind_compares (Action.lift_compares_true _) fun _ _ => ?_
      refine Action.bind_compares (declaring name value isGood) fun _ _ => ?_
      exact Action.pure_compares (Flow.allGood_of_none rfl)
  | .leave none, _, _ => by
      rw [Statement.execute, Statement.execute]
      exact Action.pure_compares (Flow.allGood_of_none rfl)
  | .leave (some value), allowed, _ => by
      rw [Statement.execute, Statement.execute]
      have evaluated := value.evaluate_compares compares allows.read
        (discipline.expression allowed rfl)
      refine Action.bind_compares evaluated fun value isGood => ?_
      refine Action.pure_compares fun other member => ?_
      cases member
      exact isGood
  | .branch condition consequence, allowed, declares => by
      rw [Statement.execute, Statement.execute]
      have tested := condition.test_compares compares allows.read
        (discipline.expression allowed rfl)
      refine Action.bind_compares tested fun truth _ => ?_
      split
      · exact consequence.execute_compares_outside compares allows inside within le
          (discipline.chosen (.bool true) allowed rfl) declares
      · exact Action.pure_compares (Flow.allGood_of_none rfl)
  | .choice condition consequence alternative, allowed, declares => by
      rw [Statement.execute, Statement.execute]
      have tested := condition.test_compares compares allows.read
        (discipline.expression allowed rfl)
      refine Action.bind_compares tested fun truth _ => ?_
      split
      · exact consequence.execute_compares_outside compares allows inside within le
          (discipline.chosen (.bool true) allowed rfl) (declares.imp_left And.left)
      · exact alternative.execute_compares_outside compares allows inside within le
          (discipline.chosen (.bool false) allowed rfl) (declares.imp_left And.right)
  | .loop condition body, allowed, _ => by
      rw [Statement.execute, Statement.execute]
      have tested := condition.test_compares compares allows.read
        (discipline.expression allowed rfl)
      have executed := Statement.executeAll_compares inside within le body
        (discipline.block (discipline.chosen (.bool true) allowed rfl))
      exact repeatWhile_compares tested (allows.inScope executed) le
  | .call function arguments, allowed, _ => by
      rw [Statement.execute, Statement.execute]
      have evaluated := Expression.evaluateAll_compares compares allows.read arguments
        (discipline.arguments (.inr allowed))
      refine Action.bind_compares (compares.call function arguments.length evaluated) fun _ _ => ?_
      exact Action.pure_compares (Flow.allGood_of_none rfl)
  | .block statements, allowed, _ => by
      rw [Statement.execute, Statement.execute]
      exact allows.inScope
        (Statement.executeAll_compares inside within le statements (discipline.block allowed))

theorem Statement.executeAll_compares (compares : setting.Compares comparison discipline other)
    (allows : comparison.AllowsStatements discipline.good) {steps more : Nat} (le : steps ≤ more) :
    ∀ statements : List Statement,
      (∀ statement ∈ statements, discipline.allowsStatement statement) →
      (Statement.executeAll setting steps statements).Compares comparison
        (Flow.AllGood discipline.good) (Statement.executeAll other more statements)
  | [], _ => by
      rw [Statement.executeAll, Statement.executeAll]
      exact Action.pure_compares (Flow.allGood_of_none rfl)
  | first :: rest, allowed => by
      rw [Statement.executeAll, Statement.executeAll]
      rcases List.forall_mem_cons.mp allowed with ⟨firstAllowed, restAllowed⟩
      have executed := first.execute_compares_outside compares allows.outside compares allows le
        firstAllowed (.inr allows.define)
      refine Action.bind_compares executed fun flow flowGood => ?_
      cases flow with
      | proceed => exact Statement.executeAll_compares compares allows le rest restAllowed
      | leave value => exact Action.pure_compares flowGood

end

theorem Statement.execute_compares (compares : setting.Compares comparison discipline other)
    (allows : comparison.AllowsStatements discipline.good) {steps more : Nat} (le : steps ≤ more)
    (statement : Statement) (allowed : discipline.allowsStatement statement) :
    (statement.execute setting steps).Compares comparison (Flow.AllGood discipline.good)
      (statement.execute other more) :=
  statement.execute_compares_outside compares allows.outside compares allows le allowed
    (.inr allows.define)

end

end Ducat
