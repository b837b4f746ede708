import Ducat.Proofs.Evaluation.Activity

/-! What expressions and statements do themselves, once the values of their parts are known. -/

namespace Ducat

namespace Action

variable {α β : Type} {action : Action α} {continuation : α → Action β} {machine after : Machine}
variable {error : RuntimeError}

theorem error_of_lift {result : Except RuntimeError α}
    (failed : (liftM result : Action α) machine = .finished (.error error) after) :
    result = .error error := by
  cases result <;> cases failed
  rfl

theorem error_of_bind
    (failed : (action >>= continuation) machine = .finished (.error error) after) :
    action machine = .finished (.error error) after ∨
      ∃ value between, action machine = .finished (.ok value) between ∧
        continuation value between = .finished (.error error) after := by
  cases ran : action machine with
  | exhausted =>
      rw [bind_of_exhausted ran] at failed
      cases failed
  | finished result between =>
      cases result with
      | error other =>
          rw [bind_of_error ran] at failed
          cases failed
          exact .inl rfl
      | ok value =>
          rw [bind_of_ok ran] at failed
          exact .inr ⟨value, between, rfl, failed⟩

theorem bind_pure (action : Action α) : action >>= pure = action := by
  funext machine
  simp only [bind]
  split <;> simp_all only [pure]

theorem bind_assoc {γ : Type} (action : Action α) (continuation : α → Action β)
    (following : β → Action γ) :
    action >>= continuation >>= following =
      action >>= fun value => continuation value >>= following := by
  funext machine
  simp only [bind]
  cases action machine with
  | exhausted => rfl
  | finished result between => cases result <;> rfl

theorem lift_map (result : Except RuntimeError α) (map : α → β) :
    (liftM (do return map (← result)) : Action β) =
      do return map (← (liftM result : Action α)) := by
  cases result <;> rfl

end Action

namespace Expression

theorem eq_of_secondOperand?_logical {operator : LogicalOperator} {left right second : Expression}
    {value : Value} (isSecond : (logical operator left right).secondOperand? value = some second) :
    second = right := by
  simp only [secondOperand?] at isSecond
  split at isSecond
  · split at isSecond <;> cases isSecond
    rfl
  · cases isSecond

def resultOfFirst (rates : Rates) (value : Value) : Expression → Except RuntimeError Value
  | .negation _ => value.negate
  | .cast _ target => value.cast target rates
  | .logical _ _ _ => do return .bool (← value.truth)
  | .not _ => do return .bool (!(← value.truth))
  | _ => .ok value

def resultOfBoth (left right : Value) : Expression → Except RuntimeError Value
  | .arithmetic operator _ _ => operator.apply left right
  | .comparison operator _ _ => do return .bool (← operator.apply left right)
  | _ => do return .bool (← right.truth)

theorem evaluate_of_firstOperand {expression first : Expression}
    (isFirst : expression.firstOperand? = some first) (setting : Setting) :
    expression.evaluate setting = (do
      let value ← first.evaluate setting
      match expression.secondOperand? value with
      | none => liftM (expression.resultOfFirst setting.rates value)
      | some second => do
          let other ← second.evaluate setting
          liftM (expression.resultOfBoth value other)) := by
  cases expression <;> cases isFirst <;> rw [evaluate]
  case bracketed => exact (Action.bind_pure _).symm
  case negation | cast | arithmetic => rfl
  case not =>
    refine congrArg _ (funext fun value => ?_)
    exact (Action.lift_map _ _).symm
  case comparison =>
    refine congrArg _ (funext fun value => ?_)
    refine congrArg _ (funext fun other => ?_)
    exact (Action.lift_map _ _).symm
  case logical operator right =>
    refine congrArg _ (funext fun value => ?_)
    cases value with
    | bool truth =>
        change (ite _ _ _ : Action Value) = _
        by_cases decided : truth = operator.decisive
        · simp only [secondOperand?, if_pos decided]
          rfl
        · simp only [secondOperand?, if_neg decided]
          refine congrArg _ (funext fun other => ?_)
          exact (Action.lift_map _ _).symm
    | _ => rfl

end Expression

namespace Statement

/-- What a statement does itself with the value of the expression with which it begins. -/
def effect (value : Value) : Statement → Action Unit
  | .assign name _ => Action.assign name value
  | .declare type name _ => do
      type.check value
      Action.define name value
  | .branch _ _ | .choice _ _ _ | .loop _ _ => do
      let _ ← value.truth
      return ()
  | .leave _ | .call _ _ | .block _ => return ()

theorem execute_declare_effect (type : ValueType) (name : String) (expression : Expression)
    (value : Value) :
    (do (declare type name expression).effect value; return Flow.proceed : Action Flow) = do
      type.check value
      Action.define name value
      return .proceed :=
  Action.bind_assoc _ _ _

end Statement

end Ducat
