import Ducat.Evaluation.Call
import Ducat.Proofs.Value.CastTable

/-! Operations on values, and the checks of calls and declarations, fail for reasons that lie in the
program. Faults of the evaluation itself are not among them. -/

namespace Ducat

open ValueType (Kind)

/-- No program can be blamed for the error: there is no call or scope in which to go on, or a number
or money was to become money of no named currency. -/
inductive RuntimeError.IsFault : RuntimeError → Prop where
  | noActiveCall : IsFault .noActiveCall
  | unsupportedCast {source : ValueType} {currency : Option String}
      (numeric : source.kind ∈ [Kind.int, .float, .money]) :
      IsFault (.unsupportedCast source (.money currency))

theorem ValueType.Kind.money_mem_castTargets {source : Kind}
    (numeric : source ∈ [Kind.int, .float, .money]) : Kind.money ∈ source.castTargets := by
  revert source
  decide

def Faultless {α : Type} (operation : Except RuntimeError α) : Prop :=
  ∀ error, operation = .error error → ¬ error.IsFault

namespace Faultless

variable {α β : Type} {operation : Except RuntimeError α}

theorem ok (value : α) : Faultless (.ok value : Except RuntimeError α) := nofun

theorem of_error {error : RuntimeError} (noFault : ¬ error.IsFault) :
    Faultless (.error error : Except RuntimeError α) := by
  intro other equal
  cases equal
  exact noFault

theorem bind {continuation : α → Except RuntimeError β} (faultless : Faultless operation)
    (behind : ∀ value, Faultless (continuation value)) :
    Faultless (operation >>= continuation) := by
  cases operation with
  | error error => exact of_error (faultless error rfl)
  | ok value => exact behind value

theorem map (faultless : Faultless operation) (map : α → β) :
    Faultless (do return map (← operation)) :=
  faultless.bind fun value => ok (map value)

end Faultless

namespace Value

variable (left right value : Value)

theorem Converts.faultless {α : Type} {kind : NumberKind} {conversion : Except RuntimeError α}
    (converts : Converts kind conversion) : Faultless conversion := by
  cases converts with
  | given number => exact .ok number
  | invalid text => exact .of_error nofun

theorem whole_faultless (operation : IntegerOperation) (result : Int) :
    Faultless (whole operation result) := by
  unfold whole
  split
  · exact .ok _
  · exact .of_error nofun

theorem requireSameType_faultless : Faultless (requireSameType left right) := by
  unfold requireSameType
  split
  · exact .ok _
  · exact .of_error nofun

theorem add_faultless : Faultless (add left right) := by
  refine (requireSameType_faultless left right).bind fun _ => ?_
  split
  · exact whole_faultless _ _
  · exact .ok _
  · exact .ok _
  · exact .ok _
  · exact .of_error nofun

theorem subtract_faultless : Faultless (subtract left right) := by
  refine (requireSameType_faultless left right).bind fun _ => ?_
  split
  · exact whole_faultless _ _
  · exact .ok _
  · exact .ok _
  · exact .of_error nofun

theorem multiply_faultless : Faultless (multiply left right) := by
  unfold multiply
  split
  · exact whole_faultless _ _
  · exact (floatOfInteger_converts _).faultless.map _
  · exact (floatOfInteger_converts _).faultless.map _
  · exact .ok _
  · exact .ok _
  · exact .ok _
  · exact (decimalOfFloat_converts _).faultless.map _
  · exact (decimalOfFloat_converts _).faultless.map _
  · exact .of_error nofun

theorem quotient_faultless : Faultless (quotient left right) := by
  unfold quotient
  split
  · exact whole_faultless _ _
  · exact (floatOfInteger_converts _).faultless.map _
  · exact (floatOfInteger_converts _).faultless.map _
  · exact .ok _
  · exact .ok _
  · exact (decimalOfFloat_converts _).faultless.map _
  · exact (floatOfDecimal_converts _).faultless.map _
  · exact .of_error nofun

theorem divide_faultless : Faultless (divide left right) := by
  unfold divide
  split
  · split
    · exact .of_error nofun
    · split
      · exact .of_error nofun
      · exact quotient_faultless _ _
  · split
    · exact .of_error nofun
    · exact quotient_faultless _ _

theorem negate_faultless : Faultless value.negate := by
  cases value with
  | int => exact whole_faultless _ _
  | float | money => exact .ok _
  | string | bool => exact .of_error nofun

theorem order_faultless : Faultless (left.order right) := by
  unfold order
  split
  · exact .ok _
  · exact .ok _
  · exact .ok _
  · exact .ok _
  · split
    · exact .ok _
    · exact .of_error nofun
  · exact .of_error nofun

theorem truth_faultless : Faultless value.truth := by
  cases value with
  | bool => exact .ok _
  | int | float | string | money => exact .of_error nofun

/-- A cast to a type that can be written down is refused only for values that are no numbers. -/
theorem cast_faultless {target : ValueType} (named : target ≠ .money none) (rates : Rates) :
    Faultless (value.cast target rates) := by
  have ends := cast_castEnds value target rates
  generalize value.cast target rates = outcome at ends
  cases ends with
  | given => exact .ok _
  | invalidNumber | missingRate => exact .of_error nofun
  | unsupported uncastable =>
      refine .of_error fun fault => ?_
      cases fault with
      | unsupportedCast numeric =>
          rcases uncastable with unlisted | ⟨nameless, _⟩
          · exact unlisted (Kind.money_mem_castTargets numeric)
          · exact named nameless

end Value

theorem ArithmeticOperator.apply_faultless (operator : ArithmeticOperator) (left right : Value) :
    Faultless (operator.apply left right) := by
  cases operator with
  | add => exact left.add_faultless right
  | subtract => exact left.subtract_faultless right
  | multiply => exact left.multiply_faultless right
  | divide => exact left.divide_faultless right

theorem ComparisonOperator.apply_faultless (operator : ComparisonOperator) (left right : Value) :
    Faultless (operator.apply left right) :=
  (left.order_faultless right).map operator.holds

theorem checkArgumentCount_faultless (function : String) (expected found : Nat) :
    Faultless (checkArgumentCount function expected found) := by
  unfold checkArgumentCount
  split
  · exact .ok _
  · exact .of_error nofun

theorem Callee.find_faultless (program : Program) (name : String) (count : Nat) :
    Faultless (find program name count) := by
  unfold find
  split
  · exact (checkArgumentCount_faultless _ _ _).map _
  · split
    · exact (checkArgumentCount_faultless _ _ _).map _
    · exact .of_error nofun

theorem ValueType.check_faultless (type : ValueType) (value : Value) :
    Faultless (type.check value) := by
  unfold check
  split
  · exact .ok _
  · exact .of_error nofun

theorem Parameter.check_faultless (parameter : Parameter) (value : Value) :
    Faultless (parameter.check value) := by
  unfold check
  split
  · exact ValueType.check_faultless _ _
  · exact .ok _

namespace Definition

theorem bindAll_faultless (scope : Scope) (pairs : List (Parameter × Value)) :
    Faultless (bindAll scope pairs) := by
  induction pairs generalizing scope with
  | nil => exact .ok _
  | cons pair rest induction => exact (pair.1.check_faultless pair.2).bind fun _ => induction _

theorem bind_faultless (definition : Definition) (arguments : List Value) :
    Faultless (definition.bind arguments) :=
  bindAll_faultless _ _

theorem checkReturn_faultless (definition : Definition) (flow : Flow) :
    Faultless (definition.checkReturn flow) := by
  unfold checkReturn
  split
  · exact .ok _
  · exact .of_error nofun
  · exact .of_error nofun
  · exact (ValueType.check_faultless _ _).map _

end Definition

namespace Context

theorem assign_faultless (context : Context) (name : String) (value : Value) :
    Faultless (context.assign name value) := by
  unfold assign
  split
  · exact .ok _
  · exact .of_error nofun

theorem define_faultless {context : Context} (opened : context.scopes ≠ []) (name : String)
    (value : Value) : Faultless (context.define name value) := by
  unfold define
  split
  next closed => exact absurd closed opened
  next =>
    split
    · exact .of_error nofun
    · exact .ok _

end Context

end Ducat
