import Ducat.Value.Arithmetic
import Ducat.Value.Cast

/-! Where the currencies of values come from: those of an arithmetic result from its operands, and
that of a cast value from the target. -/

namespace Ducat

theorem Money.currency_of_convert {money converted : Money} {target : String} {rates : Rates}
    (found : money.convert target rates = .ok converted) : converted.currency = target := by
  unfold convert at found
  split at found
  next same =>
    cases found
    exact same
  next =>
    split at found
    · cases found
    next rate _ =>
      cases exact : Value.decimalOfFloat rate with
      | error error =>
          rw [exact] at found
          cases found
      | ok factor =>
          rw [exact] at found
          cases found
          rfl

namespace Value

def In (currencies : List String) : Value → Prop
  | money amount => amount.currency ∈ currencies
  | _ => True

variable {currencies : List String} {left right value result : Value}

def GivesIn (currencies : List String) (operation : Except RuntimeError Value) : Prop :=
  ∀ value, operation = .ok value → value.In currencies

theorem givesIn_ok (within : value.In currencies) : GivesIn currencies (.ok value) := by
  intro _ equal
  cases equal
  exact within

theorem givesIn_error (error : RuntimeError) : GivesIn currencies (.error error) := by
  intro _ equal
  cases equal

theorem givesIn_bind {α : Type} {operation : Except RuntimeError α}
    {continuation : α → Except RuntimeError Value}
    (behind : ∀ value, GivesIn currencies (continuation value)) :
    GivesIn currencies (operation >>= continuation) := by
  cases operation with
  | error error => exact givesIn_error error
  | ok value => exact behind value

theorem whole_givesIn (operation : IntegerOperation) (number : Int) :
    GivesIn currencies (whole operation number) := by
  unfold whole
  split
  · exact givesIn_ok trivial
  · exact givesIn_error _

theorem add_givesIn (within : left.In currencies) : GivesIn currencies (add left right) := by
  refine givesIn_bind fun _ => ?_
  split
  · exact whole_givesIn _ _
  · exact givesIn_ok trivial
  · exact givesIn_ok trivial
  · exact givesIn_ok within
  · exact givesIn_error _

theorem subtract_givesIn (within : left.In currencies) :
    GivesIn currencies (subtract left right) := by
  refine givesIn_bind fun _ => ?_
  split
  · exact whole_givesIn _ _
  · exact givesIn_ok trivial
  · exact givesIn_ok within
  · exact givesIn_error _

theorem multiply_givesIn (leftWithin : left.In currencies) (rightWithin : right.In currencies) :
    GivesIn currencies (multiply left right) := by
  unfold multiply
  split
  · exact whole_givesIn _ _
  · exact givesIn_bind fun _ => givesIn_ok trivial
  · exact givesIn_bind fun _ => givesIn_ok trivial
  · exact givesIn_ok trivial
  · exact givesIn_ok leftWithin
  · exact givesIn_ok rightWithin
  · exact givesIn_bind fun _ => givesIn_ok leftWithin
  · exact givesIn_bind fun _ => givesIn_ok rightWithin
  · exact givesIn_error _

theorem quotient_givesIn (within : left.In currencies) :
    GivesIn currencies (quotient left right) := by
  unfold quotient
  split
  · exact whole_givesIn _ _
  · exact givesIn_bind fun _ => givesIn_ok trivial
  · exact givesIn_bind fun _ => givesIn_ok trivial
  · exact givesIn_ok trivial
  · exact givesIn_ok within
  · exact givesIn_bind fun _ => givesIn_ok within
  · exact givesIn_bind fun _ => givesIn_ok trivial
  · exact givesIn_error _

theorem divide_givesIn (within : left.In currencies) : GivesIn currencies (divide left right) := by
  unfold divide
  split
  · split
    · exact givesIn_error _
    · split
      · exact givesIn_error _
      · exact quotient_givesIn within
  · split
    · exact givesIn_error _
    · exact quotient_givesIn within

theorem negate_givesIn (within : value.In currencies) : GivesIn currencies value.negate := by
  cases value with
  | int => exact whole_givesIn _ _
  | float => exact givesIn_ok trivial
  | money => exact givesIn_ok within
  | string | bool => exact givesIn_error _

theorem toMoney_givesIn {currency : Option String}
    (listed : ∀ id, currency = some id → id ∈ currencies) (rates : Rates) :
    GivesIn currencies (value.toMoney currency rates) := by
  unfold toMoney
  split
  · exact givesIn_ok (listed _ rfl)
  · exact givesIn_bind fun _ => givesIn_ok (listed _ rfl)
  next amount target =>
    cases converted : amount.convert target rates with
    | error error => exact givesIn_error error
    | ok money =>
        refine givesIn_ok ?_
        rw [In, Money.currency_of_convert converted]
        exact listed _ rfl
  · exact givesIn_error _

/-- A cast to another type than one of money does not give any money. -/
theorem cast_givesIn {target : ValueType}
    (listed : ∀ id, target = .money (some id) → id ∈ currencies) (rates : Rates) :
    GivesIn currencies (value.cast target rates) := by
  cases target with
  | money currency =>
      have converts : value.cast (.money currency) rates = value.toMoney currency rates := by
        cases value <;> rfl
      rw [converts]
      exact toMoney_givesIn (fun id equal => listed id (congrArg ValueType.money equal)) rates
  | int | float | string | bool | void =>
      cases value
      all_goals first
        | exact givesIn_ok trivial
        | exact givesIn_bind fun _ => givesIn_ok trivial
        | exact givesIn_error _

end Value

theorem ArithmeticOperator.apply_givesIn {currencies : List String} {left right : Value}
    (leftWithin : left.In currencies) (rightWithin : right.In currencies)
    (operator : ArithmeticOperator) :
    Value.GivesIn currencies (operator.apply left right) := by
  cases operator with
  | add => exact Value.add_givesIn leftWithin
  | subtract => exact Value.subtract_givesIn leftWithin
  | multiply => exact Value.multiply_givesIn leftWithin rightWithin
  | divide => exact Value.divide_givesIn leftWithin

end Ducat
