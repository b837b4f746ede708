import Ducat.Proofs.Number.Notation
import Ducat.Value.Arithmetic
import Ducat.Value.Cast
import Ducat.Value.Comparison

/-! Calculations with money are exact: sums, differences, products with numbers and conversions
give the amounts that rational arithmetic gives, in whatever forms they are kept. -/

namespace Ducat

@[ext] structure ExactMoney where
  value : ℚ
  currency : String

namespace ExactMoney

def withValue (money : ExactMoney) (value : ℚ) : ExactMoney := { money with value }

@[simp] theorem withValue_value (money : ExactMoney) (value : ℚ) :
    (money.withValue value).value = value := rfl

@[simp] theorem withValue_currency (money : ExactMoney) (value : ℚ) :
    (money.withValue value).currency = money.currency := rfl

end ExactMoney

namespace Money

def exact (money : Money) : ExactMoney := ⟨money.amount.value, money.currency⟩

@[simp] theorem exact_value (money : Money) : money.exact.value = money.amount.value := rfl

@[simp] theorem exact_currency (money : Money) : money.exact.currency = money.currency := rfl

@[simp] theorem withAmount_amount (money : Money) (amount : Decimal) :
    (money.withAmount amount).amount = amount := rfl

@[simp] theorem withAmount_currency (money : Money) (amount : Decimal) :
    (money.withAmount amount).currency = money.currency := rfl

end Money

namespace Value

theorem add_money (first second : Money) :
    add (.money first) (.money second) =
      if first.currency = second.currency then
        .ok (.money (first.withAmount (first.amount.add second.amount)))
      else .error (.differentTypes (.money first) (.money second)) := by
  by_cases same : first.currency = second.currency <;>
    simp [add, requireSameType, Value.type, same, bind, Except.bind]

theorem subtract_money (first second : Money) :
    subtract (.money first) (.money second) =
      if first.currency = second.currency then
        .ok (.money (first.withAmount (first.amount.subtract second.amount)))
      else .error (.differentTypes (.money first) (.money second)) := by
  by_cases same : first.currency = second.currency <;>
    simp [subtract, requireSameType, Value.type, same, bind, Except.bind]

theorem cast_money_of_eq {money : Money} {target : String} {rates : Rates}
    (same : money.currency = target) :
    cast (.money money) (.money (some target)) rates = .ok (.money money) := by
  rw [cast, toMoney, Money.convert, if_pos same]
  rfl

theorem cast_money_of_missing {money : Money} {target : String} {rates : Rates}
    (different : money.currency ≠ target) (missing : rates.rate? money.currency target = none) :
    cast (.money money) (.money (some target)) rates =
      .error (.missingRate money.currency target) := by
  rw [cast, toMoney, Money.convert, if_neg different, missing]
  rfl

theorem cast_money_of_rate {money : Money} {target : String} {rates : Rates} {rate : Float}
    (different : money.currency ≠ target)
    (listed : rates.rate? money.currency target = some rate) :
    cast (.money money) (.money (some target)) rates =
      (decimalOfFloat rate).map fun factor => .money ⟨money.amount.convert factor, target⟩ := by
  rw [cast, toMoney, Money.convert, if_neg different, listed]
  cases converted : decimalOfFloat rate <;> simp [converted, bind, Except.bind, Except.map, pure,
    Except.pure]

/-- A floating-point number counts as the decimal that its text denotes. -/
theorem decimalOfFloat_of_value? {number : Float} {denoted : ℚ}
    (found : Positional.value? (Double.text number) = some denoted) :
    ∃ decimal, decimalOfFloat number = .ok decimal ∧ decimal.value = denoted := by
  rw [Positional.value?_text] at found
  rcases Option.map_eq_some_iff.mp found with ⟨decimal, converted, equal⟩
  exact ⟨decimal, by rw [decimalOfFloat, converted], equal⟩

theorem decimalOfFloat_of_value?_eq_none {number : Float}
    (missing : Positional.value? (Double.text number) = none) :
    decimalOfFloat number = .error (.invalidNumber (Double.text number) .money) := by
  rw [Positional.value?_text, Option.map_eq_none_iff] at missing
  rw [decimalOfFloat, missing]

end Value

inductive Side where
  | left
  | right
deriving DecidableEq, Repr

inductive MoneyStep where
  | add (term : Money) (side : Side)
  | subtract (term : Money) (side : Side)
  | negate
  | multiplyInt (factor : Int64) (side : Side)
  | multiplyFloat (factor : Float) (side : Side)
  | cast (target : String)

namespace MoneyStep

def operate (operation : Value → Value → Except RuntimeError Value) (value operand : Value) :
    Side → Except RuntimeError Value
  | .left => operation operand value
  | .right => operation value operand

def run (rates : Rates) (value : Value) : MoneyStep → Except RuntimeError Value
  | add term side => operate Value.add value (.money term) side
  | subtract term side => operate Value.subtract value (.money term) side
  | negate => value.negate
  | multiplyInt factor side => operate Value.multiply value (.int factor) side
  | multiplyFloat factor side => operate Value.multiply value (.float factor) side
  | cast target => value.cast (.money (some target)) rates

def follow (rates : Rates) (value : Value) (step : MoneyStep) : Value :=
  match step.run rates value with
  | .ok next => next
  | .error _ => value

/-- The result of a step in rational arithmetic. There is none for different currencies, a rate
that is missing, or a number or rate whose text denotes no number. -/
def expected? (rates : Rates) (money : ExactMoney) : MoneyStep → Option ExactMoney
  | add term _ =>
      if term.currency = money.currency then
        some (money.withValue (money.value + term.amount.value))
      else none
  | subtract term .right =>
      if term.currency = money.currency then
        some (money.withValue (money.value - term.amount.value))
      else none
  | subtract term .left =>
      if term.currency = money.currency then
        some (money.withValue (term.amount.value - money.value))
      else none
  | negate => some (money.withValue (-money.value))
  | multiplyInt factor _ => some (money.withValue (money.value * factor.toInt))
  | multiplyFloat factor _ =>
      (Positional.value? (Double.text factor)).map fun factor =>
        money.withValue (money.value * factor)
  | cast target =>
      if money.currency = target then some money
      else
        match rates.rate? money.currency target with
        | none => none
        | some rate =>
            (Positional.value? (Double.text rate)).map fun factor =>
              ⟨money.value * factor, target⟩

def followExact (rates : Rates) (money : ExactMoney) (step : MoneyStep) : ExactMoney :=
  (step.expected? rates money).getD money

inductive Reflects : Except RuntimeError Value → Option ExactMoney → Prop where
  | money (money : Money) : Reflects (.ok (.money money)) (some money.exact)
  | failure (error : RuntimeError) : Reflects (.error error) none

theorem reflects_money {money : Money} {exact : ExactMoney} (equal : money.exact = exact) :
    Reflects (.ok (.money money)) (some exact) :=
  equal ▸ .money money

theorem run_add_reflects (rates : Rates) (money term : Money) (side : Side) :
    Reflects ((add term side).run rates (.money money))
      ((add term side).expected? rates money.exact) := by
  by_cases same : term.currency = money.currency
  · cases side <;>
      simp only [run, operate, expected?, Money.exact_currency, Value.add_money, same, if_true]
    · exact reflects_money (by ext <;> simp [same, add_comm])
    · exact reflects_money (by ext <;> simp)
  · cases side <;>
      simp only [run, operate, expected?, Money.exact_currency, Value.add_money, same, Ne.symm same,
        if_false]
    · exact .failure _
    · exact .failure _

theorem run_subtract_reflects (rates : Rates) (money term : Money) (side : Side) :
    Reflects ((subtract term side).run rates (.money money))
      ((subtract term side).expected? rates money.exact) := by
  by_cases same : term.currency = money.currency
  · cases side <;>
      simp only [run, operate, expected?, Money.exact_currency, Value.subtract_money, same, if_true]
    · exact reflects_money (by ext <;> simp [same])
    · exact reflects_money (by ext <;> simp)
  · cases side <;>
      simp only [run, operate, expected?, Money.exact_currency, Value.subtract_money, same,
        Ne.symm same, if_false]
    · exact .failure _
    · exact .failure _

theorem run_multiplyInt_reflects (rates : Rates) (money : Money) (factor : Int64) (side : Side) :
    Reflects ((multiplyInt factor side).run rates (.money money))
      ((multiplyInt factor side).expected? rates money.exact) := by
  cases side <;> exact reflects_money (by ext <;> simp)

theorem run_multiplyFloat_reflects (rates : Rates) (money : Money) (factor : Float)
    (side : Side) :
    Reflects ((multiplyFloat factor side).run rates (.money money))
      ((multiplyFloat factor side).expected? rates money.exact) := by
  cases found : Positional.value? (Double.text factor) with
  | none =>
      have failed := Value.decimalOfFloat_of_value?_eq_none found
      cases side <;> simp only [run, operate, expected?, found, Value.multiply, failed]
      · exact .failure _
      · exact .failure _
  | some denoted =>
      rcases Value.decimalOfFloat_of_value? found with ⟨decimal, converted, equal⟩
      cases side <;> simp only [run, operate, expected?, found, Value.multiply, converted]
      · exact reflects_money (by ext <;> simp [equal])
      · exact reflects_money (by ext <;> simp [equal])

theorem run_cast_reflects (rates : Rates) (money : Money) (target : String) :
    Reflects ((cast target).run rates (.money money))
      ((cast target).expected? rates money.exact) := by
  by_cases same : money.currency = target
  · rw [run, Value.cast_money_of_eq same, expected?, Money.exact_currency, if_pos same]
    exact .money money
  · rw [run, expected?, Money.exact_currency, if_neg same]
    cases listed : rates.rate? money.currency target with
    | none =>
        rw [Value.cast_money_of_missing same listed]
        exact .failure _
    | some rate =>
        cases found : Positional.value? (Double.text rate) with
        | none =>
            rw [Value.cast_money_of_rate same listed, Value.decimalOfFloat_of_value?_eq_none found]
            simp only [found, Except.map, Option.map_none]
            exact .failure _
        | some denoted =>
            rcases Value.decimalOfFloat_of_value? found with ⟨decimal, converted, equal⟩
            rw [Value.cast_money_of_rate same listed, converted]
            simp only [found, Except.map, Option.map_some]
            exact reflects_money (by ext <;> simp [equal])

/-- Each step has the result that it has in rational arithmetic, and fails where that has none. -/
theorem run_reflects (rates : Rates) (money : Money) (step : MoneyStep) :
    Reflects (step.run rates (.money money)) (step.expected? rates money.exact) := by
  cases step with
  | add term side => exact run_add_reflects rates money term side
  | subtract term side => exact run_subtract_reflects rates money term side
  | negate => exact reflects_money (by ext <;> simp)
  | multiplyInt factor side => exact run_multiplyInt_reflects rates money factor side
  | multiplyFloat factor side => exact run_multiplyFloat_reflects rates money factor side
  | cast target => exact run_cast_reflects rates money target

theorem follow_exact (rates : Rates) (money : Money) (step : MoneyStep) :
    ∃ next : Money, follow rates (.money money) step = .money next ∧
      next.exact = followExact rates money.exact step := by
  have reflected := run_reflects rates money step
  rw [follow, followExact]
  cases reached : step.run rates (.money money) with
  | ok value =>
      rw [reached] at reflected
      generalize step.expected? rates money.exact = result at reflected
      cases reflected with
      | money next => exact ⟨next, rfl, rfl⟩
  | error error =>
      rw [reached] at reflected
      generalize step.expected? rates money.exact = result at reflected
      cases reflected with
      | failure => exact ⟨money, rfl, rfl⟩

theorem foldl_follow_exact (rates : Rates) (start : Money) (steps : List MoneyStep) :
    ∃ final : Money, steps.foldl (follow rates) (.money start) = .money final ∧
      final.exact = steps.foldl (followExact rates) start.exact := by
  induction steps generalizing start with
  | nil => exact ⟨start, rfl, rfl⟩
  | cons step rest induction =>
      rcases follow_exact rates start step with ⟨next, followed, nextExact⟩
      rcases induction next with ⟨final, reached, finalExact⟩
      refine ⟨final, ?_, ?_⟩
      · rw [List.foldl_cons, followed, reached]
      · rw [List.foldl_cons, ← nextExact, finalExact]

end MoneyStep

end Ducat
