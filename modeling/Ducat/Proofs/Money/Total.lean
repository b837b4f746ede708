import Ducat.Proofs.Money.Calculation

/-! Sums of money depend neither on the order of the amounts nor on whether the amounts or the sum
are converted to another currency. -/

namespace Ducat

namespace ComparisonOperator

theorem equal_apply_money {first second : Money} (same : first.exact = second.exact) :
    equal.apply (.money first) (.money second) = .ok true := by
  have currencies : first.currency = second.currency := congrArg ExactMoney.currency same
  have values : first.amount.value = second.amount.value := congrArg ExactMoney.value same
  rw [apply, Value.order]
  simp [currencies, Decimal.order_eq_compare_value, values, Except.map, holds]

end ComparisonOperator

namespace Value

def total (first : Value) (rest : List Value) : Except RuntimeError Value :=
  rest.foldlM add first

theorem total_money {first : Money} {rest : List Money}
    (same : ∀ term ∈ rest, term.currency = first.currency) :
    ∃ sum : Money, total (.money first) (rest.map .money) = .ok (.money sum) ∧
      sum.currency = first.currency ∧
      sum.amount.value = ((first :: rest).map fun term => term.amount.value).sum := by
  induction rest generalizing first with
  | nil => exact ⟨first, rfl, rfl, by simp⟩
  | cons term rest induction =>
      have added : add (.money first) (.money term) =
          .ok (.money (first.withAmount (first.amount.add term.amount))) := by
        rw [add_money, if_pos (same term (List.mem_cons_self ..)).symm]
      have later : ∀ other ∈ rest, other.currency =
          (first.withAmount (first.amount.add term.amount)).currency :=
        fun other member => same other (List.mem_cons_of_mem _ member)
      rcases induction later with ⟨sum, reached, currency, value⟩
      refine ⟨sum, ?_, currency, ?_⟩
      · rw [total, List.map_cons, List.foldlM_cons, added]
        exact reached
      · rw [value]
        simp [add_assoc]

theorem currency_eq_of_total {first : Money} {rest : List Money} {sum : Value}
    (reached : total (.money first) (rest.map .money) = .ok sum) :
    ∀ term ∈ rest, term.currency = first.currency := by
  induction rest generalizing first with
  | nil => simp
  | cons term rest induction =>
      rw [total, List.map_cons, List.foldlM_cons, add_money] at reached
      split at reached
      case isTrue same =>
        have later := induction reached
        intro other member
        rcases List.mem_cons.mp member with equal | member
        · rw [equal, same]
        · exact later other member
      case isFalse => cases reached

theorem total_perm {first first' : Money} {rest rest' : List Money} {sum : Value}
    (permuted : (first :: rest).Perm (first' :: rest'))
    (reached : total (.money first) (rest.map .money) = .ok sum) :
    ∃ sum' : Value, total (.money first') (rest'.map .money) = .ok sum' ∧
      ComparisonOperator.equal.apply sum sum' = .ok true := by
  have same := currency_eq_of_total reached
  have everywhere : ∀ term ∈ first' :: rest', term.currency = first.currency := by
    intro term member
    rcases List.mem_cons.mp (permuted.mem_iff.mpr member) with equal | member
    · rw [equal]
    · exact same term member
  have head := everywhere first' (List.mem_cons_self ..)
  have same' : ∀ term ∈ rest', term.currency = first'.currency := fun term member =>
    (everywhere term (List.mem_cons_of_mem _ member)).trans head.symm
  rcases total_money same with ⟨money, reachedMoney, currency, value⟩
  rcases total_money same' with ⟨money', reachedMoney', currency', value'⟩
  rw [reached] at reachedMoney
  cases reachedMoney
  refine ⟨.money money', reachedMoney', ComparisonOperator.equal_apply_money ?_⟩
  ext
  · rw [Money.exact_value, Money.exact_value, value, value', (permuted.map _).sum_eq]
  · simp [currency, currency', head]

theorem cast_money_factor {money : Money} {target : String} {rates : Rates} {result : Value}
    (reached : cast (.money money) (.money (some target)) rates = .ok result) :
    ∃ factor : ℚ, ∀ other : Money, other.currency = money.currency →
      ∃ converted : Money, cast (.money other) (.money (some target)) rates =
          .ok (.money converted) ∧
        converted.currency = target ∧
        converted.amount.value = other.amount.value * factor := by
  by_cases same : money.currency = target
  · refine ⟨1, fun other equal => ⟨other, ?_, equal.trans same, by rw [mul_one]⟩⟩
    exact cast_money_of_eq (equal.trans same)
  · cases listed : rates.rate? money.currency target with
    | none =>
        rw [cast_money_of_missing same listed] at reached
        cases reached
    | some rate =>
        rw [cast_money_of_rate same listed] at reached
        cases converted : decimalOfFloat rate with
        | error error =>
            rw [converted] at reached
            cases reached
        | ok factor =>
            refine ⟨factor.value, fun other equal =>
              ⟨⟨other.amount.convert factor, target⟩, ?_, rfl, by simp⟩⟩
            rw [cast_money_of_rate (equal ▸ same) (equal ▸ listed), converted]
            rfl

theorem mapM_cast_money {source target : String} {rates : Rates} {factor : ℚ}
    (convertible : ∀ other : Money, other.currency = source →
      ∃ converted : Money, cast (.money other) (.money (some target)) rates =
          .ok (.money converted) ∧
        converted.currency = target ∧ converted.amount.value = other.amount.value * factor)
    {terms : List Money} (same : ∀ term ∈ terms, term.currency = source) :
    ∃ converted : List Money,
      (terms.map Value.money).mapM (fun term => cast term (.money (some target)) rates) =
        .ok (converted.map Value.money) ∧
      (∀ term ∈ converted, term.currency = target) ∧
      (converted.map fun term => term.amount.value).sum =
        (terms.map fun term => term.amount.value).sum * factor := by
  induction terms with
  | nil => exact ⟨[], rfl, by simp, by simp⟩
  | cons term rest induction =>
      rcases convertible term (same term (List.mem_cons_self ..)) with
        ⟨first, reached, currency, value⟩
      rcases induction fun other member => same other (List.mem_cons_of_mem _ member) with
        ⟨others, reachedOthers, currencies, values⟩
      refine ⟨first :: others, ?_, ?_, ?_⟩
      · rw [List.map_cons, List.mapM_cons, reached, reachedOthers]
        rfl
      · intro other member
        rcases List.mem_cons.mp member with equal | member
        · rw [equal, currency]
        · exact currencies other member
      · simp only [List.map_cons, List.sum_cons, value, values, add_mul]

def castTotal (rates : Rates) (target : String) (first : Value) (rest : List Value) :
    Except RuntimeError Value := do
  cast (← total first rest) (.money (some target)) rates

def totalOfCasts (rates : Rates) (target : String) (first : Value) (rest : List Value) :
    Except RuntimeError Value := do
  let first ← cast first (.money (some target)) rates
  total first (← rest.mapM fun term => cast term (.money (some target)) rates)

theorem castTotal_eq_totalOfCasts {rates : Rates} {target : String} {first : Money}
    {rest : List Money} {result : Value}
    (reached : castTotal rates target (.money first) (rest.map .money) = .ok result) :
    ∃ result' : Value,
      totalOfCasts rates target (.money first) (rest.map .money) = .ok result' ∧
      ComparisonOperator.equal.apply result result' = .ok true := by
  rw [castTotal] at reached
  cases summed : total (.money first) (rest.map .money) with
  | error error =>
      rw [summed] at reached
      cases reached
  | ok value =>
      have same := currency_eq_of_total summed
      rcases total_money same with ⟨sum, reachedSum, currency, sumValue⟩
      rw [summed] at reachedSum
      cases reachedSum
      rw [summed] at reached
      rcases cast_money_factor reached with ⟨factor, convertible⟩
      rcases convertible sum rfl with ⟨money, castSum, castCurrency, castValue⟩
      rcases convertible first currency.symm with ⟨head, castHead, headCurrency, headValue⟩
      have everywhere : ∀ term ∈ rest, term.currency = sum.currency :=
        fun term member => (same term member).trans currency.symm
      rcases mapM_cast_money convertible everywhere with
        ⟨tail, castTail, tailCurrency, tailValue⟩
      have together : ∀ term ∈ tail, term.currency = head.currency :=
        fun term member => (tailCurrency term member).trans headCurrency.symm
      rcases total_money together with ⟨total, reachedTotal, totalCurrency, totalValue⟩
      have equal : result = .money money := by
        change cast (.money sum) (.money (some target)) rates = .ok result at reached
        rw [castSum] at reached
        cases reached
        rfl
      refine ⟨.money total, ?_, ?_⟩
      · rw [totalOfCasts, castHead, castTail]
        exact reachedTotal
      · rw [equal]
        apply ComparisonOperator.equal_apply_money
        ext
        · simp only [Money.exact_value, castValue, sumValue, totalValue, List.map_cons,
            List.sum_cons, headValue, tailValue, add_mul]
        · simp [castCurrency, totalCurrency, headCurrency]

end Value

/-- Every calculation with money has the result of rational arithmetic, in which every finite number
and rate has the value of its text. Hence neither the order in which amounts are added matters, nor
whether they are converted before or after. -/
theorem money_calculations_exact (rates : Rates) :
    (∀ number : Float, Positional.value? (Double.text number) = none ↔
      (Double.ofFloat number).isFinite = false) ∧
    (∀ (money : Money) (step : MoneyStep),
      MoneyStep.Reflects (step.run rates (.money money)) (step.expected? rates money.exact)) ∧
    (∀ (start : Money) (steps : List MoneyStep),
      ∃ final : Money, steps.foldl (MoneyStep.follow rates) (.money start) = .money final ∧
        final.exact = steps.foldl (MoneyStep.followExact rates) start.exact) ∧
    (∀ (first first' : Money) (rest rest' : List Money) (sum : Value),
      (first :: rest).Perm (first' :: rest') →
      Value.total (.money first) (rest.map .money) = .ok sum →
      ∃ sum', Value.total (.money first') (rest'.map .money) = .ok sum' ∧
        ComparisonOperator.equal.apply sum sum' = .ok true) ∧
    ∀ (target : String) (first : Money) (rest : List Money) (result : Value),
      Value.castTotal rates target (.money first) (rest.map .money) = .ok result →
      ∃ result', Value.totalOfCasts rates target (.money first) (rest.map .money) = .ok result' ∧
        ComparisonOperator.equal.apply result result' = .ok true := by
  refine ⟨Positional.value?_text_eq_none_iff, MoneyStep.run_reflects rates,
    MoneyStep.foldl_follow_exact rates, ?_, ?_⟩
  · intro first first' rest rest' sum permuted reached
    exact Value.total_perm permuted reached
  · intro target first rest result reached
    exact Value.castTotal_eq_totalOfCasts reached

def plainOne : Money := ⟨⟨100, 2⟩, "A"⟩

def negativeScale : Money := ⟨⟨5, -3⟩, "A"⟩

def longZero : Money := ⟨⟨0, 40⟩, "A"⟩

def halfRate : Rates := Rates.empty.insertRow "A" [("B", 0.5)]

theorem money_calculations_exact_of_mixed_forms :
    ([plainOne, negativeScale, longZero].Perm [longZero, plainOne, negativeScale] ∧
      Value.total (.money plainOne) ([negativeScale, longZero].map .money) =
        .ok (.money ⟨⟨500100000000000000000, 17⟩, "A"⟩) ∧
      ∃ sum', Value.total (.money longZero) ([plainOne, negativeScale].map .money) = .ok sum' ∧
        ComparisonOperator.equal.apply (.money ⟨⟨500100000000000000000, 17⟩, "A"⟩) sum' =
          .ok true) ∧
    Value.castTotal halfRate "B" (.money plainOne) ([negativeScale, longZero].map .money) =
        .ok (.money ⟨⟨2500500000000000000000, 18⟩, "B"⟩) ∧
      ∃ result', Value.totalOfCasts halfRate "B" (.money plainOne)
          ([negativeScale, longZero].map .money) = .ok result' ∧
        ComparisonOperator.equal.apply (.money ⟨⟨2500500000000000000000, 18⟩, "B"⟩) result' =
          .ok true := by
  rcases money_calculations_exact halfRate with ⟨_, _, _, permuted, converted⟩
  have moved : ([plainOne, negativeScale] ++ [longZero]).Perm
      ([longZero] ++ [plainOne, negativeScale]) := List.perm_append_comm
  exact ⟨⟨moved, rfl, permuted _ _ _ _ _ moved rfl⟩, rfl, converted _ _ _ _ rfl⟩

end Ducat
