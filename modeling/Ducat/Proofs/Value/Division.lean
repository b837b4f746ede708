import Ducat.Proofs.Number.Vanishing
import Ducat.Value.Arithmetic

/-! Main statement: a division of values fails for the reason that its operands give, and no whole
number or decimal is ever divided by zero. -/

namespace Ducat

def Integer.quotient? (dividend divisor : Int64) : Option Int :=
  if divisor = 0 then none else some (dividend.toInt.tdiv divisor.toInt)

def Decimal.divide? (left right : Decimal) : Option Decimal :=
  if right.isZero then none else some (left.divide right)

/-- Only the least number divided by minus one is out of range. -/
theorem Integer.exists_toInt_eq_tdiv {dividend divisor : Int64} (nonzero : divisor ≠ 0)
    (fits : dividend ≠ Int64.minValue ∨ divisor ≠ -1) :
    ∃ quotient, ofInt? (dividend.toInt.tdiv divisor.toInt) = some quotient ∧
      quotient.toInt = dividend.toInt.tdiv divisor.toInt := by
  have lower := dividend.le_toInt
  have upper := dividend.toInt_lt
  have minimal : dividend = Int64.minValue ↔ dividend.toInt = -0x8000000000000000 := by
    rw [← Int64.toInt_inj]
    rfl
  have opposite : divisor = -1 ↔ divisor.toInt = -1 := by
    rw [← Int64.toInt_inj]
    rfl
  have vanishing : divisor = 0 ↔ divisor.toInt = 0 := by
    rw [← Int64.toInt_inj]
    rfl
  rw [Ne, minimal, Ne, opposite] at fits
  rw [Ne, vanishing] at nonzero
  generalize dividend.toInt = number at *
  generalize divisor.toInt = other at *
  have range : minimum ≤ number.tdiv other ∧ number.tdiv other ≤ maximum := by
    unfold minimum maximum
    have size : (number.tdiv other).natAbs = number.natAbs / other.natAbs :=
      Int.natAbs_tdiv number other
    by_cases unit : other.natAbs = 1
    · have sign : other = 1 ∨ other = -1 := by omega
      rcases sign with rfl | rfl
      · rw [Int.tdiv_one]
        omega
      · rw [Int.tdiv_neg, Int.tdiv_one]
        omega
    · have half : number.natAbs / other.natAbs ≤ number.natAbs / 2 :=
        Nat.div_le_div_left (by omega) (by decide)
      omega
  exact ⟨Int64.ofInt (number.tdiv other), if_pos range, toInt_of_ofInt? (if_pos range)⟩

theorem Integer.ofInt?_tdiv_eq_none :
    ofInt? (Int64.minValue.toInt.tdiv (-1 : Int64).toInt) = none := by
  decide

namespace Value

/-- Zero as a whole number, as a floating-point number of either sign, or as an amount at any
scale. -/
def IsZero : Value → Prop
  | int number => number = 0
  | float number => number.toBits = 0 ∨ number.toBits = 0x8000000000000000
  | money amount => amount.amount.digits = 0
  | string _ | bool _ => False

def IsDivisibleBy : Value → Value → Prop
  | int _, int _ | int _, float _ | float _, int _ | float _, float _ => True
  | money _, int _ | money _, float _ => True
  | money first, money second => first.currency = second.currency
  | _, _ => False

def isForeignTo : Value → Value → Bool
  | money first, money second => first.currency != second.currency
  | _, _ => false

/-- Divides like `quotient`, as long as no whole number or decimal is divided by zero. -/
def quotient? (left right : Value) : Option (Except RuntimeError Value) :=
  match left, right with
  | int first, int second => (Integer.quotient? first second).map (whole (.binary .divide))
  | money amount, int divisor =>
      (amount.amount.divide? (.ofInt divisor.toInt)).map fun quotient =>
        .ok (money (amount.withAmount quotient))
  | money amount, float divisor =>
      match decimalOfFloat divisor with
      | .error error => some (.error error)
      | .ok divisor => (amount.amount.divide? divisor).map fun quotient =>
          .ok (money (amount.withAmount quotient))
  | money first, money second =>
      (first.amount.divide? second.amount).map fun quotient => do
        return float (← floatOfDecimal quotient)
  | _, _ => some (quotient left right)

def divide? (left right : Value) : Option (Except RuntimeError Value) :=
  if left.isForeignTo right then some (.error (.differentTypes left right))
  else if isZeroDivisor left right then some (.error .divisionByZero)
  else quotient? left right

variable {left right : Value}

theorem divide_of_foreign (foreign : left.isForeignTo right) :
    left.divide right = .error (.differentTypes left right) := by
  cases left with
  | money first =>
      cases right with
      | money second =>
          have different : first.currency ≠ second.currency := bne_iff_ne.mp foreign
          exact if_pos different
      | int | float | string | bool => cases foreign
  | int | float | string | bool => cases foreign

theorem divide_of_domestic (domestic : left.isForeignTo right = false) :
    left.divide right =
      if isZeroDivisor left right then .error .divisionByZero else quotient left right := by
  cases left with
  | money first =>
      cases right with
      | money second =>
          have same : ¬ first.currency ≠ second.currency := by simpa [isForeignTo] using domestic
          exact if_neg same
      | int | float | string | bool => rfl
  | int | float | string | bool => rfl

theorem isZeroDivisor_iff (domestic : left.isForeignTo right = false) :
    isZeroDivisor left right ↔ left.IsDivisibleBy right ∧ right.IsZero := by
  have whole (divisor : Int64) : (divisor.toInt == 0) = true ↔ divisor = 0 := by
    rw [beq_iff_eq, ← Int64.toInt_inj]
    rfl
  cases left with
  | int | float =>
      cases right with
      | int divisor => simp [isZeroDivisor, IsDivisibleBy, IsZero, whole]
      | float divisor => simp [isZeroDivisor, IsDivisibleBy, IsZero, Double.isZero_ofFloat_iff]
      | string | bool | money => simp [isZeroDivisor, IsDivisibleBy]
  | money first =>
      cases right with
      | int divisor => simp [isZeroDivisor, IsDivisibleBy, IsZero, whole]
      | float divisor => simp [isZeroDivisor, IsDivisibleBy, IsZero, Double.isZero_ofFloat_iff]
      | string | bool => simp [isZeroDivisor, IsDivisibleBy]
      | money second =>
          have same : first.currency = second.currency := by simpa [isForeignTo] using domestic
          simp [isZeroDivisor, IsDivisibleBy, IsZero, Decimal.isZero, same]
  | string | bool => simp [isZeroDivisor, IsDivisibleBy]

/-- What is not recognized as zero is not zero either once it is converted. -/
theorem quotient?_eq (nonzero : isZeroDivisor left right = false) :
    quotient? left right = some (quotient left right) := by
  cases left with
  | int dividend =>
      cases right with
      | int divisor =>
          have other : divisor ≠ 0 := by
            rintro rfl
            cases nonzero
          rw [quotient?, Integer.quotient?, if_neg other]
          rfl
      | float | string | bool | money => rfl
  | money first =>
      cases right with
      | int divisor =>
          have other : (Decimal.ofInt divisor.toInt).isZero = false := nonzero
          simp only [quotient?, Decimal.divide?, other]
          rfl
      | float divisor =>
          simp only [quotient?, quotient]
          cases converted : decimalOfFloat divisor with
          | error error => rfl
          | ok decimal =>
              have other : decimal.isZero = false := by
                rw [decimalOfFloat] at converted
                split at converted <;> cases converted
                next found => exact (Decimal.isZero_of_ofFloat? found).trans nonzero
              simp only [Decimal.divide?, other]
              rfl
      | money second =>
          have other : second.amount.isZero = false := nonzero
          simp only [quotient?, Decimal.divide?, other]
          rfl
      | string | bool => rfl
  | float | string | bool => cases right <;> rfl

theorem divide?_eq (left right : Value) : left.divide? right = some (left.divide right) := by
  unfold divide?
  split
  next foreign => rw [divide_of_foreign foreign]
  next domestic =>
      rw [divide_of_domestic (Bool.eq_false_iff.mpr domestic)]
      split
      next => rfl
      next nonzero => exact quotient?_eq (Bool.eq_false_iff.mpr nonzero)

theorem quotient_of_not_divisible (domestic : left.isForeignTo right = false)
    (refused : ¬ left.IsDivisibleBy right) :
    quotient left right = .error (.unsupportedOperands .divide left.type right.type) := by
  cases left with
  | money first =>
      cases right with
      | money second =>
          have same : first.currency = second.currency := by simpa [isForeignTo] using domestic
          exact absurd same refused
      | int | float => exact absurd trivial refused
      | string | bool => rfl
  | int | float =>
      cases right with
      | int | float => exact absurd trivial refused
      | string | bool | money => rfl
  | string | bool => cases right <;> rfl

/-- The operands of a division fit each other, but its result or one of them has no number of the
kind that is wanted. -/
inductive QuotientFailure : Value → Value → RuntimeError → Prop where
  | overflow : QuotientFailure (int Int64.minValue) (int (-1)) (.overflow (.binary .divide))
  | dividend {number : Int64} {divisor : Float} (inexact : Double.ofInteger? number = none) :
      QuotientFailure (int number) (float divisor) (.invalidNumber (Integer.text number) .float)
  | divisor {dividend : Float} {number : Int64} (inexact : Double.ofInteger? number = none) :
      QuotientFailure (float dividend) (int number) (.invalidNumber (Integer.text number) .float)
  | share {amount : Money} {divisor : Float} (boundless : Decimal.ofFloat? divisor = none) :
      QuotientFailure (money amount) (float divisor) (.invalidNumber (Double.text divisor) .money)
  | ratio {first second : Money}
      (tooLarge : (first.amount.divide second.amount).toFloat? = none) :
      QuotientFailure (money first) (money second)
        (.invalidNumber (first.amount.divide second.amount).text .float)

theorem quotient_int {dividend divisor : Int64} (nonzero : divisor ≠ 0)
    (fits : dividend ≠ Int64.minValue ∨ divisor ≠ -1) :
    ∃ number, quotient (int dividend) (int divisor) = .ok (int number) ∧
      number.toInt = dividend.toInt.tdiv divisor.toInt := by
  rcases Integer.exists_toInt_eq_tdiv nonzero fits with ⟨number, found, exact⟩
  refine ⟨number, ?_, exact⟩
  change whole _ (dividend.toInt.tdiv divisor.toInt) = _
  rw [whole, found]

theorem quotient_int_overflow :
    quotient (int Int64.minValue) (int (-1)) = .error (.overflow (.binary .divide)) := by
  change whole _ (Int64.minValue.toInt.tdiv (-1 : Int64).toInt) = _
  rw [whole, Integer.ofInt?_tdiv_eq_none]

theorem error_of_conversion {α : Type} {conversion : Except RuntimeError α} {build : α → Value}
    {error : RuntimeError} :
    (do return build (← conversion)) = Except.error error ↔ conversion = .error error := by
  cases conversion with
  | error other => rw [Except.error.injEq]; exact Except.error.injEq other error ▸ Iff.rfl
  | ok converted => exact ⟨nofun, nofun⟩

theorem floatOfInteger_eq_error_iff {number : Int64} {error : RuntimeError} :
    floatOfInteger number = .error error ↔
      Double.ofInteger? number = none ∧ error = .invalidNumber (Integer.text number) .float := by
  unfold floatOfInteger
  cases Double.ofInteger? number <;> simp [eq_comm]

theorem decimalOfFloat_eq_error_iff {number : Float} {error : RuntimeError} :
    decimalOfFloat number = .error error ↔
      Decimal.ofFloat? number = none ∧ error = .invalidNumber (Double.text number) .money := by
  unfold decimalOfFloat
  cases Decimal.ofFloat? number <;> simp [eq_comm]

theorem floatOfDecimal_eq_error_iff {number : Decimal} {error : RuntimeError} :
    floatOfDecimal number = .error error ↔
      number.toFloat? = none ∧ error = .invalidNumber number.text .float := by
  unfold floatOfDecimal
  cases number.toFloat? <;> simp [eq_comm]

theorem quotient_eq_error_iff {error : RuntimeError} (divisible : left.IsDivisibleBy right)
    (nonzero : ¬ right.IsZero) :
    quotient left right = .error error ↔ QuotientFailure left right error := by
  constructor
  · intro failed
    cases left with
    | int number =>
        cases right with
        | int other =>
            by_cases edge : number = Int64.minValue ∧ other = -1
            · rcases edge with ⟨rfl, rfl⟩
              cases quotient_int_overflow.symm.trans failed
              exact .overflow
            · have fits := Decidable.not_and_iff_or_not.mp edge
              rcases quotient_int nonzero fits with ⟨_, found, -⟩
              cases found.symm.trans failed
        | float other =>
            rcases floatOfInteger_eq_error_iff.mp (error_of_conversion.mp failed)
              with ⟨inexact, rfl⟩
            exact .dividend inexact
        | string | bool | money => cases divisible
    | float number =>
        cases right with
        | int other =>
            rcases floatOfInteger_eq_error_iff.mp (error_of_conversion.mp failed)
              with ⟨inexact, rfl⟩
            exact .divisor inexact
        | float other => cases failed
        | string | bool | money => cases divisible
    | money amount =>
        cases right with
        | int other => cases failed
        | float other =>
            rcases decimalOfFloat_eq_error_iff.mp (error_of_conversion.mp failed)
              with ⟨boundless, rfl⟩
            exact .share boundless
        | money other =>
            rcases floatOfDecimal_eq_error_iff.mp (error_of_conversion.mp failed)
              with ⟨tooLarge, rfl⟩
            exact .ratio tooLarge
        | string | bool => cases divisible
    | string | bool => cases divisible
  · intro failure
    cases failure with
    | overflow => exact quotient_int_overflow
    | dividend inexact | divisor inexact =>
        exact error_of_conversion.mpr (floatOfInteger_eq_error_iff.mpr ⟨inexact, rfl⟩)
    | share boundless =>
        exact error_of_conversion.mpr (decimalOfFloat_eq_error_iff.mpr ⟨boundless, rfl⟩)
    | ratio tooLarge =>
        exact error_of_conversion.mpr (floatOfDecimal_eq_error_iff.mpr ⟨tooLarge, rfl⟩)

theorem domestic_of_isDivisibleBy (divisible : left.IsDivisibleBy right) :
    left.isForeignTo right = false := by
  cases left with
  | money first =>
      cases right with
      | money second =>
          have same : first.currency = second.currency := divisible
          simp [isForeignTo, same]
      | int | float | string | bool => rfl
  | int | float | string | bool => rfl

theorem divide_by_zero (divisible : left.IsDivisibleBy right) (zero : right.IsZero) :
    left.divide right = .error .divisionByZero := by
  have domestic := domestic_of_isDivisibleBy divisible
  rw [divide_of_domestic domestic, if_pos ((isZeroDivisor_iff domestic).mpr ⟨divisible, zero⟩)]

theorem divide_eq_quotient (domestic : left.isForeignTo right = false)
    (safe : ¬ (left.IsDivisibleBy right ∧ right.IsZero)) :
    left.divide right = quotient left right := by
  rw [divide_of_domestic domestic, if_neg (mt (isZeroDivisor_iff domestic).mp safe)]

theorem divide_eq_divisionByZero_iff :
    left.divide right = .error .divisionByZero ↔ left.IsDivisibleBy right ∧ right.IsZero := by
  constructor
  · intro failed
    refine Classical.byContradiction fun safe => ?_
    cases foreign : left.isForeignTo right with
    | true => cases (divide_of_foreign foreign).symm.trans failed
    | false =>
        rw [divide_eq_quotient foreign safe] at failed
        by_cases divisible : left.IsDivisibleBy right
        · have nonzero : ¬ right.IsZero := fun zero => safe ⟨divisible, zero⟩
          cases (quotient_eq_error_iff divisible nonzero).mp failed
        · cases (quotient_of_not_divisible foreign divisible).symm.trans failed
  · rintro ⟨divisible, zero⟩
    exact divide_by_zero divisible zero

end Value

/-- A division by zero fails as such exactly where the operands could otherwise be divided, amounts
in different currencies fail as such even where one of them is zero, and operands that cannot be
divided are refused for their types. Everything else is divided, by what is not zero, and fails
only where a number is too large for its kind or has no equal in the other one. -/
theorem division_fails_for_its_reason (left right : Value) :
    (left.divide right = .error .divisionByZero ↔ left.IsDivisibleBy right ∧ right.IsZero) ∧
    (left.isForeignTo right → left.divide right = .error (.differentTypes left right)) ∧
    (left.isForeignTo right = false → ¬ left.IsDivisibleBy right →
      left.divide right = .error (.unsupportedOperands .divide left.type right.type)) ∧
    (left.IsDivisibleBy right → ¬ right.IsZero → ∀ error,
      left.divide right = .error error ↔ left.QuotientFailure right error) ∧
    left.divide? right = some (left.divide right) ∧
    ∀ dividend divisor : Int64, left = .int dividend → right = .int divisor → divisor ≠ 0 →
      (dividend ≠ Int64.minValue ∨ divisor ≠ -1) →
        ∃ number, left.divide right = .ok (.int number) ∧
          number.toInt = dividend.toInt.tdiv divisor.toInt := by
  refine ⟨Value.divide_eq_divisionByZero_iff, Value.divide_of_foreign, ?_, ?_,
    Value.divide?_eq left right, ?_⟩
  · intro domestic refused
    rw [Value.divide_eq_quotient domestic fun both => refused both.1]
    exact Value.quotient_of_not_divisible domestic refused
  · intro divisible nonzero error
    rw [Value.divide_eq_quotient (Value.domestic_of_isDivisibleBy divisible)
      fun both => nonzero both.2]
    exact Value.quotient_eq_error_iff divisible nonzero
  · rintro dividend divisor rfl rfl nonzero fits
    have safe : ¬ (Value.IsDivisibleBy (.int dividend) (.int divisor) ∧ divisor = 0) :=
      fun both => nonzero both.2
    rw [Value.divide_eq_quotient rfl safe]
    exact Value.quotient_int nonzero fits

def noDollars : Money := ⟨⟨0, 2⟩, "USD"⟩

theorem division_fails_for_its_reason_of_zeros :
    Value.divide (.money noDollars) (.money noDollars) = .error .divisionByZero ∧
    Value.divide (.money ⟨⟨1, 0⟩, "EUR"⟩) (.money noDollars) =
      .error (.differentTypes (.money ⟨⟨1, 0⟩, "EUR"⟩) (.money noDollars)) ∧
    Value.divide (.string "a") (.int 0) = .error (.unsupportedOperands .divide .string .int) ∧
    Value.divide (.int Int64.minValue) (.int (-1)) = .error (.overflow (.binary .divide)) ∧
    ∃ number, Value.divide (.int (-7)) (.int 2) = .ok (.int number) ∧
      number.toInt = Int.tdiv (-7) 2 := by
  refine ⟨?_, ?_, ?_, ?_, ?_⟩
  · exact (division_fails_for_its_reason _ _).1.mpr ⟨rfl, rfl⟩
  · exact (division_fails_for_its_reason _ _).2.1 rfl
  · exact (division_fails_for_its_reason _ _).2.2.1 rfl id
  · have nonzero : ¬ (Value.int (-1)).IsZero := by
      unfold Value.IsZero
      decide
    have reasons := division_fails_for_its_reason (.int Int64.minValue) (.int (-1))
    exact (reasons.2.2.2.1 trivial nonzero _).mpr .overflow
  · have reasons := division_fails_for_its_reason (.int (-7)) (.int 2)
    exact reasons.2.2.2.2.2 (-7) 2 rfl rfl (by decide) (.inl (by decide))

end Ducat
