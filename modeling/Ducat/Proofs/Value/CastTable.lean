import Ducat.Proofs.Money.Calculation

/-! Main statement: a cast is a projection onto the values of its target. It leaves them as they
are, gives nothing else, and is refused exactly where a table of types says so. -/

namespace Ducat

namespace ValueType

inductive Kind where
  | int
  | float
  | string
  | bool
  | money
  | void
deriving DecidableEq, Repr

def kind : ValueType → Kind
  | int => .int
  | float => .float
  | string => .string
  | bool => .bool
  | money _ => .money
  | void => .void

/-- The table of casts: the kinds of target for values of each kind. -/
def Kind.castTargets : Kind → List Kind
  | int | float | money => [int, float, string, money]
  | string => [int, float, string]
  | bool => [string, bool]
  | void => []

/-- The table has no cast from `source` to `target`, or it has one into a currency, but the target
names none. -/
def Kind.Uncastable (source : Kind) (target : ValueType) : Prop :=
  target.kind ∉ source.castTargets ∨
    target = .money none ∧ source ∈ [int, float, money]

instance (source : Kind) (target : ValueType) : Decidable (source.Uncastable target) :=
  inferInstanceAs (Decidable (_ ∨ _))

@[simp] theorem accepts_iff {target : ValueType} {value : Value} :
    target.accepts value ↔ target = value.type := by
  rw [accepts, beq_iff_eq]

end ValueType

def NumberKind.valueKind : NumberKind → ValueType.Kind
  | int => .int
  | float => .float
  | money => .money

namespace Value

open ValueType (Kind)

/-- The conversion gives a number unless none of its kind is the right one. -/
inductive Converts {α : Type} (kind : NumberKind) : Except RuntimeError α → Prop where
  | given (number : α) : Converts kind (.ok number)
  | invalid (text : String) : Converts kind (.error (.invalidNumber text kind))

theorem floatOfInteger_converts (number : Int64) : Converts .float (floatOfInteger number) := by
  unfold floatOfInteger
  split <;> constructor

theorem integerOfFloat_converts (number : Float) : Converts .int (integerOfFloat number) := by
  unfold integerOfFloat
  split <;> constructor

theorem decimalOfFloat_converts (number : Float) : Converts .money (decimalOfFloat number) := by
  unfold decimalOfFloat
  split <;> constructor

theorem floatOfDecimal_converts (number : Decimal) : Converts .float (floatOfDecimal number) := by
  unfold floatOfDecimal
  split <;> constructor

theorem integerOfDecimal_converts (number : Decimal) : Converts .int (integerOfDecimal number) := by
  unfold integerOfDecimal
  split <;> constructor

theorem integerOfText_converts (text : String) : Converts .int (integerOfText text) := by
  unfold integerOfText
  split <;> constructor

theorem floatOfText_converts (text : String) : Converts .float (floatOfText text) := by
  unfold floatOfText
  split <;> constructor

inductive CastEnds (value : Value) (target : ValueType) (rates : Rates) :
    Except RuntimeError Value → Prop where
  | given {result : Value} (castable : ¬ value.type.kind.Uncastable target)
      (instanceOf : target = result.type) : CastEnds value target rates (.ok result)
  | unsupported (uncastable : value.type.kind.Uncastable target) :
      CastEnds value target rates (.error (.unsupportedCast value.type target))
  | invalidNumber {kind : NumberKind} (castable : ¬ value.type.kind.Uncastable target)
      (sameKind : kind.valueKind = target.kind) (text : String) :
      CastEnds value target rates (.error (.invalidNumber text kind))
  | missingRate {money : Money} {currency : String} (valueEq : value = .money money)
      (targetEq : target = .money (some currency)) (different : money.currency ≠ currency)
      (missing : rates.rate? money.currency currency = none) :
      CastEnds value target rates (.error (.missingRate money.currency currency))

theorem Converts.castEnds {α : Type} {kind : NumberKind} {conversion : Except RuntimeError α}
    {value : Value} {target : ValueType} {rates : Rates} {make : α → Value}
    (converts : Converts kind conversion) (castable : ¬ value.type.kind.Uncastable target)
    (sameKind : kind.valueKind = target.kind)
    (instanceOf : ∀ number, target = (make number).type) :
    CastEnds value target rates (do return make (← conversion)) := by
  cases converts with
  | given number => exact .given castable (instanceOf number)
  | invalid text => exact .invalidNumber castable sameKind text

theorem convert_castEnds (money : Money) (currency : String) (rates : Rates) :
    CastEnds (.money money) (.money (some currency)) rates
      (do return .money (← money.convert currency rates)) := by
  have castable : ¬ (Value.money money).type.kind.Uncastable (.money (some currency)) :=
    of_decide_eq_true rfl
  by_cases same : money.currency = currency
  · rw [Money.convert, if_pos same]
    exact .given castable (congrArg (ValueType.money ∘ some) same.symm)
  rw [Money.convert, if_neg same]
  cases listed : rates.rate? money.currency currency with
  | none => exact .missingRate rfl rfl same listed
  | some rate =>
      simp only [bind_assoc, pure_bind]
      exact (decimalOfFloat_converts rate).castEnds castable rfl fun _ => rfl

theorem cast_castEnds (value : Value) (target : ValueType) (rates : Rates) :
    CastEnds value target rates (value.cast target rates) :=
  match value, target with
  | .int _, .int | .float _, .float | .string _, .string | .bool _, .bool
  | .int _, .string | .float _, .string | .bool _, .string | .money _, .string
  | .int _, .money (some _) =>
      .given (of_decide_eq_true rfl) rfl
  | .int number, .float =>
      (floatOfInteger_converts number).castEnds (of_decide_eq_true rfl) rfl fun _ => rfl
  | .float number, .int =>
      (integerOfFloat_converts number).castEnds (of_decide_eq_true rfl) rfl fun _ => rfl
  | .float number, .money (some _) =>
      (decimalOfFloat_converts number).castEnds (of_decide_eq_true rfl) rfl fun _ => rfl
  | .money sum, .int =>
      (integerOfDecimal_converts sum.amount).castEnds (of_decide_eq_true rfl) rfl fun _ => rfl
  | .money sum, .float =>
      (floatOfDecimal_converts sum.amount).castEnds (of_decide_eq_true rfl) rfl fun _ => rfl
  | .string text, .int =>
      (integerOfText_converts text).castEnds (of_decide_eq_true rfl) rfl fun _ => rfl
  | .string text, .float =>
      (floatOfText_converts text).castEnds (of_decide_eq_true rfl) rfl fun _ => rfl
  | .money sum, .money (some currency) => convert_castEnds sum currency rates
  | .int _, .bool | .float _, .bool | .string _, .bool | .money _, .bool
  | .bool _, .int | .bool _, .float
  | .string _, .money _ | .bool _, .money _
  | .int _, .money none | .float _, .money none | .money _, .money none
  | .int _, .void | .float _, .void | .string _, .void | .bool _, .void | .money _, .void =>
      .unsupported (of_decide_eq_true rfl)

variable {value result : Value} {target : ValueType} {rates : Rates}

theorem cast_of_type_eq (rates : Rates) (instanceOf : target = value.type) :
    value.cast target rates = .ok value := by
  subst instanceOf
  cases value with
  | money => exact cast_money_of_eq rfl
  | int | float | string | bool => rfl

theorem type_eq_of_cast (given : value.cast target rates = .ok result) : target = result.type := by
  have ends := cast_castEnds value target rates
  rw [given] at ends
  cases ends with
  | given _ instanceOf => exact instanceOf

theorem cast_eq_unsupportedCast_iff :
    (∃ source found, value.cast target rates = .error (.unsupportedCast source found)) ↔
      value.type.kind.Uncastable target := by
  have ends := cast_castEnds value target rates
  constructor
  · rintro ⟨source, found, refused⟩
    rw [refused] at ends
    cases ends with
    | unsupported uncastable => exact uncastable
  · intro uncastable
    generalize value.cast target rates = outcome at ends
    cases ends with
    | given castable => exact absurd uncastable castable
    | unsupported => exact ⟨_, _, rfl⟩
    | invalidNumber castable => exact absurd uncastable castable
    | missingRate valueEq targetEq =>
        subst valueEq targetEq
        exact absurd uncastable (of_decide_eq_true rfl)

end Value

/-- A cast leaves the values of its target as they are and gives no others. It is refused exactly
where the table of casts has no entry, or the target is a currency without a name. -/
theorem cast_projects_onto_type (value : Value) (target : ValueType) (rates : Rates) :
    (target.accepts value → value.cast target rates = .ok value) ∧
    (∀ result, value.cast target rates = .ok result →
      target.accepts result ∧ ∀ otherRates, result.cast target otherRates = .ok result) ∧
    ((∃ source found, value.cast target rates = .error (.unsupportedCast source found)) ↔
      value.type.kind.Uncastable target) ∧
    ∀ error, value.cast target rates = .error error →
      error = .unsupportedCast value.type target ∨
      (∃ text kind, kind.valueKind = target.kind ∧ error = .invalidNumber text kind) ∨
      ∃ money currency, value = .money money ∧ target = .money (some currency) ∧
        money.currency ≠ currency ∧ rates.rate? money.currency currency = none ∧
        error = .missingRate money.currency currency := by
  refine ⟨?own, ?given, Value.cast_eq_unsupportedCast_iff, ?failed⟩
  case own =>
    intro accepted
    exact Value.cast_of_type_eq rates (ValueType.accepts_iff.mp accepted)
  case given =>
    intro result given
    have instanceOf := Value.type_eq_of_cast given
    exact ⟨ValueType.accepts_iff.mpr instanceOf, fun _ => Value.cast_of_type_eq _ instanceOf⟩
  case failed =>
    intro error failed
    have ends := Value.cast_castEnds value target rates
    rw [failed] at ends
    cases ends with
    | unsupported => exact .inl rfl
    | invalidNumber _ sameKind text => exact .inr (.inl ⟨text, _, sameKind, rfl⟩)
    | missingRate valueEq targetEq different missing =>
        exact .inr (.inr ⟨_, _, valueEq, targetEq, different, missing, rfl⟩)

def tenEuros : Money := ⟨⟨10, 0⟩, "EUR"⟩

theorem cast_projects_onto_type_of_tenEuros :
    (Value.money tenEuros).cast (.money (some "EUR")) .empty = .ok (.money tenEuros) ∧
    (∀ otherRates : Rates, (Value.int 10).cast .int otherRates = .ok (.int 10)) ∧
    (∃ source found, (Value.money tenEuros).cast (.money none) .empty =
      .error (.unsupportedCast source found)) ∧
    Rates.empty.rate? "EUR" "USD" = none := by
  refine ⟨?own, ?given, ?unnamed, ?foreign⟩
  case own => exact (cast_projects_onto_type _ (.money (some "EUR")) _).1 (by decide)
  case given =>
    have given : (Value.money tenEuros).cast .int .empty = .ok (.int 10) := rfl
    exact ((cast_projects_onto_type _ _ _).2.1 _ given).2
  case unnamed => exact (cast_projects_onto_type _ _ _).2.2.1.mpr (by decide)
  case foreign =>
    have failed : (Value.money tenEuros).cast (.money (some "USD")) .empty =
        .error (.missingRate "EUR" "USD") := rfl
    rcases (cast_projects_onto_type _ _ _).2.2.2 _ failed with
      refused | ⟨_, _, _, invalid⟩ | ⟨_, _, valueEq, targetEq, _, missing, _⟩
    · cases refused
    · cases invalid
    · cases valueEq
      cases targetEq
      exact missing

end Ducat
