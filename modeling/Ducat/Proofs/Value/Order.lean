import Ducat.Proofs.Money.Calculation
import Ducat.Value.Comparison

/-! Main statement: values of one type are in a total preorder, which is that of the numbers for
which whole numbers and amounts stand, and which their differences tell as well. -/

namespace Ducat

namespace Double

theorem rank_of_notANumber {number : Float} (undefined : ofFloat number = .notANumber) :
    rank number = powerOfTwo 63 := by
  rw [rank, undefined]

theorem rank_lt_of_ne_notANumber {number : Float} (defined : ofFloat number ≠ .notANumber) :
    rank number < powerOfTwo 63 := by
  have positive := powerOfTwo_pos 63
  unfold rank
  split
  next undefined => exact absurd undefined defined
  next =>
    dsimp only
    split <;> omega

theorem rank_le (number : Float) : rank number ≤ powerOfTwo 63 := by
  by_cases undefined : ofFloat number = .notANumber
  · exact Int.le_of_eq (rank_of_notANumber undefined)
  · exact Int.le_of_lt (rank_lt_of_ne_notANumber undefined)

theorem rank_eq_powerOfTwo_iff {number : Float} :
    rank number = powerOfTwo 63 ↔ ofFloat number = .notANumber := by
  constructor
  · intro last
    by_contra defined
    exact absurd last (Int.ne_of_lt (rank_lt_of_ne_notANumber defined))
  · exact rank_of_notANumber

theorem rank_of_isZero {number : Float} (zero : (ofFloat number).isZero) : rank number = 0 := by
  have size : number.toBits.toNat < 2 ^ 64 := number.toBits.toNat_lt
  have split63 : powerOfTwo 63 = 2 ^ 63 := rfl
  have split52 : powerOfTwo 52 = 2 ^ 52 := rfl
  have split11 : powerOfTwo 11 = 2 ^ 11 := rfl
  unfold rank
  unfold ofFloat at zero ⊢
  dsimp only at zero ⊢
  rw [split52, split11] at zero ⊢
  rw [split63]
  split_ifs at zero ⊢ <;> simp only [isZero, beq_iff_eq, Bool.false_eq_true] at zero <;>
    dsimp only <;> omega

end Double

namespace ComparisonOperator

def Relates (operator : ComparisonOperator) (left right : Value) : Prop :=
  operator.apply left right = .ok true

def negated : ComparisonOperator → ComparisonOperator
  | equal => notEqual
  | notEqual => equal
  | greater => lessOrEqual
  | greaterOrEqual => less
  | less => greaterOrEqual
  | lessOrEqual => greater

def swapped : ComparisonOperator → ComparisonOperator
  | equal => equal
  | notEqual => notEqual
  | greater => less
  | greaterOrEqual => lessOrEqual
  | less => greater
  | lessOrEqual => greaterOrEqual

theorem holds_negated (operator : ComparisonOperator) (ordering : Ordering) :
    operator.negated.holds ordering = !operator.holds ordering := by
  cases operator <;> cases ordering <;> rfl

theorem holds_swapped (operator : ComparisonOperator) (ordering : Ordering) :
    operator.swapped.holds ordering.swap = operator.holds ordering := by
  cases operator <;> cases ordering <;> rfl

end ComparisonOperator

namespace Value

/-- How values of one type compare: by the numbers for which they stand, if they are numbers. -/
inductive Ordered : Value → Value → Ordering → Prop where
  | int (first second : Int64) :
      Ordered (.int first) (.int second) (compare first.toInt second.toInt)
  | float (first second : Float) :
      Ordered (.float first) (.float second) (compare (Double.rank first) (Double.rank second))
  | string (first second : String) :
      Ordered (.string first) (.string second) (compare first second)
  | bool (first second : Bool) : Ordered (.bool first) (.bool second) (compare first second)
  | money {first second : Money} (same : first.currency = second.currency) :
      Ordered (.money first) (.money second) (compare first.amount.value second.amount.value)

theorem Ordered.order_eq {left right : Value} {ordering : Ordering}
    (ordered : Ordered left right ordering) : left.order right = .ok ordering := by
  cases ordered with
  | money same => rw [order, if_pos same, Decimal.order_eq_compare_value]
  | int | float | string | bool => rfl

theorem exists_ordered {left right : Value} (same : left.type = right.type) :
    ∃ ordering, Ordered left right ordering :=
  match left, right, same with
  | .int _, .int _, _ => ⟨_, .int _ _⟩
  | .float _, .float _, _ => ⟨_, .float _ _⟩
  | .string _, .string _, _ => ⟨_, .string _ _⟩
  | .bool _, .bool _, _ => ⟨_, .bool _ _⟩
  | .money _, .money _, same => ⟨_, .money (by simpa [type] using same)⟩

theorem Ordered.swap {left right : Value} {ordering : Ordering}
    (ordered : Ordered left right ordering) : Ordered right left ordering.swap := by
  cases ordered with
  | int =>
      rw [← Std.OrientedOrd.eq_swap]
      exact .int _ _
  | float =>
      rw [← Std.OrientedOrd.eq_swap]
      exact .float _ _
  | string =>
      rw [← Std.OrientedOrd.eq_swap]
      exact .string _ _
  | bool =>
      rw [← Std.OrientedOrd.eq_swap]
      exact .bool _ _
  | money same =>
      rw [← Std.OrientedOrd.eq_swap]
      exact .money same.symm

theorem Ordered.isLE_trans {first second third : Value} {earlier later : Ordering}
    (ordered : Ordered first second earlier) (further : Ordered second third later)
    (le : earlier.isLE) (alsoLe : later.isLE) :
    ∃ ordering, Ordered first third ordering ∧ ordering.isLE := by
  cases ordered <;> cases further
  case int.int => exact ⟨_, .int _ _, Std.TransOrd.isLE_trans le alsoLe⟩
  case float.float => exact ⟨_, .float _ _, Std.TransOrd.isLE_trans le alsoLe⟩
  case string.string => exact ⟨_, .string _ _, Std.TransOrd.isLE_trans le alsoLe⟩
  case bool.bool => exact ⟨_, .bool _ _, Std.TransOrd.isLE_trans le alsoLe⟩
  case money.money same _ also =>
    exact ⟨_, .money (same.trans also), Std.TransOrd.isLE_trans le alsoLe⟩

theorem order_of_type_ne {left right : Value} (different : left.type ≠ right.type) :
    left.order right = .error (.differentTypes left right) := by
  cases left <;> cases right <;> simp_all [order, type]

theorem order_eq_ok_iff {left right : Value} {ordering : Ordering} :
    left.order right = .ok ordering ↔ Ordered left right ordering := by
  constructor
  · intro found
    by_cases same : left.type = right.type
    · rcases exists_ordered same with ⟨other, ordered⟩
      rw [ordered.order_eq] at found
      cases found
      exact ordered
    · rw [order_of_type_ne same] at found
      cases found
  · exact Ordered.order_eq

end Value

namespace ComparisonOperator

open Value (Ordered)

variable {left right : Value} {ordering : Ordering}

theorem apply_of_ordered (operator : ComparisonOperator) (ordered : Ordered left right ordering) :
    operator.apply left right = .ok (operator.holds ordering) := by
  rw [apply, ordered.order_eq]
  rfl

theorem relates_iff_of_ordered {operator : ComparisonOperator}
    (ordered : Ordered left right ordering) :
    operator.Relates left right ↔ operator.holds ordering := by
  rw [Relates, operator.apply_of_ordered ordered, Except.ok.injEq]

theorem exists_ordered_of_relates {operator : ComparisonOperator}
    (relates : operator.Relates left right) :
    ∃ ordering, Ordered left right ordering ∧ operator.holds ordering := by
  rw [Relates, apply] at relates
  cases found : left.order right with
  | error error =>
      rw [found] at relates
      cases relates
  | ok ordering =>
      rw [found] at relates
      exact ⟨ordering, Value.order_eq_ok_iff.mp found, Except.ok.inj relates⟩

end ComparisonOperator

namespace Value

open ComparisonOperator

structure Comparable (left right : Value) : Prop where
  decided : ∀ operator : ComparisonOperator, ∃ truth, operator.apply left right = .ok truth
  exactlyOne : ∃! operator, operator ∈ [less, equal, greater] ∧ operator.Relates left right
  negated : ∀ operator : ComparisonOperator,
    operator.negated.Relates left right ↔ ¬ operator.Relates left right
  swapped : ∀ operator : ComparisonOperator,
    operator.swapped.Relates right left ↔ operator.Relates left right

theorem Ordered.comparable {left right : Value} {ordering : Ordering}
    (ordered : Ordered left right ordering) : Comparable left right where
  decided operator := ⟨_, operator.apply_of_ordered ordered⟩
  exactlyOne := by
    simp only [relates_iff_of_ordered ordered]
    have one : ∃ operator, (operator ∈ [less, equal, greater] ∧ operator.holds ordering) ∧
        ∀ other, other ∈ [less, equal, greater] → other.holds ordering → other = operator := by
      cases ordering with
      | lt => exact ⟨less, by decide, fun other => by cases other <;> decide⟩
      | eq => exact ⟨equal, by decide, fun other => by cases other <;> decide⟩
      | gt => exact ⟨greater, by decide, fun other => by cases other <;> decide⟩
    rcases one with ⟨operator, holds, unique⟩
    exact ⟨operator, holds, fun other ⟨member, otherHolds⟩ => unique other member otherHolds⟩
  negated operator := by
    rw [relates_iff_of_ordered ordered, relates_iff_of_ordered ordered, holds_negated]
    simp
  swapped operator := by
    rw [relates_iff_of_ordered ordered, relates_iff_of_ordered ordered.swap, holds_swapped]

theorem lessOrEqual_trans {first second third : Value}
    (earlier : lessOrEqual.Relates first second) (later : lessOrEqual.Relates second third) :
    lessOrEqual.Relates first third := by
  have isLE : ∀ ordering : Ordering, lessOrEqual.holds ordering = ordering.isLE := by
    intro ordering
    cases ordering <;> rfl
  rcases exists_ordered_of_relates earlier with ⟨_, ordered, le⟩
  rcases exists_ordered_of_relates later with ⟨_, further, alsoLe⟩
  rw [isLE] at le alsoLe
  rcases ordered.isLE_trans further le alsoLe with ⟨ordering, together, stillLe⟩
  rw [relates_iff_of_ordered together, isLE]
  exact stillLe

theorem relates_money_iff {first second : Money} (same : first.currency = second.currency) :
    (less.Relates (.money first) (.money second) ↔ first.amount.value < second.amount.value) ∧
    (equal.Relates (.money first) (.money second) ↔ first.amount.value = second.amount.value) ∧
    (greater.Relates (.money first) (.money second) ↔
      second.amount.value < first.amount.value) := by
  simp only [relates_iff_of_ordered (.money same), holds, beq_iff_eq]
  exact ⟨compare_lt_iff_lt, compare_eq_iff_eq, compare_gt_iff_gt⟩

def IsPositive : Value → Prop
  | int number => 0 < number.toInt
  | money sum => 0 < sum.amount.value
  | _ => False

theorem less_int_iff {left right : Int64} {difference : Value}
    (subtracted : subtract (.int right) (.int left) = .ok difference) :
    less.Relates (.int left) (.int right) ↔ difference.IsPositive := by
  change whole _ (right.toInt - left.toInt) = .ok difference at subtracted
  unfold whole at subtracted
  split at subtracted <;> cases subtracted
  next number fits =>
    rw [relates_iff_of_ordered (.int left right), IsPositive, Integer.toInt_of_ofInt? fits, holds,
      beq_iff_eq, Int.compare_eq_lt]
    omega

theorem less_money_iff {left right : Money} {difference : Value}
    (subtracted : subtract (.money right) (.money left) = .ok difference) :
    less.Relates (.money left) (.money right) ↔ difference.IsPositive := by
  rw [subtract_money] at subtracted
  split at subtracted <;> cases subtracted
  next same =>
    rw [(relates_money_iff same.symm).1, IsPositive, Money.withAmount_amount,
      Decimal.value_subtract, sub_pos]

theorem relates_float (number other : Float) :
    (Double.ofFloat other = .notANumber →
      lessOrEqual.Relates (.float number) (.float other) ∧
        (equal.Relates (.float number) (.float other) ↔ Double.ofFloat number = .notANumber)) ∧
    ((Double.ofFloat number).isZero → (Double.ofFloat other).isZero →
      equal.Relates (.float number) (.float other)) := by
  simp only [relates_iff_of_ordered (.float number other), holds, beq_iff_eq, bne_iff_ne]
  constructor
  · intro undefined
    rw [Double.rank_of_notANumber undefined, ← Double.rank_eq_powerOfTwo_iff]
    have bound := Double.rank_le number
    exact ⟨by rw [Ne, Int.compare_eq_gt]; omega, compare_eq_iff_eq⟩
  · intro zero otherZero
    rw [Double.rank_of_isZero zero, Double.rank_of_isZero otherZero]
    rfl

end Value

section

open ComparisonOperator

/-- Comparisons succeed between values of one type, and only there. They are those of a total
preorder, which is the order of the numbers for which whole numbers and amounts stand, and agrees
with the sign of a difference. -/
theorem comparison_is_total_preorder :
    (∀ left right : Value,
      (left.type = right.type → left.Comparable right) ∧
      (left.type ≠ right.type → ∀ operator : ComparisonOperator,
        operator.apply left right = .error (.differentTypes left right))) ∧
    (∀ first second third : Value, lessOrEqual.Relates first second →
      lessOrEqual.Relates second third → lessOrEqual.Relates first third) ∧
    (∀ first second : Money, first.currency = second.currency →
      (less.Relates (.money first) (.money second) ↔ first.amount.value < second.amount.value) ∧
      (equal.Relates (.money first) (.money second) ↔ first.amount.value = second.amount.value) ∧
      (greater.Relates (.money first) (.money second) ↔
        second.amount.value < first.amount.value)) ∧
    (∀ (left right : Int64) difference,
      Value.subtract (.int right) (.int left) = .ok difference →
        (less.Relates (.int left) (.int right) ↔ difference.IsPositive)) ∧
    (∀ (left right : Money) difference,
      Value.subtract (.money right) (.money left) = .ok difference →
        (less.Relates (.money left) (.money right) ↔ difference.IsPositive)) ∧
    ∀ number other : Float,
      (Double.ofFloat other = .notANumber →
        lessOrEqual.Relates (.float number) (.float other) ∧
          (equal.Relates (.float number) (.float other) ↔ Double.ofFloat number = .notANumber)) ∧
      ((Double.ofFloat number).isZero → (Double.ofFloat other).isZero →
        equal.Relates (.float number) (.float other)) := by
  refine ⟨fun left right => ⟨?same, ?different⟩, ?transitive, ?rational, ?whole, ?money, ?float⟩
  case same =>
    intro same
    rcases Value.exists_ordered same with ⟨_, ordered⟩
    exact ordered.comparable
  case different =>
    intro different operator
    rw [ComparisonOperator.apply, Value.order_of_type_ne different]
    rfl
  case transitive => exact fun _ _ _ => Value.lessOrEqual_trans
  case rational => exact fun _ _ => Value.relates_money_iff
  case whole => exact fun _ _ _ => Value.less_int_iff
  case money => exact fun _ _ _ => Value.less_money_iff
  case float => exact Value.relates_float

def shortOne : Money := ⟨⟨1, 0⟩, "EUR"⟩

def longOne : Money := ⟨⟨100, 2⟩, "EUR"⟩

def fiveThousand : Money := ⟨⟨5, -3⟩, "EUR"⟩

theorem comparison_is_total_preorder_of_forms :
    (lessOrEqual.Relates (.money shortOne) (.money longOne) ∧
      lessOrEqual.Relates (.money longOne) (.money fiveThousand) ∧
      lessOrEqual.Relates (.money shortOne) (.money fiveThousand)) ∧
    (Value.subtract (.money fiveThousand) (.money longOne) =
        .ok (.money ⟨⟨499900, 2⟩, "EUR"⟩) ∧
      less.Relates (.money longOne) (.money fiveThousand) ∧
      (Value.money ⟨⟨499900, 2⟩, "EUR"⟩).IsPositive) := by
  rcases comparison_is_total_preorder with ⟨_, transitive, _, _, ofMoney, _⟩
  have first : lessOrEqual.Relates (.money shortOne) (.money longOne) := rfl
  have second : lessOrEqual.Relates (.money longOne) (.money fiveThousand) := rfl
  have subtracted : Value.subtract (.money fiveThousand) (.money longOne) =
      .ok (.money ⟨⟨499900, 2⟩, "EUR"⟩) := rfl
  have less : less.Relates (.money longOne) (.money fiveThousand) := rfl
  exact ⟨⟨first, second, transitive _ _ _ first second⟩, subtracted, less,
    (ofMoney _ _ _ subtracted).mp less⟩

end

end Ducat
