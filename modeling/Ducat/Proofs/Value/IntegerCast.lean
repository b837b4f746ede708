import Ducat.Proofs.Number.IntegerText
import Ducat.Proofs.Number.WholePart
import Ducat.Value.Cast

/-! Main statement: a cast to a whole number cuts off what is behind the point of an amount, reads
the number that a text denotes, and gives back a number that was made an amount or a text. -/

namespace Ducat

namespace Value

variable (rates : Rates)

theorem cast_money_int (money : Money) :
    cast (.money money) .int rates =
      match Integer.ofInt? (wholePart money.amount.value) with
      | some number => .ok (.int number)
      | none => .error (.invalidNumber money.amount.text .int) := by
  rw [cast, integerOfDecimal, Decimal.toInteger?_eq_ofInt?_wholePart]
  cases Integer.ofInt? (wholePart money.amount.value) <;> rfl

theorem cast_string_int (text : String) :
    cast (.string text) .int rates =
      match Integer.read? text with
      | some number => .ok (.int number)
      | none => .error (.invalidNumber text .int) := by
  rw [cast, integerOfText]
  cases Integer.read? text <;> rfl

theorem cast_money_int_of_inRange {money : Money}
    (large : Integer.minimum ≤ wholePart money.amount.value)
    (small : wholePart money.amount.value ≤ Integer.maximum) :
    ∃ number : Int64, number.toInt = wholePart money.amount.value ∧
      cast (.money money) .int rates = .ok (.int number) := by
  have fits : Integer.ofInt? (wholePart money.amount.value) =
      some (Int64.ofInt (wholePart money.amount.value)) := if_pos ⟨large, small⟩
  refine ⟨_, Integer.toInt_of_ofInt? fits, ?_⟩
  rw [cast_money_int, fits]

theorem cast_money_int_of_outOfRange {money : Money}
    (outside : ¬ (Integer.minimum ≤ wholePart money.amount.value ∧
      wholePart money.amount.value ≤ Integer.maximum)) :
    cast (.money money) .int rates = .error (.invalidNumber money.amount.text .int) := by
  rw [cast_money_int, Integer.ofInt?, if_neg outside]

theorem cast_int_of_cast_money (number : Int64) (currency : String) :
    (cast (.int number) (.money (some currency)) rates >>= fun amount => cast amount .int rates) =
      .ok (.int number) := by
  change cast (.money ⟨.ofInt number.toInt, currency⟩) .int rates = .ok (.int number)
  rw [cast_money_int, Decimal.value_ofInt, wholePart_intCast, Integer.ofInt?_toInt]

theorem cast_int_of_cast_string (number : Int64) :
    (cast (.int number) .string rates >>= fun text => cast text .int rates) =
      .ok (.int number) := by
  change cast (.string (Integer.text number)) .int rates = .ok (.int number)
  rw [cast_string_int, Integer.read?_text]

theorem cast_string_int_eq_ok_iff {text : String} {number : Int64} :
    cast (.string text) .int rates = .ok (.int number) ↔
      Integer.Denoted text.toList number.toInt := by
  rw [← Integer.read?_eq_some_iff, cast_string_int]
  cases Integer.read? text <;> simp

theorem cast_string_int_of_not_denoted {text : String}
    (noNumber : ∀ number : Int64, ¬ Integer.Denoted text.toList number.toInt) :
    cast (.string text) .int rates = .error (.invalidNumber text .int) := by
  rw [cast_string_int]
  cases read : Integer.read? text with
  | none => rfl
  | some number => exact absurd (Integer.read?_eq_some_iff.mp read) (noNumber number)

end Value

/-- Casts to whole numbers are exact, and fail only where no number of 64 bits is the right one. -/
theorem casts_to_int_exact (rates : Rates) :
    (∀ money : Money,
      (Integer.minimum ≤ wholePart money.amount.value →
        wholePart money.amount.value ≤ Integer.maximum →
          ∃ number : Int64, number.toInt = wholePart money.amount.value ∧
            (Value.money money).cast .int rates = .ok (.int number)) ∧
      (¬ (Integer.minimum ≤ wholePart money.amount.value ∧
          wholePart money.amount.value ≤ Integer.maximum) →
        (Value.money money).cast .int rates =
          .error (.invalidNumber money.amount.text .int))) ∧
    (∀ (number : Int64) (currency : String),
      ((Value.int number).cast (.money (some currency)) rates >>= fun amount =>
        amount.cast .int rates) = .ok (.int number)) ∧
    (∀ number : Int64,
      ((Value.int number).cast .string rates >>= fun text => text.cast .int rates) =
        .ok (.int number)) ∧
    ∀ text : String,
      (∀ number : Int64, (Value.string text).cast .int rates = .ok (.int number) ↔
        Integer.Denoted text.toList number.toInt) ∧
      ((∀ number : Int64, ¬ Integer.Denoted text.toList number.toInt) →
        (Value.string text).cast .int rates = .error (.invalidNumber text .int)) := by
  refine ⟨fun money => ⟨?inRange, ?outOfRange⟩, ?money, ?string, fun text => ⟨?read, ?refused⟩⟩
  case inRange => exact Value.cast_money_int_of_inRange rates
  case outOfRange => exact Value.cast_money_int_of_outOfRange rates
  case money => exact Value.cast_int_of_cast_money rates
  case string => exact Value.cast_int_of_cast_string rates
  case read => exact fun _ => Value.cast_string_int_eq_ok_iff rates
  case refused => exact Value.cast_string_int_of_not_denoted rates

def leastAmount : Money := ⟨⟨-92233720368547758089, 1⟩, "EUR"⟩

def tooGreatAmount : Money := ⟨⟨9223372036854775808, 0⟩, "EUR"⟩

theorem casts_to_int_exact_of_edges :
    (∃ number : Int64, number.toInt = Integer.minimum ∧
      (Value.money leastAmount).cast .int .empty = .ok (.int number)) ∧
    (Value.money tooGreatAmount).cast .int .empty =
      .error (.invalidNumber tooGreatAmount.amount.text .int) ∧
    (Value.string "+-7").cast .int .empty = .error (.invalidNumber "+-7" .int) := by
  rcases casts_to_int_exact .empty with ⟨ofMoney, _, _, ofText⟩
  have least : wholePart leastAmount.amount.value = Integer.minimum := by
    rw [← Decimal.truncate_eq_wholePart]
    decide
  have tooGreat : wholePart tooGreatAmount.amount.value = Integer.maximum + 1 := by
    rw [← Decimal.truncate_eq_wholePart]
    decide
  refine ⟨?_, ?_, ?_⟩
  · rw [← least]
    exact (ofMoney leastAmount).1 (by rw [least]) (by rw [least]; decide)
  · exact (ofMoney tooGreatAmount).2 (by rw [tooGreat]; decide)
  · refine (ofText "+-7").2 fun number denoted => ?_
    have nothing : Integer.read? "+-7" = none := by decide
    rw [← Integer.read?_eq_some_iff, nothing] at denoted
    cases denoted

end Ducat
