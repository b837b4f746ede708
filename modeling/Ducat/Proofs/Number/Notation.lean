import Ducat.Proofs.Number.RationalValue
import Mathlib.Data.List.TakeWhile

/-! The rational numbers that are written in positional notation: what the shortest text of a
floating-point number denotes is the decimal that is made from the number. -/

namespace Ducat

namespace Digits

theorem value_eq_ofDigitChars (digits : List Char) :
    value digits = Nat.ofDigitChars 10 digits 0 :=
  Nat.ofDigitChars_eq_foldl.symm

@[simp] theorem value_toDigits (number : Nat) : value (Nat.toDigits 10 number) = number := by
  rw [value_eq_ofDigitChars, Nat.ofDigitChars_ten_toDigits]

theorem value_append (front back : List Char) :
    value (front ++ back) = value front * 10 ^ back.length + value back := by
  simp only [value_eq_ofDigitChars, Nat.ofDigitChars_append]
  rw [Nat.ofDigitChars_eq_ofDigitChars_zero, Nat.mul_comm]

theorem value_zeros_append (count : Nat) (digits : List Char) :
    value (Numeral.zeros count ++ digits) = value digits := by
  simp [value_eq_ofDigitChars, Nat.ofDigitChars_append, Numeral.zeros,
    Nat.ofDigitChars_replicate_zero]

theorem value_append_zeros (digits : List Char) (count : Nat) :
    value (digits ++ Numeral.zeros count) = value digits * 10 ^ count := by
  have zeros : value (Numeral.zeros count) = 0 := by
    rw [← List.append_nil (Numeral.zeros count), value_zeros_append]
    rfl
  rw [value_append, zeros]
  simp [Numeral.zeros]

theorem isDigit_of_mem_zeros {count : Nat} {character : Char}
    (member : character ∈ Numeral.zeros count) : character.isDigit := by
  rw [List.eq_of_mem_replicate member]
  decide

theorem isDigit_of_mem_toDigits {number : Nat} {character : Char}
    (member : character ∈ Nat.toDigits 10 number) : character.isDigit :=
  Nat.isDigit_of_mem_toDigits (by decide) (by decide) member

end Digits

namespace Positional

def magnitude? (characters : List Char) : Option ℚ :=
  let whole := characters.takeWhile Char.isDigit
  match characters.dropWhile Char.isDigit with
  | [] => (Digits.value? whole).map Nat.cast
  | '.' :: fraction =>
      match Digits.value? whole, Digits.value? fraction with
      | some units, some parts => some (units + parts / 10 ^ fraction.length)
      | _, _ => none
  | _ => none

/-- The number that is denoted by a text, perhaps with a minus in front. -/
def value? (text : String) : Option ℚ :=
  match text.toList with
  | '-' :: rest => (magnitude? rest).map (- ·)
  | characters => magnitude? characters

theorem digitsValue?_eq_some {digits : List Char} (nonempty : digits ≠ [])
    (allDigits : ∀ character ∈ digits, character.isDigit) :
    Digits.value? digits = some (Digits.value digits) := by
  have all : digits.all Char.isDigit := List.all_eq_true.mpr allDigits
  simp [Digits.value?, nonempty, all]

theorem magnitude?_of_digits {whole : List Char} (nonempty : whole ≠ [])
    (wholeDigits : ∀ character ∈ whole, character.isDigit) :
    magnitude? whole = some (Digits.value whole : ℚ) := by
  have taken : whole.takeWhile Char.isDigit = whole :=
    List.takeWhile_eq_self_iff.mpr wholeDigits
  have dropped : whole.dropWhile Char.isDigit = [] :=
    List.dropWhile_eq_nil_iff.mpr wholeDigits
  simp [magnitude?, taken, dropped, digitsValue?_eq_some nonempty wholeDigits]

theorem magnitude?_of_point {whole fraction : List Char} (wholeNonempty : whole ≠ [])
    (wholeDigits : ∀ character ∈ whole, character.isDigit) (fractionNonempty : fraction ≠ [])
    (fractionDigits : ∀ character ∈ fraction, character.isDigit) :
    magnitude? (whole ++ '.' :: fraction) =
      some (Digits.value (whole ++ fraction) / 10 ^ fraction.length : ℚ) := by
  have taken : (whole ++ '.' :: fraction).takeWhile Char.isDigit = whole := by
    rw [List.takeWhile_append_of_pos wholeDigits]
    simp
  have dropped : (whole ++ '.' :: fraction).dropWhile Char.isDigit = '.' :: fraction := by
    rw [List.dropWhile_append_of_pos wholeDigits]
    simp
  simp only [magnitude?, taken, dropped, digitsValue?_eq_some wholeNonempty wholeDigits,
    digitsValue?_eq_some fractionNonempty fractionDigits, Digits.value_append]
  congr 1
  push_cast
  field_simp

/-- The value of a numeral whose last `places` digits stand behind the point. -/
theorem value_of_places (digits places : Nat) :
    (digits / 10 ^ places : ℚ) = digits * 10 ^ (-(places : Int)) := by
  rw [zpow_neg, zpow_natCast, div_eq_mul_inv]

theorem magnitude?_positional (numeral : Numeral) :
    magnitude? numeral.positional.toList =
      some ((numeral.digits : ℚ) * 10 ^ numeral.exponent) := by
  have nonempty : Nat.toDigits 10 numeral.digits ≠ [] := Nat.toDigits_ne_nil
  have positive : 0 < (Nat.toDigits 10 numeral.digits).length := List.length_pos_iff.mpr nonempty
  rw [Numeral.positional]
  dsimp only
  split
  case isTrue whole =>
    rcases Int.eq_ofNat_of_zero_le whole with ⟨zeros, equal⟩
    rw [String.toList_ofList, magnitude?_of_digits]
    · simp [Digits.value_append_zeros, equal]
    · simp [nonempty]
    · intro character member
      rcases List.mem_append.mp member with member | member
      · exact Digits.isDigit_of_mem_toDigits member
      · exact Digits.isDigit_of_mem_zeros member
  case isFalse fractional =>
    rcases Int.exists_eq_neg_ofNat (Int.le_of_not_le fractional) with ⟨places, equal⟩
    simp only [equal, Int.neg_neg, Int.toNat_natCast]
    split
    case isTrue long =>
      have whole : ∀ character ∈ ['0'], character.isDigit := by
        intro character member
        rw [List.mem_singleton.mp member]
        rfl
      have zero : Digits.value ['0'] = 0 := rfl
      rw [String.toList_ofList, List.cons_append, List.cons_append, ← List.singleton_append,
        magnitude?_of_point (List.cons_ne_nil _ _) whole]
      · rw [← value_of_places, List.length_append, Digits.value_append, Digits.value_zeros_append]
        simp [zero, Numeral.zeros, long]
      · simp [nonempty]
      · intro character member
        rcases List.mem_append.mp member with member | member
        · exact Digits.isDigit_of_mem_zeros member
        · exact Digits.isDigit_of_mem_toDigits member
    case isFalse short =>
      have allDigits : ∀ character ∈ Nat.toDigits 10 numeral.digits, character.isDigit :=
        fun _ member => Digits.isDigit_of_mem_toDigits member
      rw [String.toList_ofList, magnitude?_of_point]
      · rw [← value_of_places, List.take_append_drop, Digits.value_toDigits, List.length_drop]
        congr 3
        omega
      · simp [nonempty]
        omega
      · exact fun character member => allDigits character (List.mem_of_mem_take member)
      · rw [Ne, List.drop_eq_nil_iff]
        omega
      · exact fun character member => allDigits character (List.mem_of_mem_drop member)

theorem value?_signedText {text : String} {magnitude : ℚ} (negative : Bool)
    (denoted : magnitude? text.toList = some magnitude) :
    value? (Digits.signedText negative text) =
      some (if negative then -magnitude else magnitude) := by
  cases negative with
  | true => simp [value?, Digits.signedText, denoted]
  | false =>
      rw [value?, Digits.signedText]
      split
      case h_1 rest equation =>
        have minus : magnitude? ('-' :: rest) = none := rfl
        simp at equation
        rw [equation, minus] at denoted
        cases denoted
      case h_2 => simpa using denoted

end Positional

theorem Decimal.value_ofNumeral (negative : Bool) (numeral : Numeral) :
    Decimal.value ⟨Digits.signed negative (numeral.digits * powerOfTen numeral.exponent.toNat),
        max 0 (-numeral.exponent)⟩ =
      if negative then -((numeral.digits : ℚ) * 10 ^ numeral.exponent)
      else (numeral.digits : ℚ) * 10 ^ numeral.exponent := by
  have power : (10 : ℚ) ^ numeral.exponent.toNat * 10 ^ (-max 0 (-numeral.exponent)) =
      10 ^ numeral.exponent := by
    rw [← zpow_natCast, ← zpow_add₀ (by norm_num)]
    congr 1
    omega
  have magnitude : ((numeral.digits * powerOfTen numeral.exponent.toNat : Nat) : ℚ) *
      10 ^ (-max 0 (-numeral.exponent)) = numeral.digits * 10 ^ numeral.exponent := by
    rw [Nat.cast_mul, cast_powerOfTen, mul_assoc, power]
  rw [← magnitude]
  cases negative <;> simp [Decimal.value, Digits.signed]

namespace Positional

/-- The decimal of a finite number is what its shortest text denotes, and the texts of the other
numbers denote nothing. -/
theorem value?_text (number : Float) :
    value? (Double.text number) = (Decimal.ofFloat? number).map Decimal.value := by
  rw [Double.text, Decimal.ofFloat?]
  cases Double.ofFloat number with
  | notANumber => rfl
  | infinite negative => cases negative <;> rfl
  | finite negative mantissa exponent =>
      rw [value?_signedText negative (magnitude?_positional _)]
      exact congrArg some (Decimal.value_ofNumeral negative _).symm

theorem value?_text_eq_none_iff (number : Float) :
    value? (Double.text number) = none ↔ (Double.ofFloat number).isFinite = false := by
  rw [value?_text, Option.map_eq_none_iff, Decimal.ofFloat?]
  cases Double.ofFloat number with
  | notANumber => simp [Double.isFinite]
  | infinite negative => simp [Double.isFinite]
  | finite negative mantissa exponent => simp [Double.isFinite]

end Positional

end Ducat
