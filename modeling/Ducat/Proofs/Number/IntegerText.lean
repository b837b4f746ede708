import Ducat.Number.Integer
import Ducat.Proofs.Number.Notation

/-! The texts that denote whole numbers, and that of a number itself. -/

namespace Ducat

theorem Digits.value?_eq_some_iff {characters : List Char} {number : Nat} :
    value? characters = some number ↔
      characters ≠ [] ∧ (∀ character ∈ characters, character.isDigit) ∧
        Nat.ofDigitChars 10 characters 0 = number := by
  rw [← value_eq_ofDigitChars]
  by_cases filled : characters = []
  · simp [value?, filled]
  · by_cases allDigits : ∀ character ∈ characters, character.isDigit
    · rw [Positional.digitsValue?_eq_some filled allDigits, Option.some_inj]
      constructor
      · intro equal
        exact ⟨filled, allDigits, equal⟩
      · rintro ⟨-, -, equal⟩
        exact equal
    · have other : characters.all Char.isDigit = false := by
        rw [← Bool.not_eq_true, List.all_eq_true]
        exact allDigits
      simp [value?, other, allDigits]

theorem Digits.splitSign_of_digits {digits : List Char} (filled : digits ≠ [])
    (allDigits : ∀ character ∈ digits, character.isDigit) :
    splitSign digits = (false, digits) := by
  cases digits with
  | nil => exact absurd rfl filled
  | cons first rest =>
      have digit := allDigits first List.mem_cons_self
      unfold splitSign
      split
      next equal =>
        cases equal
        cases digit
      next equal =>
        cases equal
        cases digit
      next => rfl

namespace Integer

theorem ofInt?_eq_some_iff {value : Int} {number : Int64} :
    ofInt? value = some number ↔ number.toInt = value := by
  constructor
  · exact toInt_of_ofInt?
  · intro equal
    rw [← equal]
    exact ofInt?_toInt number

/-- At least one digit, perhaps with one sign in front, denotes a number. -/
inductive Denoted : List Char → Int → Prop where
  | unsigned {digits : List Char} (filled : digits ≠ [])
      (allDigits : ∀ character ∈ digits, character.isDigit) :
      Denoted digits (Nat.ofDigitChars 10 digits 0)
  | plus {digits : List Char} (filled : digits ≠ [])
      (allDigits : ∀ character ∈ digits, character.isDigit) :
      Denoted ('+' :: digits) (Nat.ofDigitChars 10 digits 0)
  | minus {digits : List Char} (filled : digits ≠ [])
      (allDigits : ∀ character ∈ digits, character.isDigit) :
      Denoted ('-' :: digits) (-(Nat.ofDigitChars 10 digits 0))

theorem denoted_of_splitSign {characters digits : List Char} {negative : Bool}
    (split : Digits.splitSign characters = (negative, digits)) (filled : digits ≠ [])
    (allDigits : ∀ character ∈ digits, character.isDigit) :
    Denoted characters (Digits.signed negative (Nat.ofDigitChars 10 digits 0)) := by
  unfold Digits.splitSign at split
  split at split <;> cases split
  · exact .minus filled allDigits
  · exact .plus filled allDigits
  · exact .unsigned filled allDigits

theorem Denoted.exists_splitSign {characters : List Char} {number : Int}
    (denoted : Denoted characters number) :
    ∃ negative digits, Digits.splitSign characters = (negative, digits) ∧ digits ≠ [] ∧
      (∀ character ∈ digits, character.isDigit) ∧
        number = Digits.signed negative (Nat.ofDigitChars 10 digits 0) := by
  cases denoted with
  | unsigned filled allDigits =>
      exact ⟨_, _, Digits.splitSign_of_digits filled allDigits, filled, allDigits, rfl⟩
  | plus filled allDigits => exact ⟨_, _, rfl, filled, allDigits, rfl⟩
  | minus filled allDigits => exact ⟨_, _, rfl, filled, allDigits, rfl⟩

theorem read?_eq_some_iff {text : String} {number : Int64} :
    read? text = some number ↔ Denoted text.toList number.toInt := by
  simp only [read?, Option.bind_eq_some_iff, Digits.value?_eq_some_iff, ofInt?_eq_some_iff]
  constructor
  · rintro ⟨magnitude, ⟨filled, allDigits, rfl⟩, value⟩
    rw [value]
    exact denoted_of_splitSign rfl filled allDigits
  · intro denoted
    rcases denoted.exists_splitSign with ⟨negative, digits, split, filled, allDigits, value⟩
    rw [split]
    exact ⟨_, ⟨filled, allDigits, rfl⟩, value⟩

theorem text_denoted (number : Int64) : Denoted (text number).toList number.toInt := by
  rw [text]
  cases number.toInt with
  | ofNat magnitude =>
      have written : (toString (Int.ofNat magnitude)).toList = Nat.toDigits 10 magnitude :=
        Nat.toList_repr
      have allDigits : ∀ character ∈ Nat.toDigits 10 magnitude, character.isDigit :=
        fun _ => Digits.isDigit_of_mem_toDigits
      have denoted := Denoted.unsigned Nat.toDigits_ne_nil allDigits
      rw [Nat.ofDigitChars_ten_toDigits] at denoted
      rw [written]
      exact denoted
  | negSucc predecessor =>
      have written : (toString (Int.negSucc predecessor)).toList =
          '-' :: Nat.toDigits 10 (predecessor + 1) := by
        change ("-" ++ (predecessor + 1).repr).toList = _
        rw [String.toList_append, Nat.toList_repr]
        rfl
      have allDigits : ∀ character ∈ Nat.toDigits 10 (predecessor + 1), character.isDigit :=
        fun _ => Digits.isDigit_of_mem_toDigits
      have denoted := Denoted.minus Nat.toDigits_ne_nil allDigits
      rw [Nat.ofDigitChars_ten_toDigits] at denoted
      rw [written]
      exact denoted

theorem read?_text (number : Int64) : read? (text number) = some number :=
  read?_eq_some_iff.mpr (text_denoted number)

end Integer

end Ducat
