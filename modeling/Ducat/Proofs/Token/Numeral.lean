import Ducat.Proofs.Number.Notation
import Ducat.Proofs.Token.Cutting

/-! The texts of numbers have the form in which numbers are written in a program. -/

namespace Ducat

namespace Digits

theorem eq_zero_of_head?_toDigits {number : Nat}
    (zero : (Nat.toDigits 10 number).head? = some '0') : number = 0 := by
  induction number using Nat.strongRecOn with
  | ind number induction =>
      by_cases small : number < 10
      · rw [Nat.toDigits_of_lt_base small] at zero
        exact Nat.digitChar_eq_zero.mp (Option.some.inj zero)
      · have large : 10 ≤ number := Nat.le_of_not_lt small
        rw [Nat.toDigits_of_base_le (by decide) large,
          List.head?_append_of_ne_nil _ Nat.toDigits_ne_nil] at zero
        have front := induction (number / 10) (Nat.div_lt_self (by omega) (by decide)) zero
        omega

theorem all_isDigit_toDigits (number : Nat) : (Nat.toDigits 10 number).all Char.isDigit :=
  List.all_eq_true.mpr fun _ => isDigit_of_mem_toDigits

theorem all_isDigit_zeros (count : Nat) : (Numeral.zeros count).all Char.isDigit :=
  List.all_eq_true.mpr fun _ => isDigit_of_mem_zeros

theorem isNumeral_toDigits (number : Nat) : IsNumeral (Nat.toDigits 10 number) where
  filled := Nat.toDigits_ne_nil
  digits := all_isDigit_toDigits number
  noLeadingZero zero := by rw [eq_zero_of_head?_toDigits zero, Nat.toDigits_zero]

/-- Nothing can stand behind a leading zero, so that the number in front must not be zero. -/
theorem isNumeral_toDigits_append {number : Nat} {zeros : List Char}
    (significant : number = 0 → zeros = []) (digits : zeros.all Char.isDigit) :
    IsNumeral (Nat.toDigits 10 number ++ zeros) where
  filled := by simp
  digits := by rw [List.all_append, all_isDigit_toDigits, digits, Bool.and_true]
  noLeadingZero zero := by
    rw [List.head?_append_of_ne_nil _ Nat.toDigits_ne_nil] at zero
    have isZero := eq_zero_of_head?_toDigits zero
    rw [significant isZero, isZero, Nat.toDigits_zero, List.append_nil]

theorem isNumeral_take_toDigits {number count : Nat} (positive : 0 < count)
    (short : count < (Nat.toDigits 10 number).length) :
    IsNumeral ((Nat.toDigits 10 number).take count) where
  filled := by
    rw [Ne, List.take_eq_nil_iff]
    rintro (none | empty)
    · omega
    · exact Nat.toDigits_ne_nil empty
  digits := by
    apply List.all_eq_true.mpr
    intro character member
    exact isDigit_of_mem_toDigits (List.mem_of_mem_take member)
  noLeadingZero zero := by
    rw [List.head?_take, if_neg (by omega)] at zero
    rw [eq_zero_of_head?_toDigits zero, Nat.toDigits_zero] at short
    exact absurd short (by simp; omega)

end Digits

namespace Numeral

def pointed (numeral : Numeral) : String :=
  if 0 ≤ numeral.exponent then numeral.positional ++ ".0" else numeral.positional

structure SplitsAtPoint (numeral : Numeral) (whole fraction : List Char) : Prop where
  written : numeral.pointed.toList = whole ++ '.' :: fraction
  filled : whole ≠ []
  wholeDigits : whole.all Char.isDigit
  fractionDigits : fraction.all Char.isDigit
  value : Digits.value (whole ++ fraction) =
    numeral.digits * 10 ^ (numeral.exponent + 1).toNat
  unpadded : (numeral.digits = 0 → numeral.exponent = 0) → IsNumeral whole

variable {numeral : Numeral}

theorem splitsAtPoint_of_whole (whole : 0 ≤ numeral.exponent) :
    numeral.SplitsAtPoint (Nat.toDigits 10 numeral.digits ++ zeros numeral.exponent.toNat)
      (zeros 1) where
  written := by
    rw [pointed, if_pos whole, String.toList_append, positional, if_pos whole,
      String.toList_ofList]
    rfl
  filled := by simp
  wholeDigits := by
    rw [List.all_append, Digits.all_isDigit_toDigits, Digits.all_isDigit_zeros, Bool.and_true]
  fractionDigits := Digits.all_isDigit_zeros 1
  value := by
    have successor : (numeral.exponent + 1).toNat = numeral.exponent.toNat + 1 := by omega
    rw [Digits.value_append_zeros, Digits.value_append_zeros, Digits.value_toDigits, successor,
      Nat.pow_one, Nat.pow_succ, Nat.mul_assoc]
  unpadded significant := by
    apply Digits.isNumeral_toDigits_append
    · intro zero
      rw [significant zero]
      rfl
    · exact Digits.all_isDigit_zeros _

section

variable {places : Nat}

theorem splitsAtPoint_of_all_behind (fractional : numeral.exponent = -(places + 1 : Nat))
    (long : (Nat.toDigits 10 numeral.digits).length ≤ places + 1) :
    numeral.SplitsAtPoint ['0']
      (zeros (places + 1 - (Nat.toDigits 10 numeral.digits).length) ++
        Nat.toDigits 10 numeral.digits) where
  written := by
    have negative : ¬ 0 ≤ numeral.exponent := by omega
    have count : (-numeral.exponent).toNat = places + 1 := by omega
    rw [pointed, if_neg negative, positional, if_neg negative, count, if_pos long,
      String.toList_ofList]
    rfl
  filled := List.cons_ne_nil _ _
  wholeDigits := rfl
  fractionDigits := by
    rw [List.all_append, Digits.all_isDigit_zeros, Digits.all_isDigit_toDigits, Bool.and_true]
  value := by
    have front : ['0'] = zeros 1 := rfl
    have power : (numeral.exponent + 1).toNat = 0 := by omega
    rw [front, Digits.value_zeros_append, Digits.value_zeros_append, Digits.value_toDigits, power,
      Nat.pow_zero, Nat.mul_one]
  unpadded _ := Digits.isNumeral_toDigits 0

theorem splitsAtPoint_of_some_behind (fractional : numeral.exponent = -(places + 1 : Nat))
    (short : places + 1 < (Nat.toDigits 10 numeral.digits).length) :
    numeral.SplitsAtPoint
      ((Nat.toDigits 10 numeral.digits).take
        ((Nat.toDigits 10 numeral.digits).length - (places + 1)))
      ((Nat.toDigits 10 numeral.digits).drop
        ((Nat.toDigits 10 numeral.digits).length - (places + 1))) := by
  have shortened : IsNumeral ((Nat.toDigits 10 numeral.digits).take
      ((Nat.toDigits 10 numeral.digits).length - (places + 1))) := by
    apply Digits.isNumeral_take_toDigits <;> omega
  constructor
  · have negative : ¬ 0 ≤ numeral.exponent := by omega
    have count : (-numeral.exponent).toNat = places + 1 := by omega
    rw [pointed, if_neg negative, positional, if_neg negative, count,
      if_neg (Nat.not_le.mpr short), String.toList_ofList]
  · exact shortened.filled
  · exact shortened.digits
  · apply List.all_eq_true.mpr
    intro character member
    exact Digits.isDigit_of_mem_toDigits (List.mem_of_mem_drop member)
  · have power : (numeral.exponent + 1).toNat = 0 := by omega
    rw [List.take_append_drop, Digits.value_toDigits, power, Nat.pow_zero, Nat.mul_one]
  · intro _
    exact shortened

end

theorem exists_splitsAtPoint (numeral : Numeral) :
    ∃ whole fraction, numeral.SplitsAtPoint whole fraction := by
  by_cases whole : 0 ≤ numeral.exponent
  · exact ⟨_, _, splitsAtPoint_of_whole whole⟩
  · have fractional : numeral.exponent = -((-numeral.exponent).toNat - 1 + 1 : Nat) := by omega
    rcases Nat.lt_or_ge _ (Nat.toDigits 10 numeral.digits).length with short | long
    · exact ⟨_, _, splitsAtPoint_of_some_behind fractional short⟩
    · exact ⟨_, _, splitsAtPoint_of_all_behind fractional long⟩

end Numeral

namespace Double

theorem toLower_of_isDigit {character : Char} (digit : character.isDigit) :
    character.toLower = character := by
  have last : character.val ≤ '9'.val := by
    simp only [Char.isDigit, Bool.and_eq_true, decide_eq_true_eq] at digit
    exact digit.2
  have noUpper : ¬ ('A'.val ≤ character.val ∧ character.val ≤ 'Z'.val) := by
    rintro ⟨first, _⟩
    exact absurd (UInt32.le_trans first last) (by decide)
  exact dif_neg noUpper

theorem read?_of_point {text : String} {whole fraction : List Char}
    (written : text.toList = whole ++ '.' :: fraction) (filled : whole ≠ [])
    (wholeDigits : whole.all Char.isDigit) (fractionDigits : fraction.all Char.isDigit) :
    read? text = some (nearest (Digits.value (whole ++ fraction)) (-fraction.length)) := by
  have decimal : decimal? (whole ++ '.' :: fraction) =
      some (nearest (Digits.value (whole ++ fraction)) (-fraction.length)) := by
    have stops : ∀ character ∈ ('.' :: fraction).head?, ¬ character.isDigit := by
      intro character next
      cases next
      decide
    have taken := List.takeWhile_eq_self_iff.mpr (List.all_eq_true.mp fractionDigits)
    have left := List.dropWhile_eq_nil_iff.mpr (List.all_eq_true.mp fractionDigits)
    rw [decimal?, takeWhile_append_of_stops wholeDigits stops,
      dropWhile_append_of_stops wholeDigits stops]
    simp [taken, left, exponent?, filled]
  cases whole with
  | nil => exact absurd rfl filled
  | cons first others =>
      have digit := List.all_eq_true.mp wholeDigits first (List.mem_cons_self ..)
      -- Neither a sign nor a letter is a digit.
      have unsigned :
          Digits.splitSign text.toList = (false, first :: others ++ '.' :: fraction) := by
        rw [written, List.cons_append]
        unfold Digits.splitSign
        split
        next equal =>
          cases equal
          cases digit
        next equal =>
          cases equal
          cases digit
        next => rfl
      have noWord : ∀ letter rest, letter.isDigit = false →
          (first :: others ++ '.' :: fraction).map Char.toLower ≠ letter :: rest := by
        rintro letter rest noDigit equal
        have same := (List.cons.inj equal).1
        rw [toLower_of_isDigit digit] at same
        rw [← same, digit] at noDigit
        cases noDigit
      have noInf : (first :: others ++ '.' :: fraction).map Char.toLower ≠ "inf".toList :=
        noWord 'i' ['n', 'f'] rfl
      have noInfinity :
          (first :: others ++ '.' :: fraction).map Char.toLower ≠ "infinity".toList :=
        noWord 'i' ['n', 'f', 'i', 'n', 'i', 't', 'y'] rfl
      have noNan : (first :: others ++ '.' :: fraction).map Char.toLower ≠ "nan".toList :=
        noWord 'n' ['a', 'n'] rfl
      rw [read?, unsigned]
      dsimp only
      rw [decimal, decide_eq_false noInf, decide_eq_false noInfinity, if_neg noNan]
      rfl

theorem textWithPoint_eq {number : Float} {mantissa : Nat} {exponent : Int}
    (finite : ofFloat number = .finite false mantissa exponent) :
    textWithPoint number = (Shortest.ofParts mantissa exponent).pointed := by
  rw [textWithPoint, isWhole, text, finite, Numeral.pointed]
  simp [Digits.signedText]

theorem writtenAs_text {number : Float} {mantissa : Nat} {exponent : Int}
    (finite : ofFloat number = .finite false mantissa exponent)
    (inverted : read? (textWithPoint number) = some number) (currencies : List String) :
    (Token.float number).WrittenAs currencies (textWithPoint number).toList := by
  have pointed := textWithPoint_eq finite
  rcases (Shortest.ofParts mantissa exponent).exists_splitsAtPoint with ⟨whole, fraction, split⟩
  have written := split.written
  rw [← pointed] at written
  rw [read?_of_point written split.filled split.wholeDigits split.fractionDigits] at inverted
  have value := (Option.some.inj inverted).symm
  rw [written]
  apply Token.WrittenAs.float _ split.fractionDigits value
  · rw [finite]
    rfl
  · apply split.unpadded
    intro zero
    rw [split.value, zero, Nat.zero_mul, nearest, if_pos rfl] at value
    have none : mantissa = 0 := by
      have parts : ofFloat 0.0 = .finite false 0 (-1074) := by decide +kernel
      rw [value, parts] at finite
      cases finite
      rfl
    rw [Shortest.ofParts, if_pos none]

end Double

namespace Integer

theorem toList_text {number : Int64} (unsigned : 0 ≤ number.toInt) :
    (text number).toList = Nat.toDigits 10 number.toInt.toNat := by
  rcases Int.eq_ofNat_of_zero_le unsigned with ⟨magnitude, equal⟩
  rw [text, equal]
  exact Nat.toList_repr

end Integer

end Ducat
