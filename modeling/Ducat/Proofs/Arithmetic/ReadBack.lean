import Mathlib
import Ducat.Proofs.Arithmetic.Outcome

/-! Main statement: a program that returns a number as it is displayed gives this number again. Only
the least number cannot be written so, since the sign is no part of a literal. -/

namespace Ducat

theorem Integer.toList_text_of_negative {number magnitude : Int64} (negative : number.toInt < 0)
    (opposite : magnitude.toInt = -number.toInt) :
    (text number).toList = '-' :: (text magnitude).toList := by
  rw [text, text, opposite]
  generalize number.toInt = value at negative
  cases value with
  | ofNat => exact absurd negative (Int.not_lt.mpr (Int.natCast_nonneg _))
  | negSucc predecessor =>
      change ("-" ++ (predecessor + 1).repr).toList = _
      rw [String.toList_append]
      rfl

namespace Token

variable {currencies : List String}

theorem endsBefore_minus (next : Option Char) : EndsBefore next (.symbol .minus) := by
  intro character _ longer equal
  have single : ∀ mark ∈ Symbol.all,
      mark.spelling.toList.length = 2 → mark.spelling.toList.head? ≠ some '-' := by decide
  apply single longer longer.mem_all
  · rw [equal]
    rfl
  · rw [equal]
    rfl

theorem laidOut_int {number : Int64} (unsigned : 0 ≤ number.toInt) :
    LaidOut currencies [.int number] (Integer.text number).toList := by
  have written : ∀ token ∈ [Token.int number],
      token.WrittenAs currencies token.text.toList := by
    rw [List.forall_mem_singleton]
    exact (Renderable.int unsigned).writtenAs nofun
  exact laidOut_render [] rfl written

end Token

namespace Calculation

theorem exists_laidOut_text {number : Int64} (greater : Integer.minimum < number.toInt)
    (currencies : List String) :
    ∃ calculation : Calculation, calculation.value = number.toInt ∧
      calculation.fault? = none ∧
      Token.LaidOut currencies calculation.tokens (Integer.text number).toList := by
  have least := number.le_toInt
  have greatest := number.toInt_lt
  by_cases unsigned : 0 ≤ number.toInt
  · exact ⟨.number number unsigned, rfl, rfl, Token.laidOut_int unsigned⟩
  · have opposite : (Int64.ofInt (-number.toInt)).toInt = -number.toInt := by
      unfold Integer.minimum at greater
      exact Int64.toInt_ofInt_of_le (by omega) (by omega)
    generalize Int64.ofInt (-number.toInt) = magnitude at opposite
    have magnitudeUnsigned : 0 ≤ magnitude.toInt := by omega
    refine ⟨.negation (.number magnitude magnitudeUnsigned), ?_, ?_, ?_⟩
    · rw [value, value, opposite, Int.neg_neg]
    · rw [fault?_eq_none_iff, steps, steps, List.nil_append, List.forall_mem_singleton, Step.value,
        value, opposite, Int.neg_neg]
      unfold Integer.minimum at greater ⊢
      unfold Integer.maximum
      exact ⟨rfl, by omega, by omega⟩
    · have noBlanks : ([] : List Char).all isBlank := rfl
      rw [Integer.toList_text_of_negative (by omega) opposite]
      exact .cons noBlanks ⟨.symbol .minus, Token.endsBefore_minus _⟩
        (Token.laidOut_int magnitudeUnsigned)

end Calculation

/-- The report on the program that returns a number as it is displayed. -/
def Report.ofReturning? (number : Int64) (steps : Nat) (device : Device) : Option Report :=
  ofProject? steps device (Project.ofTexts ";" (Program.returningText (Value.int number).text))

/-- The digits of the least number are those of a number that is too large. -/
theorem Project.ofTexts_returningText_minimum :
    ofTexts ";" (Program.returningText (Value.int (-9223372036854775808)).text) =
      .error (.grammar (.lexical ⟨.literalTooLarge, ⟨1, 22⟩⟩)) := by
  have text : (Value.int (-9223372036854775808)).text = "-9223372036854775808" := by decide
  have program : Program.returningText "-9223372036854775808" =
      "int main() \x7b return -9223372036854775808; \x7d" := by decide
  rw [text, program]
  cbv

/-- A number that is returned as it is displayed is the result of the program, unless it is the
least one. -/
theorem displayed_number_is_read_back (number : Int64) (steps : Nat) (device : Device) :
    (Integer.minimum < number.toInt →
      Report.ofReturning? number (steps + 1) device = some ⟨.ok (some (.int number)), #[]⟩) ∧
    (number.toInt = Integer.minimum →
      Report.ofReturning? number steps device =
        some ⟨.error (.grammar (.lexical ⟨.literalTooLarge, ⟨1, 22⟩⟩)), #[]⟩) := by
  constructor
  · intro greater
    have configured : Project.readConfiguration ";" = .ok ⟨[], .empty⟩ := rfl
    rcases Calculation.exists_laidOut_text greater [] with
      ⟨calculation, value, faultless, laidOut⟩
    rcases calculation.exists_report_of_laidOut configured (by simp) device steps laidOut with
      ⟨outcome, computes, reported⟩
    rw [faultless, value] at computes
    cases computes with
    | number exact =>
        rw [Int64.toInt_inj] at exact
        rw [exact] at reported
        exact reported
  · intro least
    have same : number = -9223372036854775808 := Int64.toInt_inj.mp least
    rw [same, Report.ofReturning?, Project.ofTexts_returningText_minimum, Report.ofProject?]

theorem displayed_number_is_read_back_of_limits :
    Report.ofReturning? (-9223372036854775807) 1 .unlimited =
        some ⟨.ok (some (.int (-9223372036854775807))), #[]⟩ ∧
      Report.ofReturning? 9223372036854775807 1 .unlimited =
        some ⟨.ok (some (.int 9223372036854775807)), #[]⟩ ∧
      Report.ofReturning? (-9223372036854775808) 1 .unlimited =
        some ⟨.error (.grammar (.lexical ⟨.literalTooLarge, ⟨1, 22⟩⟩)), #[]⟩ :=
  ⟨(displayed_number_is_read_back (-9223372036854775807) 0 .unlimited).1 (by decide),
    (displayed_number_is_read_back 9223372036854775807 0 .unlimited).1 (by decide),
    (displayed_number_is_read_back (-9223372036854775808) 1 .unlimited).2 rfl⟩

theorem exists_number_that_is_not_read_back :
    ¬ ∀ number : Int64, ∃ steps written,
      Report.ofReturning? number steps .unlimited = some ⟨.ok (some (.int number)), written⟩ := by
  intro claim
  rcases claim (-9223372036854775808) with ⟨steps, written, reported⟩
  rw [Report.ofReturning?, Project.ofTexts_returningText_minimum, Report.ofProject?] at reported
  injection reported with reported
  injection reported with failed
  cases failed

end Ducat
