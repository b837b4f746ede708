import Ducat.Proofs.Arithmetic.Calculation
import Ducat.Proofs.Grammar.RoundTrip
import Ducat.Proofs.Token.Rendering
import Ducat.Run

/-! Main statement: a program that returns a calculation gives its exact value unless some step of
it has no result, and fails at the first such step otherwise. -/

namespace Ducat

/-- What comes of a calculation with an exact value that fails in the given way, or does not. -/
inductive Computes (value : Int) : Option RuntimeError → Except RuntimeError Value → Prop where
  | number {number : Int64} (exact : number.toInt = value) :
      Computes value none (.ok (.int number))
  | fault (error : RuntimeError) : Computes value (some error) (.error error)

theorem Action.liftM_eq (outcome : Except RuntimeError Value) (machine : Machine) :
    (liftM outcome : Action Value) machine = .finished outcome machine := by
  cases outcome <;> rfl

theorem Expression.evaluate_enclosed (needed : Prop) [Decidable needed] (expression : Expression)
    (setting : Setting) :
    (expression.enclosed needed).evaluate setting = expression.evaluate setting := by
  unfold enclosed
  split <;> rfl

namespace Calculation

namespace Step

def outcome (step : Step) : Except RuntimeError Value :=
  if step.dividesByZero then .error .divisionByZero else Value.whole step.kind step.value

theorem computes_outcome (step : Step) : Computes step.value step.fault? step.outcome := by
  rw [outcome, fault?]
  split
  next => exact .fault .divisionByZero
  next =>
    split
    next range =>
      have fits : Integer.ofInt? step.value = some (Int64.ofInt step.value) := if_pos range
      rw [Value.whole, fits]
      exact .number (Integer.toInt_of_ofInt? fits)
    next outside =>
      have tooLarge : Integer.ofInt? step.value = none := if_neg outside
      rw [Value.whole, tooLarge]
      exact .fault _

theorem apply_int (operator : ArithmeticOperator) (left right : Int64) :
    operator.apply (.int left) (.int right) =
      (operation operator left.toInt right.toInt).outcome := by
  cases operator <;> rfl

theorem negate_int (operand : Int64) :
    Value.negate (.int operand) = (negation operand.toInt).outcome := rfl

end Step

def fault? (calculation : Calculation) : Option RuntimeError :=
  calculation.steps.findSome? Step.fault?

theorem fault?_eq_none_iff (calculation : Calculation) :
    calculation.fault? = none ↔
      ∀ step ∈ calculation.steps, step.dividesByZero = false ∧
        Integer.minimum ≤ step.value ∧ step.value ≤ Integer.maximum := by
  simp only [fault?, List.findSome?_eq_none_iff, Step.fault?_eq_none_iff]

theorem fault?_negation (operand : Calculation) :
    (negation operand).fault? = operand.fault?.or (Step.negation operand.value).fault? := by
  rw [fault?, steps, List.findSome?_append, List.findSome?_singleton, fault?]

theorem fault?_operation (operator : ArithmeticOperator) (left right : Calculation) :
    (operation operator left right).fault? =
      (left.fault?.or right.fault?).or
        (Step.operation operator left.value right.value).fault? := by
  rw [fault?, steps, List.findSome?_append, List.findSome?_append, List.findSome?_singleton,
    fault?, fault?]

/-- Evaluation goes through the steps in their order, whatever the machine, and leaves that as it
is. -/
theorem evaluate_expression (calculation : Calculation) :
    ∃ outcome, Computes calculation.value calculation.fault? outcome ∧
      ∀ setting machine,
        calculation.expression.evaluate setting machine = .finished outcome machine := by
  induction calculation with
  | number value => exact ⟨.ok (.int value), .number rfl, fun _ _ => rfl⟩
  | negation operand induction =>
      rcases induction with ⟨outcome, computes, evaluated⟩
      simp only [expression, Expression.evaluate, Expression.evaluate_enclosed]
      rw [fault?_negation, value]
      generalize operand.fault? = fault at computes
      cases computes with
      | fault error =>
          exact ⟨_, .fault error, fun setting machine =>
            Action.bind_of_error (evaluated setting machine)⟩
      | @number number exact =>
          refine ⟨_, (Step.negation operand.value).computes_outcome, fun setting machine => ?_⟩
          rw [Action.bind_of_ok (evaluated setting machine), Action.liftM_eq, Step.negate_int,
            exact]
  | operation operator left right leftInduction rightInduction =>
      rcases leftInduction with ⟨leftOutcome, leftComputes, leftEvaluated⟩
      rcases rightInduction with ⟨rightOutcome, rightComputes, rightEvaluated⟩
      simp only [expression, Expression.evaluate, Expression.evaluate_enclosed]
      rw [fault?_operation, value]
      generalize left.fault? = leftFault at leftComputes
      generalize right.fault? = rightFault at rightComputes
      cases leftComputes with
      | fault error =>
          exact ⟨_, .fault error, fun setting machine =>
            Action.bind_of_error (leftEvaluated setting machine)⟩
      | @number leftNumber leftExact =>
          cases rightComputes with
          | fault error =>
              refine ⟨_, .fault error, fun setting machine => ?_⟩
              rw [Action.bind_of_ok (leftEvaluated setting machine)]
              exact Action.bind_of_error (rightEvaluated setting machine)
          | @number rightNumber rightExact =>
              refine ⟨_, (Step.operation operator left.value right.value).computes_outcome,
                fun setting machine => ?_⟩
              rw [Action.bind_of_ok (leftEvaluated setting machine),
                Action.bind_of_ok (rightEvaluated setting machine), Action.liftM_eq, Step.apply_int,
                leftExact, rightExact]

end Calculation

namespace Definition

def returning (expression : Expression) : Definition :=
  ⟨.int, entryName, [], [.leave (some expression)]⟩

theorem returning_fits {expression : Expression} (fits : expression.Fits .disjunction) :
    (returning expression).Fits where
  returnType := rfl
  parameters := by simp [returning]
  distinct := List.nodup_nil
  body := by
    simp only [returning, List.forall_mem_singleton]
    apply Statement.Fits.leave
    intro value same
    cases same
    exact fits

end Definition

namespace Program

def returning (expression : Expression) : Program :=
  empty.insert (.returning expression)

theorem returning_isListing (expression : Expression) :
    (returning expression).IsListing [.returning expression] :=
  IsListing.empty.insert rfl

end Program

section

variable {expression : Expression} {outcome : Except RuntimeError Value} {value : Int}
variable {fault? : Option RuntimeError} {setting : Setting} {machine after : Machine}

theorem execute_leave (steps : Nat)
    (evaluated : expression.evaluate setting machine = .finished outcome after) :
    (Statement.leave (some expression)).execute setting steps machine =
      .finished (outcome.map fun value => .leave (some value)) after := by
  rw [Statement.execute]
  cases outcome with
  | error error => exact Action.bind_of_error evaluated
  | ok value => exact Action.bind_of_ok evaluated

theorem executeAll_leave (steps : Nat)
    (evaluated : expression.evaluate setting machine = .finished outcome after) :
    Statement.executeAll setting steps [.leave (some expression)] machine =
      .finished (outcome.map fun value => .leave (some value)) after := by
  have executed := execute_leave steps evaluated
  rw [Statement.executeAll]
  cases outcome with
  | error error => exact Action.bind_of_error executed
  | ok value => exact Action.bind_of_ok executed

theorem inCall_leave (scope : Scope) (steps : Nat)
    (evaluated : ∀ machine, expression.evaluate setting machine = .finished outcome machine)
    (machine : Machine) :
    ∃ after, Action.inCall scope
        (Statement.executeBlock setting steps [.leave (some expression)]) machine =
          .finished (outcome.map fun value => .leave (some value)) after ∧
      after.output = machine.output := by
  rw [Action.inCall_eq_restoring, Statement.executeBlock]
  have active : (machine.enterCall (.ofScope scope)).calls = .ofScope scope :: machine.calls := rfl
  have executed := executeAll_leave steps (evaluated
    ((machine.enterCall (.ofScope scope)).withCall (Context.ofScope scope).openScope))
  have entered := (Action.inScope_of_active _ active).trans
    (Action.restoring_of_finished executed)
  exact ⟨_, Action.restoring_of_finished entered, rfl⟩

theorem enter_returning (rates : Rates) (steps : Nat) (device : Device)
    (evaluated : ∀ setting machine,
      expression.evaluate setting machine = .finished outcome machine)
    (computes : Computes value fault? outcome) :
    ∃ after, (Setting.ofProgram (.returning expression) rates (steps + 1)).enter entryName
        (.start device) = .finished (outcome.map some) after ∧
      after.output = .start device := by
  have defined : (Program.returning expression).definition? entryName =
      some (.returning expression) := Program.definition?_insert_self _ _
  have called := inCall_leave ∅ steps (evaluated (.ofProgram (.returning expression) rates steps))
  rcases called (.start device) with ⟨after, called, output⟩
  have invoked : Definition.invoke (.returning expression) rates (steps + 1)
      (.returning expression) [] (.start device) = .finished (outcome.map some) after := by
    change (Action.inCall ∅ _ >>= fun flow =>
      liftM ((Definition.returning expression).checkReturn flow)) (.start device) = _
    cases computes with
    | fault error => exact Action.bind_of_error called
    | number exact => exact (Action.bind_of_ok called).trans rfl
  refine ⟨after, ?_, output⟩
  rw [Setting.enter]
  simp only [Setting.ofProgram, defined]
  cases computes with
  | fault error => exact Action.bind_of_error invoked
  | number exact => exact (Action.bind_of_ok invoked).trans rfl

end

namespace Token

variable {currencies : List String} {tokens : List Token}

theorem endsBefore_semicolon {token : Token} (written : token.isWritten) :
    token.EndsBefore (some ';') := by
  have noPart : ¬ isWordPart ';' := by decide
  cases token with
  | int | float | name | currency | keyword =>
      intro character next
      cases next
      first | exact noPart | decide
  | symbol mark =>
      intro character next longer
      cases next
      cases mark <;> cases longer <;> decide
  | comment => cases written
  | string | endOfText => trivial

def returningHead : List Token :=
  [.keyword .intWord, .name "main", .symbol .leftBracket, .symbol .rightBracket,
    .symbol .leftBrace, .keyword .returnWord]

theorem laidOut_returningHead (unlisted : "main" ∉ currencies) :
    LaidOut currencies returningHead "int main() \x7b return".toList := by
  have split : "int main() \x7b return".toList =
      [] ++ "int".toList ++ ([' '] ++ "main".toList ++ ([] ++ "(".toList ++
        ([] ++ ")".toList ++ ([' '] ++ "\x7b".toList ++ ([' '] ++ "return".toList ++ []))))) := by
    decide
  have spaced : ∀ token : Token, token.kind ≠ .comment → token.EndsBefore (some ' ') := by
    intro token noComment
    exact endsBefore_of_space (by simp) fun comment => absurd comment noComment
  have main : WrittenAs currencies (.name "main") "main".toList :=
    .name ⟨by decide, by decide⟩ (fun keyword => by cases keyword <;> decide) unlisted
  have nameEnds : EndsBefore (some '(') (.name "main") := by
    rintro _ ⟨⟩
    decide
  have bracketEnds : EndsBefore (some ')') (.symbol .leftBracket) := by
    rintro _ ⟨⟩ longer
    cases longer <;> decide
  rw [split]
  exact .cons rfl ⟨.keyword .intWord, spaced _ (by decide)⟩
    (.cons rfl ⟨main, nameEnds⟩
      (.cons rfl ⟨.symbol .leftBracket, bracketEnds⟩
        (.cons rfl ⟨.symbol .rightBracket, spaced _ (by decide)⟩
          (.cons rfl ⟨.symbol .leftBrace, spaced _ (by decide)⟩
            (.cons rfl ⟨.keyword .returnWord, endsBefore_of_space (by simp) (by simp)⟩
              (.nil rfl))))))

def returningTail : List Token := [.symbol .semicolon, .symbol .rightBrace]

theorem laidOut_returningTail : LaidOut currencies returningTail "; \x7d".toList := by
  have split : "; \x7d".toList = [] ++ ";".toList ++ ([' '] ++ "\x7d".toList ++ []) := by decide
  have spaced : EndsBefore (some ' ') (.symbol .semicolon) :=
    endsBefore_of_space (by simp) (by simp [kind])
  rw [split]
  exact .cons rfl ⟨.symbol .semicolon, spaced⟩
    (.cons rfl ⟨.symbol .rightBrace, endsBefore_of_space (by simp) (by simp)⟩ (.nil rfl))

end Token

namespace Program

def returningText (text : String) : String := "int main() \x7b return " ++ text ++ "; \x7d"

variable {currencies : List String} {expression : Expression} {text : String}

theorem toList_between (front inner back : String) :
    (front ++ inner ++ back).toList = front.toList ++ (inner.toList ++ back.toList) := by
  rw [String.toList_append, String.toList_append, List.append_assoc]

theorem laidOut_returningText (unlisted : "main" ∉ currencies)
    (fits : expression.Fits .disjunction)
    (laidOut : Token.LaidOut currencies expression.tokens text.toList) :
    Token.LaidOut currencies (Definition.returning expression).tokens
      (returningText text).toList := by
  have tokens : (Definition.returning expression).tokens =
      Token.returningHead ++ (expression.tokens ++ Token.returningTail) := by
    simp [Definition.tokens, Definition.returning, ValueType.tokens, ValueType.token?, entryName,
      Token.bracketed, Token.separated, Token.braced, Statement.sequenceTokens, Statement.tokens,
      Token.returningHead, Token.returningTail]
  have characters : (returningText text).toList =
      "int main() \x7b return".toList ++ ([' '] ++ (text.toList ++ "; \x7d".toList)) := by
    have space : "int main() \x7b return ".toList = "int main() \x7b return".toList ++ [' '] := by
      decide
    calc
      _ = "int main() \x7b return ".toList ++ (text.toList ++ "; \x7d".toList) :=
          toList_between _ _ _
      _ = "int main() \x7b return".toList ++ [' '] ++ (text.toList ++ "; \x7d".toList) :=
          congrArg (fun front => front ++ (text.toList ++ "; \x7d".toList)) space
      _ = _ := List.append_assoc _ _ _
  have behind := laidOut.append Token.laidOut_returningTail fun token member =>
    Token.endsBefore_semicolon (List.all_eq_true.mp fits.all_isWritten token member)
  have blank : [' '].all isBlank := rfl
  rw [tokens, characters]
  apply (Token.laidOut_returningHead unlisted).append (behind.behind_blanks blank)
  intro token member
  apply Token.endsBefore_of_space
  · simp
  · intro comment
    have noComment : ∀ token ∈ Token.returningHead, token.kind ≠ .comment := by decide
    exact absurd comment (noComment token member)

theorem ofText_returningText (unlisted : "main" ∉ currencies)
    (fits : expression.Fits .disjunction)
    (laidOut : Token.LaidOut currencies expression.tokens text.toList) :
    ofText currencies (returningText text) = .ok (returning expression) := by
  have definitionFits := Definition.returning_fits fits
  rcases TokenList.ofText_of_laidOut (laidOut_returningText unlisted fits laidOut) with
    ⟨same, complete⟩
  apply ofText_of_spells (returning_isListing expression)
  · rw [List.forall_mem_singleton]
    exact definitionFits
  · rw [List.flatMap_singleton]
    constructor
    · have written := definitionFits.all_isWritten
      rw [← same] at written
      rw [TokenList.significant_of_all_isWritten written]
      exact same
    · exact complete

end Program

namespace Calculation

theorem laidOut_render (calculation : Calculation) (currencies : List String) :
    Token.LaidOut currencies calculation.tokens (Token.render calculation.tokens) := by
  apply Token.laidOut_render [] rfl
  exact calculation.forall_mem_tokens
    (fun value unsigned => (Token.Renderable.int unsigned).writtenAs (by simp))
    (fun mark => .symbol mark)

end Calculation

theorem Calculation.exists_report_of_laidOut (calculation : Calculation)
    {configurationText : String} {configuration : Configuration}
    (configured : Project.readConfiguration configurationText = .ok configuration)
    (unlisted : "main" ∉ configuration.currencies) (device : Device) (steps : Nat) {text : String}
    (laidOut : Token.LaidOut configuration.currencies calculation.tokens text.toList) :
    ∃ outcome, Computes calculation.value calculation.fault? outcome ∧
      Report.ofProject? (steps + 1) device
          (Project.ofTexts configurationText (Program.returningText text)) =
        some ⟨(outcome.map some).mapError .runtime, #[]⟩ := by
  rw [← calculation.tokens_expression] at laidOut
  have fits : calculation.expression.Fits .disjunction :=
    calculation.expression_fits.widen (by cases calculation.level <;> decide)
  have read : Project.ofTexts configurationText (Program.returningText text) =
      .ok ⟨configuration, .returning calculation.expression⟩ := by
    rw [Project.ofTexts, configured]
    exact congrArg (fun program => program.map (Project.mk configuration))
      (Program.ofText_returningText unlisted fits laidOut)
  rcases calculation.evaluate_expression with ⟨outcome, computes, evaluated⟩
  rcases enter_returning configuration.rates steps device evaluated computes with
    ⟨after, entered, output⟩
  refine ⟨outcome, computes, ?_⟩
  rw [read, Report.ofProject?]
  simp only [Project.setting, entered, output]
  rfl

/-- Wherever a calculation is written with no more brackets than it needs, the program that returns
it gives its exact value if each step has a result among the numbers of 64 bits, and fails at the
first step that has none otherwise. -/
theorem calculation_is_exact_or_fails (calculation : Calculation) {configurationText : String}
    {configuration : Configuration}
    (configured : Project.readConfiguration configurationText = .ok configuration)
    (unlisted : "main" ∉ configuration.currencies) (device : Device) (steps : Nat) :
    (∃ text : String,
      Token.LaidOut configuration.currencies calculation.tokens text.toList) ∧
    ∀ text : String, Token.LaidOut configuration.currencies calculation.tokens text.toList →
      ∃ result, Report.ofProject? (steps + 1) device
          (Project.ofTexts configurationText (Program.returningText text)) =
            some ⟨result, #[]⟩ ∧
        ((∃ number, result = .ok (some (.int number)) ∧ number.toInt = calculation.value) ↔
          ∀ step ∈ calculation.steps, step.dividesByZero = false ∧
            Integer.minimum ≤ step.value ∧ step.value ≤ Integer.maximum) ∧
        ∀ error, calculation.fault? = some error → result = .error (.runtime error) := by
  constructor
  · use String.ofList (Token.render calculation.tokens)
    rw [String.toList_ofList]
    exact calculation.laidOut_render configuration.currencies
  intro text laidOut
  rcases calculation.exists_report_of_laidOut configured unlisted device steps laidOut with
    ⟨outcome, computes, reported⟩
  refine ⟨_, reported, ?_⟩
  rw [← calculation.fault?_eq_none_iff]
  generalize calculation.fault? = fault at computes
  cases computes with
  | number exact => exact ⟨⟨fun _ => rfl, fun _ => ⟨_, rfl, exact⟩⟩, by simp⟩
  | fault error =>
      constructor
      · simp [Except.map, Except.mapError]
      · intro other same
        cases same
        rfl

def sampleCalculation : Calculation :=
  .operation .multiply
    (.negation (.operation .subtract (.number 2 (by decide)) (.number 5 (by decide))))
    (.number 3 (by decide))

theorem calculation_is_exact_or_fails_of_sampleCalculation :
    Project.readConfiguration ";" = .ok ⟨[], .empty⟩ ∧
      ∃ number : Int64, number.toInt = 9 ∧
        Report.ofProject? 1 .unlimited (Project.ofTexts ";"
          (Program.returningText "- ( 2 - 5 ) * 3")) = some ⟨.ok (some (.int number)), #[]⟩ := by
  have configured : Project.readConfiguration ";" = .ok ⟨[], .empty⟩ := rfl
  have rendered : "- ( 2 - 5 ) * 3".toList = Token.render sampleCalculation.tokens := by decide
  have laidOut := sampleCalculation.laidOut_render []
  rw [← rendered] at laidOut
  have faultless : ∀ step ∈ sampleCalculation.steps, step.dividesByZero = false ∧
      Integer.minimum ≤ step.value ∧ step.value ≤ Integer.maximum := by
    decide
  rcases (calculation_is_exact_or_fails sampleCalculation configured (by simp) .unlimited 0).2 _
    laidOut with ⟨result, reported, exact, _⟩
  rcases exact.mpr faultless with ⟨number, rfl, value⟩
  exact ⟨configured, number, value, reported⟩

end Ducat
