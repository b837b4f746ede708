import Ducat.Proofs.Evaluation.Moment.Allowed
import Ducat.Proofs.Grammar.Currency
import Ducat.Proofs.Money.Currency

/-! Main statement: at no moment of a run is there money in another currency than those that the
configuration lists. -/

namespace Ducat

namespace Expression

variable {expression first second : Expression}

theorem tokens_firstOperand? (isFirst : expression.firstOperand? = some first) :
    first.tokens ⊆ expression.tokens := by
  cases expression <;> cases isFirst <;> simp [tokens, Token.bracketed]

theorem tokens_secondOperand? (value : Value)
    (isSecond : expression.secondOperand? value = some second) :
    second.tokens ⊆ expression.tokens := by
  cases expression with
  | arithmetic | comparison =>
      cases isSecond
      simp [tokens]
  | logical operator left right =>
      simp only [secondOperand?] at isSecond
      split at isSecond
      · split at isSecond <;> cases isSecond
        simp [tokens]
      · cases isSecond
  | literal | reference | call | bracketed | negation | cast | not => cases isSecond

end Expression

namespace Statement

variable {statement next : Statement} {statements : List Statement}

theorem tokens_expression? {expression : Expression}
    (begins : statement.expression? = some expression) :
    expression.tokens ⊆ statement.tokens := by
  intro token inside
  cases statement <;> cases begins <;>
    simp [tokens, assignmentTokens, Token.bracketed, inside]

theorem tokens_chosen? (value : Value) (isNext : statement.chosen? value = some next) :
    next.tokens ⊆ statement.tokens := by
  intro token inside
  cases statement with
  | branch | choice =>
      simp only [chosen?] at isNext
      split at isNext <;> cases isNext <;> simp [tokens, inside]
  | loop condition body =>
      simp only [chosen?] at isNext
      split at isNext <;> cases isNext
      exact List.mem_append_right _ inside
  | assign | declare | leave | call | block => cases isNext

theorem listed_of_block {currencies : List String}
    (listed : Token.Listed currencies (block statements).tokens) :
    ∀ statement ∈ statements, Token.Listed currencies statement.tokens := by
  intro statement member
  rw [tokens] at listed
  exact listed.of_subset (subset_block member)

end Statement

def Discipline.listed (currencies : List String) : Discipline where
  good := Value.In currencies
  allowsExpression expression := Token.Listed currencies expression.tokens
  allowsStatement statement := Token.Listed currencies statement.tokens
  literal constant := by cases constant <;> trivial
  truth _ := trivial
  text _ := trivial
  negation within negated := Value.negate_givesIn within _ negated
  cast listed _ cast := by
    refine Value.cast_givesIn (fun id named => listed id ?_) _ _ cast
    rw [named]
    simp [Expression.tokens, ValueType.tokens, ValueType.token?]
  arithmetic operator _ _ _ within alsoWithin applied :=
    operator.apply_givesIn within alsoWithin _ applied
  firstOperand listed isFirst := listed.of_subset (Expression.tokens_firstOperand? isFirst)
  secondOperand value listed isSecond :=
    listed.of_subset (Expression.tokens_secondOperand? value isSecond)
  arguments listed argument member := by
    rcases listed with listed | listed
    · simp only [Expression.tokens, Expression.argumentTokens_eq] at listed
      refine listed.of_subset fun token named => ?_
      exact List.mem_cons_of_mem _ (Token.subset_arguments member named)
    · simp only [Statement.tokens] at listed
      refine listed.of_subset fun token named => ?_
      exact List.mem_append_left _ (List.mem_cons_of_mem _ (Token.subset_arguments member named))
  expression listed begins := listed.of_subset (Statement.tokens_expression? begins)
  chosen value listed isNext := listed.of_subset (Statement.tokens_chosen? value isNext)
  block := Statement.listed_of_block

namespace Moment

variable {currencies : List String} {program : Program} {rates : Rates}

/-- All values that there are at the moment are in the currencies: those of variables, those that
are passed as arguments, and those that come of the activity. -/
structure Within (currencies : List String) (program : Program) (rates : Rates)
    (moment : Moment) : Prop where
  machine : moment.machine.AllGood (Value.In currencies)
  arguments : ∀ callee arguments, moment.activity = .application callee arguments →
    ∀ value ∈ arguments, value.In currencies
  after : ∀ steps result after,
    moment.activity.perform (.ofProgram program rates steps) steps moment.machine =
      .finished result after →
    after.AllGood (Value.In currencies) ∧
      ∀ values, result = .ok values → ∀ value ∈ values, value.In currencies

theorem within_of_allowed {moment : Moment}
    (programAllowed : (Discipline.listed currencies).AllowsProgram program) (rates : Rates)
    (allowed : (Discipline.listed currencies).AllowsMoment moment) :
    moment.Within currencies program rates := by
  refine ⟨allowed.machine, ?_, fun steps result after finished => ?_⟩
  · intro callee arguments applies
    have activityAllowed := allowed.activity
    rw [applies] at activityAllowed
    exact activityAllowed.2
  · have performed := Activity.perform_refines_self programAllowed rates steps allowed.activity
    exact performed.allGood allowed.machine finished

end Moment

theorem Program.allowsProgram_of_ofText {currencies : List String} {text : String}
    {program : Program} (read : Program.ofText currencies text = .ok program) :
    (Discipline.listed currencies).AllowsProgram program := by
  intro name definition defined
  have listed := Program.listed_of_ofText read defined
  exact listed.of_subset (List.subset_append_right _ _)

theorem Project.allowsProgram_of_ofTexts {configuration program : String} {project : Project}
    (read : Project.ofTexts configuration program = .ok project) :
    (Discipline.listed project.configuration.currencies).AllowsProgram project.program := by
  rw [ofTexts] at read
  cases configured : readConfiguration configuration with
  | error failure =>
      rw [configured] at read
      cases read
  | ok found =>
      rw [configured] at read
      cases accepted : Program.ofText found.currencies program with
      | error failure =>
          simp only [bind, Except.bind, accepted] at read
          cases read
      | ok result =>
          simp only [bind, Except.bind, accepted] at read
          cases read
          exact Program.allowsProgram_of_ofText accepted

/-- In the whole course of a run, and in what it returns, money is only in currencies that the
configuration lists. -/
theorem money_in_listed_currencies {configuration program : String} {project : Project}
    (read : Project.ofTexts configuration program = .ok project) (entry : String)
    (device : Device) :
    (∀ moment : Moment,
      moment.OfRun project.program project.configuration.rates entry (.start device) →
        moment.Within project.configuration.currencies project.program
          project.configuration.rates) ∧
    ∀ steps value after,
      (project.setting steps).enter entry (.start device) = .finished (.ok (some value)) after →
        value.In project.configuration.currencies := by
  have allowed := Project.allowsProgram_of_ofTexts read
  have allGood : (Machine.start device).AllGood (Value.In project.configuration.currencies) :=
    Machine.allGood_start device
  refine ⟨fun moment reached => ?_, fun steps value after finished => ?_⟩
  · exact Moment.within_of_allowed allowed _ (reached.allowed allowed allGood)
  · have entered := Setting.enter_refines
      (Coupling.ofGood_allowsCalls project.program project.configuration.rates) allowed
      (Nat.le_refl steps) entry
    exact (entered.allGood allGood finished).2 _ rfl value rfl

def purseText : String := "
EUR double(EUR x) \x7b x = x * 2; return x; \x7d
EUR main() \x7b PLN spare = 5 as PLN; return -double(3 as EUR); \x7d"

theorem money_in_listed_currencies_of_purse :
    ∃ project value after,
      Project.ofTexts "EUR PLN; EUR 1 4 PLN 0.25 1" purseText = .ok project ∧
      (project.setting 3).enter entryName (.start .unlimited) = .finished (.ok (some value)) after ∧
      value.In project.configuration.currencies ∧
      ∀ moment : Moment,
        moment.OfRun project.program project.configuration.rates entryName (.start .unlimited) →
          moment.Within project.configuration.currencies project.program
            project.configuration.rates := by
  have runs : ((Report.ofProject? 3 .unlimited (Project.ofTexts "EUR PLN; EUR 1 4 PLN 0.25 1"
      purseText)).bind fun report => report.result.toOption.join).isSome := by
    decide +kernel
  cases read : Project.ofTexts "EUR PLN; EUR 1 4 PLN 0.25 1" purseText with
  | error failure =>
      rw [read] at runs
      cases runs
  | ok project =>
      rcases money_in_listed_currencies read entryName .unlimited with ⟨within, returned⟩
      rw [read, Report.ofProject?] at runs
      cases ran : (project.setting 3).enter entryName (.start .unlimited) with
      | exhausted =>
          rw [ran] at runs
          cases runs
      | finished result after =>
          rw [ran] at runs
          rcases result with _ | _ | value
          · cases runs
          · cases runs
          · exact ⟨project, value, after, rfl, ran, returned 3 value after ran, within⟩

end Ducat
