import Ducat.Proofs.Configuration.Acceptance
import Ducat.Proofs.Evaluation.Currency
import Ducat.Proofs.Grammar.Determination
import Ducat.Proofs.Token.Unmentioned

/-! Main statement: currencies that a program does not name, and their rates, make no difference to
it, neither when it is read nor when it runs. -/

namespace Ducat

section

variable {currencies : List String} {rates otherRates : Rates}

def Rates.AgreeOn (currencies : List String) (rates otherRates : Rates) : Prop :=
  ∀ source ∈ currencies, ∀ target ∈ currencies,
    otherRates.rate? source target = rates.rate? source target

theorem Money.convert_congr {money : Money} {target : String}
    (agree : Rates.AgreeOn currencies rates otherRates) (within : money.currency ∈ currencies)
    (listed : target ∈ currencies) :
    money.convert target otherRates = money.convert target rates := by
  rw [convert, convert, agree _ within _ listed]

theorem Value.toMoney_congr {value : Value} {target : Option String}
    (agree : Rates.AgreeOn currencies rates otherRates) (within : value.In currencies)
    (listed : ∀ id ∈ target, id ∈ currencies) :
    value.toMoney target otherRates = value.toMoney target rates := by
  cases value with
  | money amount =>
      cases target with
      | none => rfl
      | some id =>
          rw [toMoney, toMoney, Money.convert_congr agree within (listed id rfl)]
  | int | float => cases target <;> rfl
  | string | bool => rfl

/-- Casts in code that names only the given currencies ask for no other rates. -/
theorem Discipline.listed_sameCasts (agree : Rates.AgreeOn currencies rates otherRates) :
    (Discipline.listed currencies).SameCasts rates otherRates := by
  intro operand target value allowed isGood
  have within : value.In currencies := isGood
  cases target with
  | money currency =>
      have listed : ∀ id ∈ currency, id ∈ currencies := by
        rintro id ⟨⟩
        apply allowed id
        simp [Expression.tokens, ValueType.tokens, ValueType.token?]
      cases value <;> exact Value.toMoney_congr agree within listed
  | _ => cases value <;> rfl

end

namespace Setting

variable {discipline : Discipline} {program : Program} {rates otherRates : Rates}

theorem ofGood_allowsCalls_compares (discipline : Discipline) (program : Program)
    (rates otherRates : Rates) :
    (Coupling.ofGood discipline.good).comparison.AllowsCalls
      (Coupling.ofGood discipline.good).comparison discipline.good program rates otherRates :=
  { (Coupling.ofGood_allowsCalls program rates).compares with carried := fun refines => refines }

theorem enter_of_sameCasts (allowed : discipline.AllowsProgram program)
    (casts : discipline.SameCasts rates otherRates) {steps : Nat} {entry : String}
    {device : Device} {result : Except RuntimeError (Option Value)} {after : Machine}
    (finished : (ofProgram program rates steps).enter entry (.start device) =
      .finished result after) :
    (ofProgram program otherRates steps).enter entry (.start device) = .finished result after := by
  have allows := ofGood_allowsCalls_compares discipline program rates otherRates
  have refines : Action.Refines (.ofGood discipline.good) _ _ _ :=
    enter_compares allows allowed casts (Nat.le_refl steps) entry
  rcases refines _ _ ⟨rfl, Machine.allGood_start device⟩ result after finished with
    ⟨_, otherFinished, ⟨rfl, _⟩, _⟩
  exact otherFinished

theorem enter_congr (allowed : discipline.AllowsProgram program)
    (casts : discipline.SameCasts rates otherRates) (steps : Nat) (entry : String)
    (device : Device) :
    (ofProgram program otherRates steps).enter entry (.start device) =
      (ofProgram program rates steps).enter entry (.start device) := by
  cases ran : (ofProgram program rates steps).enter entry (.start device) with
  | finished result after => exact enter_of_sameCasts allowed casts ran
  | exhausted =>
      cases otherRan : (ofProgram program otherRates steps).enter entry (.start device) with
      | exhausted => rfl
      | finished result after =>
          have back := enter_of_sameCasts allowed casts.symm otherRan
          rw [ran] at back
          cases back

end Setting

namespace Project

def ofProgramText (configuration : Configuration) (text : String) : Except Failure Project := do
  return ⟨configuration, ← Program.ofText configuration.currencies text⟩

theorem ofTexts_of_readConfiguration {configurationText : String} {configuration : Configuration}
    (read : readConfiguration configurationText = .ok configuration) (text : String) :
    ofTexts configurationText text = ofProgramText configuration text := by
  rw [ofTexts, read]
  rfl

theorem readConfiguration_of_isSpelledBy {table : Configuration.Table} {text : String}
    (spelled : table.IsSpelledBy text) : readConfiguration text = .ok table.configuration := by
  rw [readConfiguration, Configuration.ofText_eq_ok_iff.mpr ⟨table, spelled, rfl⟩]
  rfl

end Project

variable {first second : Configuration} {text : String}

theorem Report.ofProject?_congr (declared : first.currencies ⊆ second.currencies)
    (agree : Rates.AgreeOn first.currencies first.rates second.rates)
    (unmentioned : Token.Apart first.currencies second.currencies
      ((TokenList.ofText first.currencies text).tokens.map PlacedToken.token))
    (steps : Nat) (device : Device) :
    ofProject? steps device (Project.ofProgramText second text) =
      ofProject? steps device (Project.ofProgramText first text) := by
  have same := Program.ofText_congr (TokenList.ofText_congr declared unmentioned)
  rw [Project.ofProgramText, Project.ofProgramText, same]
  cases read : Program.ofText first.currencies text with
  | error failure => rfl
  | ok program =>
      have entered := Setting.enter_congr (Program.allowsProgram_of_ofText read)
        (Discipline.listed_sameCasts agree) steps entryName device
      change ofProject? steps device (.ok ⟨second, program⟩) =
        ofProject? steps device (.ok ⟨first, program⟩)
      rw [ofProject?, ofProject?, Project.setting, Project.setting, entered]

/-- A second configuration may have more currencies. If it has the same rates between those of the
first one, and no name in the text is one of the others, then the text gives the same result or
error and the same output, at every number of steps and with every device. -/
theorem unmentioned_currencies_make_no_difference (declared : first.currencies ⊆ second.currencies)
    (agree : Rates.AgreeOn first.currencies first.rates second.rates)
    (unmentioned : Token.Apart first.currencies second.currencies
      ((TokenList.ofText first.currencies text).tokens.map PlacedToken.token)) :
    (∀ steps device, Report.ofProject? steps device (Project.ofProgramText second text) =
        Report.ofProject? steps device (Project.ofProgramText first text)) ∧
      ∀ firstText secondText, Project.readConfiguration firstText = .ok first →
        Project.readConfiguration secondText = .ok second →
          ∀ steps device, Report.ofProject? steps device (Project.ofTexts secondText text) =
            Report.ofProject? steps device (Project.ofTexts firstText text) := by
  refine ⟨Report.ofProject?_congr declared agree unmentioned, ?_⟩
  intro firstText secondText firstRead secondRead steps device
  rw [Project.ofTexts_of_readConfiguration firstRead,
    Project.ofTexts_of_readConfiguration secondRead]
  exact Report.ofProject?_congr declared agree unmentioned steps device

theorem Configuration.Table.rate?_eq_of_gives {table other : Table} {source target : String}
    {rate : Float} (gives : table.Gives source target rate)
    (otherGives : other.Gives source target rate) :
    other.configuration.rates.rate? source target =
      table.configuration.rates.rate? source target := by
  rw [(table.configuration_rate?_eq_some_iff source target rate).mpr gives,
    (other.configuration_rate?_eq_some_iff source target rate).mpr otherGives]

def Configuration.widerTable : Table where
  currencies := ["c", "a", "b"]
  distinct := by decide
  rows := [⟨"a", [Double.ofDigits ['2'] [], Double.ofDigits ['1'] [],
      Double.ofDigits ['0'] ['2', '5']]⟩,
    ⟨"b", [Double.ofDigits ['3'] [], Double.ofDigits ['4'] [], Double.ofDigits ['1'] []]⟩]
  fits := by
    rw [List.forall_mem_cons, List.forall_mem_singleton]
    exact ⟨⟨by decide, rfl⟩, ⟨by decide, rfl⟩⟩
  separate := by decide

def Configuration.widerText : String := "c a b; a 2 1 0.25 b 3 4 1"

def exchangeText : String := "a main() \x7b b spare = 5 as b; return spare as a; \x7d # c"

theorem unmentioned_currencies_make_no_difference_of_exchange :
    Project.readConfiguration Configuration.sampleText =
        .ok Configuration.sampleTable.configuration ∧
      Project.readConfiguration Configuration.widerText =
        .ok Configuration.widerTable.configuration ∧
      ∀ steps device,
        Report.ofProject? steps device (Project.ofTexts Configuration.widerText exchangeText) =
          Report.ofProject? steps device
            (Project.ofTexts Configuration.sampleText exchangeText) := by
  have firstSpelled : Configuration.sampleTable.IsSpelledBy Configuration.sampleText :=
    ⟨_, rfl, rfl⟩
  have secondSpelled : Configuration.widerTable.IsSpelledBy Configuration.widerText :=
    ⟨_, rfl, rfl⟩
  have firstRead := Project.readConfiguration_of_isSpelledBy firstSpelled
  have secondRead := Project.readConfiguration_of_isSpelledBy secondSpelled
  have declared : Configuration.sampleTable.configuration.currencies ⊆
      Configuration.widerTable.configuration.currencies := List.subset_cons_self "c" ["a", "b"]
  have agree : Rates.AgreeOn Configuration.sampleTable.configuration.currencies
      Configuration.sampleTable.configuration.rates
      Configuration.widerTable.configuration.rates := by
    have both : ∀ {holds : String → Prop}, holds "a" → holds "b" → ∀ id ∈ ["a", "b"], holds id :=
      fun first second => List.forall_mem_cons.mpr ⟨first, List.forall_mem_singleton.mpr second⟩
    -- Each row of the sample is compared with that row of the wider table, place by place.
    have head : ∀ {row : Configuration.Row} {others : List Configuration.Row},
        row ∈ row :: others := List.mem_cons_self
    have last : ∀ {row other : Configuration.Row}, row ∈ [other, row] :=
      List.mem_cons_of_mem _ List.mem_cons_self
    refine both (both ?_ ?_) (both ?_ ?_)
    · exact Configuration.Table.rate?_eq_of_gives ⟨_, head, rfl, 0, rfl, rfl⟩
        ⟨_, head, rfl, 1, rfl, rfl⟩
    · exact Configuration.Table.rate?_eq_of_gives ⟨_, head, rfl, 1, rfl, rfl⟩
        ⟨_, head, rfl, 2, rfl, rfl⟩
    · exact Configuration.Table.rate?_eq_of_gives ⟨_, last, rfl, 0, rfl, rfl⟩
        ⟨_, last, rfl, 1, rfl, rfl⟩
    · exact Configuration.Table.rate?_eq_of_gives ⟨_, last, rfl, 1, rfl, rfl⟩
        ⟨_, last, rfl, 2, rfl, rfl⟩
  have unmentioned : Token.Apart Configuration.sampleTable.configuration.currencies
      Configuration.widerTable.configuration.currencies
      ((TokenList.ofText Configuration.sampleTable.configuration.currencies
        exchangeText).tokens.map PlacedToken.token) := by
    have tokens : (TokenList.ofText ["a", "b"] exchangeText).tokens.map PlacedToken.token =
        [.currency "a", .name "main", .symbol .leftBracket, .symbol .rightBracket,
          .symbol .leftBrace, .currency "b", .name "spare", .symbol .assign, .int 5,
          .keyword .asWord, .currency "b", .symbol .semicolon, .keyword .returnWord,
          .name "spare", .keyword .asWord, .currency "a", .symbol .semicolon,
          .symbol .rightBrace, .comment " c"] := by
      cbv
    change Token.Apart ["a", "b"] ["c", "a", "b"]
      ((TokenList.ofText ["a", "b"] exchangeText).tokens.map PlacedToken.token)
    rw [tokens]
    simp [Token.Apart]
  exact ⟨firstRead, secondRead, (unmentioned_currencies_make_no_difference declared agree
    unmentioned).2 _ _ firstRead secondRead⟩

end Ducat
