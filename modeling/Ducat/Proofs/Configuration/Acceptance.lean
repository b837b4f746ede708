import Ducat.Proofs.Configuration.Table

/-! Main statement: a configuration text is accepted if and only if a table is written in it, and
it is read as that table. -/

namespace Ducat

namespace Configuration

def Row.tokens (row : Row) : List Token := .currency row.currency :: row.rates.map .rate

def Row.segment (row : Row) : Segment := .row row.currency row.rates

namespace Table

def tokens (table : Table) : List Token :=
  table.currencies.map .currency ++ .semicolon :: table.rows.flatMap Row.tokens

/-- The text consists, apart from blanks and comments, of the table. -/
def IsSpelledBy (table : Table) (text : String) : Prop :=
  ∃ placed, Configuration.tokens text = .ok placed ∧
    placed.map PlacedToken.token = table.tokens

end Table

/-! The list of currencies. -/

theorem written_of_readCurrencies {known listed : List String} {line : Nat}
    {placed rest : List PlacedToken} (distinct : known.Nodup)
    (read : readCurrencies known line placed = .ok (listed, rest)) :
    listed.Nodup ∧ ∃ further, listed = known ++ further ∧
      placed.map PlacedToken.token =
        further.map .currency ++ .semicolon :: rest.map PlacedToken.token := by
  fun_induction readCurrencies known line placed with
  | case1 => cases read
  | case2 known _ _ rest =>
      cases read
      exact ⟨distinct, [], (List.append_nil _).symm, rfl⟩
  | case3 known _ id _ rest repeated => cases read
  | case4 known _ id line placed new hypothesis =>
      have longer : (known ++ [id]).Nodup :=
        (List.perm_append_singleton id known).nodup_iff.mpr (List.nodup_cons.mpr ⟨new, distinct⟩)
      rcases hypothesis longer read with ⟨unique, further, whole, written⟩
      exact ⟨unique, id :: further, by rw [whole, List.append_assoc]; rfl,
        congrArg (Token.currency id :: ·) written⟩
  | case5 => cases read

theorem readCurrencies_of_written {known further : List String} {line : Nat}
    {placed : List PlacedToken} {behind : List Token} (distinct : (known ++ further).Nodup)
    (written : placed.map PlacedToken.token = further.map .currency ++ .semicolon :: behind) :
    ∃ rest, readCurrencies known line placed = .ok (known ++ further, rest) ∧
      rest.map PlacedToken.token = behind := by
  induction further generalizing known line placed with
  | nil =>
      rcases List.map_eq_cons_iff.mp written with ⟨⟨_, _⟩, rest, rfl, rfl, rfl⟩
      exact ⟨rest, by rw [List.append_nil]; rfl, rfl⟩
  | cons id further hypothesis =>
      rcases List.map_eq_cons_iff.mp written with ⟨⟨_, place⟩, rest, rfl, rfl, following⟩
      rw [List.append_cons] at distinct ⊢
      have longer : (known ++ [id]).Nodup := (List.nodup_append.mp distinct).1
      have new : id ∉ known :=
        (List.nodup_cons.mp ((List.perm_append_singleton id known).nodup_iff.mp longer)).1
      rw [readCurrencies, if_neg new]
      exact hypothesis distinct following

theorem readHead_eq_ok_iff {placed : List PlacedToken}
    {head : List String × List PlacedToken} :
    readHead placed = .ok head ↔ readCurrencies [] 1 placed = .ok head := by
  rcases placed with - | ⟨⟨- | - | -, _⟩, rest⟩ <;> simp [readHead, readCurrencies]

/-! The rows. -/

theorem segmentsBehindRates_eq_iff {placed : List PlacedToken} {rates : List Float}
    {rows : List Row} :
    segmentsBehindRates placed = (rates, rows.map Row.segment) ↔
      placed.map PlacedToken.token = rates.map .rate ++ rows.flatMap Row.tokens := by
  fun_induction segmentsBehindRates placed generalizing rates rows with
  | case1 =>
    cases rates <;> cases rows <;> simp [Row.tokens]
  | case2 value line rest behind segments same hypothesis =>
    rw [same] at hypothesis
    cases rates with
    | nil => cases rows <;> simp [Row.tokens]
    | cons first rates => simp [← hypothesis, and_assoc]
  | case3 id line rest behind segments same hypothesis =>
    rw [same] at hypothesis
    cases rates with
    | nil =>
      cases rows with
      | nil => simp
      | cons row rows =>
        simp [Row.tokens, Row.segment, ← hypothesis, and_assoc]
    | cons => simp
  | case4 line rest =>
    cases rates <;> cases rows <;> simp [Row.segment, Row.tokens]

theorem segments_eq_iff {placed : List PlacedToken} {rows : List Row} :
    segments placed = rows.map Row.segment ↔
      placed.map PlacedToken.token = rows.flatMap Row.tokens := by
  have divided : segmentsBehindRates placed = ([], rows.map Row.segment) ↔
      placed.map PlacedToken.token = rows.flatMap Row.tokens :=
    segmentsBehindRates_eq_iff
  rw [← divided]
  rcases placed with - | ⟨⟨- | - | -, _⟩, rest⟩
  case cons.rate => cases rows <;> simp [segments, segmentsBehindRates, Row.segment]
  all_goals simp [segments, segmentsBehindRates]

theorem addSegment_eq_ok_iff {currencies : List String} {rates next : Rates} (row : Row) :
    addSegment currencies rates row.segment = .ok next ↔
      (row.Fits currencies ∧ rates.hasRow row.currency = false) ∧
        row.enter currencies rates = next := by
  rw [Row.segment, addSegment]
  split
  case isTrue incomplete =>
    have unfit : ¬row.Fits currencies := fun fits => incomplete fits.complete
    simp [unfit]
  case isFalse complete =>
    split
    case isTrue repeated => simp [repeated]
    case isFalse new =>
      split
      case isTrue unlisted =>
        have unfit : ¬row.Fits currencies := fun fits => unlisted fits.listed
        simp [unfit]
      case isFalse listed =>
        have fits : row.Fits currencies :=
          ⟨Decidable.not_not.mp listed, Decidable.not_not.mp complete⟩
        simp [fits, new, Row.enter]

theorem foldlM_addSegment_eq_ok_iff {currencies : List String} {rates result : Rates}
    {segments : List Segment} :
    segments.foldlM (addSegment currencies) rates = .ok result ↔
      ∃ rows, segments = rows.map Row.segment ∧ Admits currencies rates rows ∧
        rows.foldl (Row.enter currencies) rates = result := by
  induction segments generalizing rates with
  | nil =>
      constructor
      · intro read
        cases read
        exact ⟨[], rfl, admits_nil currencies result, rfl⟩
      · intro ⟨rows, empty, _, entered⟩
        rw [List.map_eq_nil_iff.mp empty.symm] at entered
        exact congrArg Except.ok entered
  | cons segment segments hypothesis =>
      rw [List.foldlM_cons]
      constructor
      · intro read
        cases added : addSegment currencies rates segment with
        | error error =>
            rw [added] at read
            cases read
        | ok next =>
            rw [added] at read
            rcases hypothesis.mp read with ⟨rows, rfl, admits, entered⟩
            cases segment with
            | stray => cases added
            | row id columns =>
                rcases (addSegment_eq_ok_iff ⟨id, columns⟩).mp added with ⟨admitted, rfl⟩
                exact ⟨⟨id, columns⟩ :: rows, rfl, admits_cons.mpr ⟨admitted, admits⟩, entered⟩
      · intro ⟨rows, divided, admits, entered⟩
        rcases List.map_eq_cons_iff.mp divided.symm with ⟨row, rows, rfl, rfl, rfl⟩
        rcases admits_cons.mp admits with ⟨admitted, later⟩
        rw [(addSegment_eq_ok_iff row).mpr ⟨admitted, rfl⟩]
        exact hypothesis.mpr ⟨rows, rfl, later, entered⟩

theorem ofTokens_eq_ok_iff {placed : List PlacedToken} {configuration : Configuration} :
    ofTokens placed = .ok configuration ↔
      ∃ table : Table, placed.map PlacedToken.token = table.tokens ∧
        table.configuration = configuration := by
  constructor
  · intro read
    rw [ofTokens] at read
    cases head : readHead placed with
    | error error =>
        rw [head] at read
        cases read
    | ok found =>
        rcases found with ⟨currencies, rest⟩
        rw [head] at read
        dsimp only [bind, Except.bind] at read
        cases body : (segments rest).foldlM (addSegment currencies) Rates.empty with
        | error error =>
            rw [body] at read
            cases read
        | ok rates =>
            rw [body] at read
            cases read
            rcases written_of_readCurrencies List.nodup_nil (readHead_eq_ok_iff.mp head) with
              ⟨distinct, _, rfl, written⟩
            rcases foldlM_addSegment_eq_ok_iff.mp body with ⟨rows, divided, admits, rfl⟩
            rw [segments_eq_iff.mp divided] at written
            exact ⟨⟨currencies, distinct, rows, admits.fits, admits.separate⟩, written, rfl⟩
  · intro ⟨table, written, same⟩
    have distinct : ([] ++ table.currencies).Nodup := table.distinct
    rcases readCurrencies_of_written distinct written with ⟨rest, listed, behind⟩
    have body := foldlM_addSegment_eq_ok_iff.mpr
      ⟨table.rows, segments_eq_iff.mpr behind, table.admits, rfl⟩
    rw [ofTokens, readHead_eq_ok_iff.mpr listed]
    dsimp only [bind, Except.bind]
    rw [List.nil_append, body, ← same]
    rfl

theorem ofText_eq_ok_iff {text : String} {configuration : Configuration} :
    ofText text = .ok configuration ↔
      ∃ table : Table, table.IsSpelledBy text ∧ table.configuration = configuration := by
  rw [ofText]
  cases split : Configuration.tokens text with
  | error invalid =>
      constructor
      · intro read
        cases read
      · intro ⟨table, ⟨placed, divided, _⟩, _⟩
        rw [split] at divided
        cases divided
  | ok placed =>
      dsimp only
      rw [ofTokens_eq_ok_iff]
      simp only [Table.IsSpelledBy, split, Except.ok.injEq, exists_eq_left']

/-- What is accepted is exactly what is a table, and exactly its rates are found again. Where a row
stands makes no difference. -/
theorem accepted_text_is_table (text : String) :
    ((∃ configuration, ofText text = .ok configuration) ↔
        ∃ table : Table, table.IsSpelledBy text) ∧
      ∀ table : Table, table.IsSpelledBy text →
        ∃ configuration, ofText text = .ok configuration ∧
          configuration.currencies = table.currencies ∧
          (∀ source target rate, configuration.rates.rate? source target = some rate ↔
            table.Gives source target rate) ∧
          ∀ (other : Table) (otherText : String), other.currencies = table.currencies →
            other.rows.Perm table.rows → other.IsSpelledBy otherText →
              ofText otherText = .ok configuration := by
  constructor
  · constructor
    · intro ⟨configuration, read⟩
      rcases ofText_eq_ok_iff.mp read with ⟨table, spelled, _⟩
      exact ⟨table, spelled⟩
    · intro ⟨table, spelled⟩
      exact ⟨table.configuration, ofText_eq_ok_iff.mpr ⟨table, spelled, rfl⟩⟩
  · intro table spelled
    refine ⟨table.configuration, ofText_eq_ok_iff.mpr ⟨table, spelled, rfl⟩, rfl,
      table.configuration_rate?_eq_some_iff, ?_⟩
    intro other otherText same permuted otherSpelled
    exact ofText_eq_ok_iff.mpr
      ⟨other, otherSpelled, Table.configuration_eq_of_perm same permuted⟩

def sampleTable : Table where
  currencies := ["a", "b"]
  distinct := by decide
  rows := [⟨"a", [Double.ofDigits ['1'] [], Double.ofDigits ['0'] ['2', '5']]⟩,
    ⟨"b", [Double.ofDigits ['4'] [], Double.ofDigits ['1'] []]⟩]
  fits := by
    rw [List.forall_mem_cons, List.forall_mem_singleton]
    exact ⟨⟨by decide, rfl⟩, ⟨by decide, rfl⟩⟩
  separate := by decide

def turnedTable : Table where
  currencies := sampleTable.currencies
  distinct := sampleTable.distinct
  rows := sampleTable.rows.reverse
  fits := fun row member => sampleTable.fits row (List.mem_reverse.mp member)
  separate := by decide

def sampleText : String := "a b; # b\na 1 0.25 b 4 1"

def turnedText : String := "a b; b 4 1 a 1 0.25"

theorem accepted_text_is_table_of_sampleText :
    sampleTable.IsSpelledBy sampleText ∧ turnedTable.IsSpelledBy turnedText ∧
      ∃ configuration, ofText sampleText = .ok configuration ∧
        ofText turnedText = .ok configuration ∧
          configuration.rates.rate? "b" "a" = some (Double.ofDigits ['4'] []) := by
  have spelled : sampleTable.IsSpelledBy sampleText := ⟨_, rfl, rfl⟩
  have turned : turnedTable.IsSpelledBy turnedText := ⟨_, rfl, rfl⟩
  have row : ⟨"b", [Double.ofDigits ['4'] [], Double.ofDigits ['1'] []]⟩ ∈ sampleTable.rows :=
    List.mem_cons_of_mem _ List.mem_cons_self
  rcases (accepted_text_is_table sampleText).2 sampleTable spelled with
    ⟨configuration, read, _, gives, unmoved⟩
  have permuted : turnedTable.rows.Perm sampleTable.rows := List.reverse_perm _
  refine ⟨spelled, turned, configuration, read,
    unmoved turnedTable turnedText rfl permuted turned, ?_⟩
  exact (gives "b" "a" _).mpr ⟨_, row, rfl, 0, rfl, rfl⟩

end Configuration

end Ducat
