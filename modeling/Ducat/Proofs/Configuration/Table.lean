import Ducat.Configuration

/-! Tables of exchange rates as they are written out, and the configurations that hold them. Main
statements: which rate a configuration gives from one currency to another, and that the order of
the rows does not matter. -/

namespace Ducat

namespace Configuration

/-- A currency, and its rates to the listed currencies in their order. -/
structure Row where
  currency : String
  rates : List Float

structure Row.Fits (currencies : List String) (row : Row) : Prop where
  listed : row.currency ∈ currencies
  complete : row.rates.length = currencies.length

/-- Rows that may be entered into rates one after another. -/
structure Admits (currencies : List String) (rates : Rates) (rows : List Row) : Prop where
  fits : ∀ row ∈ rows, row.Fits currencies
  separate : (rows.map Row.currency).Nodup
  fresh : ∀ row ∈ rows, rates.hasRow row.currency = false

structure Table where
  currencies : List String
  distinct : currencies.Nodup
  rows : List Row
  fits : ∀ row ∈ rows, row.Fits currencies
  separate : (rows.map Row.currency).Nodup

def Row.enter (currencies : List String) (rates : Rates) (row : Row) : Rates :=
  rates.insertRow row.currency (currencies.zip row.rates)

namespace Table

/-- What the table says in its row for `source` and its column for `target`. -/
def Gives (table : Table) (source target : String) (rate : Float) : Prop :=
  ∃ row ∈ table.rows, row.currency = source ∧
    ∃ place : Nat, table.currencies[place]? = some target ∧ row.rates[place]? = some rate

def configuration (table : Table) : Configuration where
  currencies := table.currencies
  rates := table.rows.foldl (Row.enter table.currencies) Rates.empty

end Table

end Configuration

namespace Rates

theorem hasRow_eq_isSome (rates : Rates) (source : String) :
    rates.hasRow source = rates.rows[source]?.isSome :=
  Std.ExtTreeMap.contains_eq_isSome_getElem?

theorem rows_insertRow (rates : Rates) (source other : String) (row : List (String × Float)) :
    (rates.insertRow source row).rows[other]? =
      if source = other then some (.ofList row) else rates.rows[other]? := by
  rw [insertRow, Std.ExtTreeMap.getElem?_insert]
  simp only [Std.LawfulEqCmp.compare_eq_iff_eq]

theorem hasRow_insertRow (rates : Rates) (source other : String) (row : List (String × Float)) :
    (rates.insertRow source row).hasRow other = (source == other || rates.hasRow other) := by
  rw [hasRow_eq_isSome, hasRow_eq_isSome, rows_insertRow]
  by_cases same : source = other
  · rw [if_pos same, beq_iff_eq.mpr same]
    rfl
  · rw [if_neg same, beq_eq_false_iff_ne.mpr same]
    rfl

theorem getElem?_ofList_zip {currencies : List String} (distinct : currencies.Nodup)
    {rates : List Float} (complete : rates.length = currencies.length) (target : String)
    (rate : Float) :
    (Std.ExtTreeMap.ofList (currencies.zip rates))[target]? = some rate ↔
      ∃ place : Nat, currencies[place]? = some target ∧ rates[place]? = some rate := by
  have names : (currencies.zip rates).map Prod.fst = currencies :=
    List.map_fst_zip (Nat.le_of_eq complete.symm)
  have columns : (currencies.zip rates).Pairwise fun one other =>
      ¬compare one.1 other.1 = .eq := by
    rw [List.Nodup, ← names, List.pairwise_map] at distinct
    exact distinct.imp fun different same => different (Std.LawfulEqCmp.eq_of_compare same)
  have entry (found : Float) : (target, found) ∈ currencies.zip rates ↔
      ∃ place : Nat, currencies[place]? = some target ∧ rates[place]? = some found := by
    rw [List.mem_iff_getElem?]
    exact exists_congr fun place => List.getElem?_zip_eq_some
  rw [← entry]
  constructor
  · intro found
    cases known : ((currencies.zip rates).map Prod.fst).contains target with
    | false =>
        rw [Std.ExtTreeMap.getElem?_ofList_of_contains_eq_false known] at found
        cases found
    | true =>
        rcases List.mem_map.mp (List.contains_iff_mem.mp known) with ⟨⟨name, value⟩, member, rfl⟩
        rw [Std.ExtTreeMap.getElem?_ofList_of_mem Std.ReflCmp.compare_self columns member] at found
        cases found
        exact member
  · exact Std.ExtTreeMap.getElem?_ofList_of_mem Std.ReflCmp.compare_self columns

end Rates

namespace Configuration

theorem admits_nil (currencies : List String) (rates : Rates) : Admits currencies rates [] where
  fits := List.forall_mem_nil _
  separate := List.nodup_nil
  fresh := List.forall_mem_nil _

theorem admits_cons {currencies : List String} {rates : Rates} {row : Row} {rows : List Row} :
    Admits currencies rates (row :: rows) ↔
      (row.Fits currencies ∧ rates.hasRow row.currency = false) ∧
        Admits currencies (row.enter currencies rates) rows := by
  constructor
  · intro ⟨fits, separate, fresh⟩
    rw [List.forall_mem_cons] at fits fresh
    rw [List.map_cons, List.nodup_cons] at separate
    refine ⟨⟨fits.1, fresh.1⟩, fits.2, separate.2, ?_⟩
    intro other member
    rw [Row.enter, Rates.hasRow_insertRow, fresh.2 other member, Bool.or_false,
      beq_eq_false_iff_ne]
    exact fun same => separate.1 (same ▸ List.mem_map_of_mem member)
  · intro ⟨⟨rowFits, new⟩, fits, separate, fresh⟩
    have different : ∀ other ∈ rows, row.currency ≠ other.currency ∧
        rates.hasRow other.currency = false := by
      intro other member
      have apart := fresh other member
      rwa [Row.enter, Rates.hasRow_insertRow, Bool.or_eq_false_iff, beq_eq_false_iff_ne] at apart
    refine ⟨List.forall_mem_cons.mpr ⟨rowFits, fits⟩, ?_,
      List.forall_mem_cons.mpr ⟨new, fun other member => (different other member).2⟩⟩
    rw [List.map_cons, List.nodup_cons]
    refine ⟨fun repeated => ?_, separate⟩
    rcases List.mem_map.mp repeated with ⟨other, member, same⟩
    exact (different other member).1 same.symm

/-- Rows that are entered are found again, and what was there before is found as before. -/
theorem rows_foldl_enter {currencies : List String} {rates : Rates} {rows : List Row}
    (admits : Admits currencies rates rows) (source : String)
    (columns : Std.ExtTreeMap String Float) :
    (rows.foldl (Row.enter currencies) rates).rows[source]? = some columns ↔
      rates.rows[source]? = some columns ∨
        ∃ row ∈ rows, row.currency = source ∧ .ofList (currencies.zip row.rates) = columns := by
  induction rows generalizing rates with
  | nil => simp
  | cons row rows hypothesis =>
      rcases admits_cons.mp admits with ⟨⟨_, new⟩, later⟩
      rw [List.foldl_cons, hypothesis later, Row.enter, Rates.rows_insertRow]
      simp only [List.mem_cons, or_and_right, exists_or, exists_eq_left]
      rw [← or_assoc]
      refine or_congr_left ?_
      by_cases same : row.currency = source
      · have absent : rates.rows[source]? = none := by
          rw [← Option.not_isSome_iff_eq_none, ← Rates.hasRow_eq_isSome, ← same, new]
          exact Bool.false_ne_true
        simp [same, absent]
      · simp [same]

namespace Table

theorem admits (table : Table) : Admits table.currencies Rates.empty table.rows where
  fits := table.fits
  separate := table.separate
  fresh := fun _ _ => rfl

theorem rows_configuration (table : Table) (source : String)
    (columns : Std.ExtTreeMap String Float) :
    table.configuration.rates.rows[source]? = some columns ↔
      ∃ row ∈ table.rows, row.currency = source ∧
        .ofList (table.currencies.zip row.rates) = columns := by
  have empty : Rates.empty.rows[source]? = none := rfl
  rw [configuration, rows_foldl_enter table.admits, empty]
  simp

theorem configuration_rate?_eq_some_iff (table : Table) (source target : String) (rate : Float) :
    table.configuration.rates.rate? source target = some rate ↔
      table.Gives source target rate := by
  rw [Rates.rate?, Option.bind_eq_some_iff, Gives]
  constructor
  · intro ⟨columns, found, listed⟩
    rcases (table.rows_configuration source columns).mp found with ⟨row, member, heads, rfl⟩
    have complete := (table.fits row member).complete
    exact ⟨row, member, heads, (Rates.getElem?_ofList_zip table.distinct complete _ _).mp listed⟩
  · intro ⟨row, member, heads, listed⟩
    have complete := (table.fits row member).complete
    exact ⟨_, (table.rows_configuration source _).mpr ⟨row, member, heads, rfl⟩,
      (Rates.getElem?_ofList_zip table.distinct complete _ _).mpr listed⟩

theorem configuration_eq_of_perm {table other : Table}
    (same : other.currencies = table.currencies) (permuted : other.rows.Perm table.rows) :
    other.configuration = table.configuration := by
  have rows : other.configuration.rates.rows = table.configuration.rates.rows := by
    apply Std.ExtTreeMap.ext_getElem?
    intro source
    apply Option.ext
    intro columns
    rw [rows_configuration, rows_configuration, same]
    simp only [permuted.mem_iff]
  have rates : other.configuration.rates = table.configuration.rates :=
    congrArg Rates.mk rows
  rw [configuration, configuration, Configuration.mk.injEq]
  exact ⟨same, rates⟩

end Table

end Configuration

end Ducat
