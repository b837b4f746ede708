import Std.Data.ExtTreeMap

/-! Exchange rates between currencies. -/

namespace Ducat

/-- For each currency that has a row, its rates to other currencies. Rows and rates have no order,
so that equal tables are equal values. -/
structure Rates where
  rows : Std.ExtTreeMap String (Std.ExtTreeMap String Float)

namespace Rates

def empty : Rates := ⟨∅⟩

def hasRow (rates : Rates) (source : String) : Bool := rates.rows.contains source

def insertRow (rates : Rates) (source : String) (row : List (String × Float)) : Rates :=
  ⟨rates.rows.insert source (.ofList row)⟩

def rate? (rates : Rates) (source target : String) : Option Float :=
  rates.rows[source]?.bind (·[target]?)

end Rates

end Ducat
