import Ducat.Configuration.Error
import Ducat.Rates

/-! A configuration: the currencies that a program may use, and the exchange rates between
them. Its text lists the currencies, then a semicolon, then a row for each currency that has
rates, with one rate for each listed currency in order. -/

namespace Ducat

structure Configuration where
  /-- In the order in which they are listed. -/
  currencies : List String
  rates : Rates

namespace Configuration

def readCurrencies (known : List String) (line : Nat) :
    List PlacedToken → Except Error (List String × List PlacedToken)
  | [] => .error (.unexpectedToken .semicolon none line)
  | ⟨.semicolon, _⟩ :: rest => .ok (known, rest)
  | ⟨.currency id, line⟩ :: rest =>
      if id ∈ known then .error (.duplicatedCurrency id)
      else readCurrencies (known ++ [id]) line rest
  | ⟨.rate value, line⟩ :: _ =>
      .error (.unexpectedToken .currencyOrSemicolon (some (.rate value)) line)

def readHead : List PlacedToken → Except Error (List String × List PlacedToken)
  | [] => .error (.missingCurrencies 1)
  | ⟨.rate _, line⟩ :: _ => .error (.missingCurrencies line)
  | tokens => readCurrencies [] 1 tokens

inductive Segment where
  | row (currency : String) (rates : List Float)
  | stray (token : Token) (line : Nat)

def segmentsBehindRates : List PlacedToken → List Float × List Segment
  | [] => ([], [])
  | ⟨.rate value, _⟩ :: rest =>
      let (rates, segments) := segmentsBehindRates rest
      (value :: rates, segments)
  | ⟨.currency id, _⟩ :: rest =>
      let (rates, segments) := segmentsBehindRates rest
      ([], .row id rates :: segments)
  | ⟨.semicolon, line⟩ :: rest =>
      let (_, segments) := segmentsBehindRates rest
      ([], .stray .semicolon line :: segments)

/-- Divides tokens into rows. Rates without a currency before them are stray. -/
def segments (tokens : List PlacedToken) : List Segment :=
  let (_, segments) := segmentsBehindRates tokens
  match tokens with
  | ⟨.rate value, line⟩ :: _ => .stray (.rate value) line :: segments
  | _ => segments

def addSegment (currencies : List String) (rates : Rates) :
    Segment → Except Error Rates
  | .stray token line => .error (.unexpectedToken .currencyOrEnd (some token) line)
  | .row id row =>
      if row.length ≠ currencies.length then
        .error (.rateCount id currencies.length row.length)
      else if rates.hasRow id then .error (.duplicatedCurrency id)
      else if id ∉ currencies then .error (.unknownCurrency id)
      else .ok (rates.insertRow id (currencies.zip row))

def ofTokens (tokens : List PlacedToken) : Except Error Configuration := do
  let (currencies, rest) ← readHead tokens
  let rates ← (segments rest).foldlM (addSegment currencies) Rates.empty
  return ⟨currencies, rates⟩

/-- Reads a configuration. An invalid character is reported before anything else. -/
def ofText (text : String) : Except Error Configuration :=
  match tokens text with
  | .error invalid => .error (.invalidCharacter invalid.character invalid.line)
  | .ok tokens => ofTokens tokens

end Configuration

end Ducat
