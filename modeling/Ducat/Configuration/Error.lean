import Ducat.Configuration.Token

/-! The reasons for which a configuration is refused, and how they are told. -/

namespace Ducat

namespace Configuration

inductive Expectation where
  | currencyOrSemicolon
  | semicolon
  | currencyOrEnd
deriving DecidableEq, Repr

namespace Expectation

def text : Expectation → String
  | currencyOrSemicolon => "currency id or ';'"
  | semicolon => "';'"
  | currencyOrEnd => "currency id or end of input"

end Expectation

inductive Error where
  | missingCurrencies (line : Nat)
  | duplicatedCurrency (id : String)
  | unknownCurrency (id : String)
  | rateCount (id : String) (expected provided : Nat)
  /-- No token is found where the text ends. -/
  | unexpectedToken (expected : Expectation) (found : Option Token) (line : Nat)
  | invalidCharacter (character : Char) (line : Nat)

namespace Error

def foundText : Option Token → String
  | some token => token.text
  | none => "end of input"

def onLine (line : Nat) (text : String) : String := s!"Error on line {line}: {text}"

def message : Error → String
  | missingCurrencies line =>
      onLine line "Missing list of currency ids terminated by ';'."
  | duplicatedCurrency id => s!"Duplicated currency entry for: {id}."
  | unknownCurrency id => s!"Exchange rates provided for undeclared currency {id}."
  | rateCount id expected provided =>
      s!"Wrong number of exchange rates provided for currency {id}. " ++
        s!"Expected: {expected}, Provided: {provided}."
  | unexpectedToken expected found line =>
      onLine line s!"Expected {expected.text}, found {foundText found}."
  | invalidCharacter character line =>
      onLine line s!"Unrecognised token: {character}."

end Error

end Configuration

end Ducat
