import Ducat.Text.Position
import Ducat.Token.Keyword
import Ducat.Token.Symbol
import Ducat.ValueType

/-! The tokens of a program text. -/

namespace Ducat

inductive Token where
  | int (number : Int64)
  | float (number : Float)
  | string (content : String)
  /-- A word that is neither reserved nor a currency. -/
  | name (word : String)
  | currency (id : String)
  | keyword (keyword : Keyword)
  | symbol (symbol : Symbol)
  /-- A comment, without the character that begins it. -/
  | comment (content : String)
  | endOfText

inductive TokenKind where
  | int
  | float
  | string
  | name
  | currency
  | keyword (keyword : Keyword)
  | symbol (symbol : Symbol)
  | comment
  | endOfText
deriving DecidableEq, Repr

structure PlacedToken where
  token : Token
  /-- Where the token begins. -/
  position : Position

namespace TokenKind

def label : TokenKind → String
  | int => "INT_VAL"
  | float => "FLOAT_VAL"
  | string => "STRING_VAL"
  | name => "IDENTIFIER"
  | currency => "CURRENCY_ID"
  | keyword word => word.label
  | symbol mark => mark.label
  | comment => "COMMENT"
  | endOfText => "ETX"

def isVariableType : TokenKind → Bool
  | keyword .intWord => true
  | keyword .floatWord => true
  | keyword .stringWord => true
  | keyword .boolWord => true
  | currency => true
  | _ => false

/-- The type that every token of this kind names. A currency is named only by its token. -/
def type? : TokenKind → Option ValueType
  | keyword .intWord => some .int
  | keyword .floatWord => some .float
  | keyword .stringWord => some .string
  | keyword .boolWord => some .bool
  | keyword .voidWord => some .void
  | _ => none

end TokenKind

namespace Token

def kind : Token → TokenKind
  | int _ => .int
  | float _ => .float
  | string _ => .string
  | name _ => .name
  | currency _ => .currency
  | keyword word => .keyword word
  | symbol mark => .symbol mark
  | comment _ => .comment
  | endOfText => .endOfText

def type? : Token → Option ValueType
  | currency id => some (.money (some id))
  | token => token.kind.type?

end Token

namespace PlacedToken

def kind (placed : PlacedToken) : TokenKind := placed.token.kind

end PlacedToken

end Ducat
