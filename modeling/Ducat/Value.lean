import Ducat.Number.DecimalText
import Ducat.ValueType

/-! What expressions stand for when a program runs. -/

namespace Ducat

structure Money where
  amount : Decimal
  currency : String
deriving DecidableEq, Repr

namespace Money

def text (money : Money) : String := money.amount.text ++ " " ++ money.currency

def withAmount (money : Money) (amount : Decimal) : Money := { money with amount }

end Money

inductive Value where
  | int (number : Int64)
  | float (number : Float)
  | string (characters : String)
  | bool (truth : Bool)
  | money (money : Money)

namespace Value

def type : Value → ValueType
  | int _ => .int
  | float _ => .float
  | string _ => .string
  | bool _ => .bool
  | money amount => .money (some amount.currency)

def text : Value → String
  | int number => Integer.text number
  | float number => Double.textWithPoint number
  | string characters => characters
  | bool truth => if truth then "true" else "false"
  | money amount => amount.text

def description (value : Value) : String :=
  "'" ++ value.text ++ "' (" ++ value.type.text ++ ")"

def sameKind : Value → Value → Bool
  | int _, int _ => true
  | float _, float _ => true
  | string _, string _ => true
  | bool _, bool _ => true
  | money _, money _ => true
  | _, _ => false

end Value

namespace ValueType

def accepts (type : ValueType) (value : Value) : Bool := type == value.type

end ValueType

end Ducat
