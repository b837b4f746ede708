import Ducat.Expression
import Ducat.Grammar.Reading

/-! The rules for expressions, from the operands up to the operators that bind most loosely. The
rule for a whole condition, which stands again inside brackets, is a parameter of the others. -/

namespace Ducat

namespace Grammar

section

variable {σ : Type} [Source σ]

def chainFrom {Operator : Type} (rule : Rule) (operator? : TokenKind → Option Operator)
    (build : Operator → Expression → Expression → Expression)
    (operand : Reading σ (Option Expression)) : Nat → Expression → Reading σ Expression
  | 0, left => return left
  | limit + 1, left => do
      match operator? (← peek).kind with
      | none => return left
      | some operator =>
          let _ ← take
          let right ← required operand (.missingExpression rule)
          chainFrom rule operator? build operand limit (build operator left right)

def chain {Operator : Type} (rule : Rule) (operator? : TokenKind → Option Operator)
    (build : Operator → Expression → Expression → Expression)
    (operand : Reading σ (Option Expression)) (limit : Nat) :
    Reading σ (Option Expression) := do
  match ← operand with
  | none => return none
  | some left => return some (← chainFrom rule operator? build operand limit left)

def sumOperator? : TokenKind → Option ArithmeticOperator
  | .symbol .plus => some .add
  | .symbol .minus => some .subtract
  | _ => none

def productOperator? : TokenKind → Option ArithmeticOperator
  | .symbol .star => some .multiply
  | .symbol .slash => some .divide
  | _ => none

def equalityOperator? : TokenKind → Option ComparisonOperator
  | .symbol .equal => some .equal
  | .symbol .notEqual => some .notEqual
  | _ => none

def orderOperator? : TokenKind → Option ComparisonOperator
  | .symbol .greater => some .greater
  | .symbol .greaterOrEqual => some .greaterOrEqual
  | .symbol .less => some .less
  | .symbol .lessOrEqual => some .lessOrEqual
  | _ => none

def disjunctionOperator? : TokenKind → Option LogicalOperator
  | .symbol .or => some .or
  | _ => none

def conjunctionOperator? : TokenKind → Option LogicalOperator
  | .symbol .and => some .and
  | _ => none

def literal? : Token → Option Literal
  | .int number => some (.int number)
  | .float number => some (.float number)
  | .string content => some (.string content)
  | .keyword .trueWord => some (.bool true)
  | .keyword .falseWord => some (.bool false)
  | _ => none

def arguments (condition : Reading σ (Option Expression)) (limit : Nat) :
    Reading σ (List Expression) := do
  expect .arguments (.symbol .leftBracket)
  let arguments ← separatedItems condition (.missingExpression .arguments) limit
  expect .arguments (.symbol .rightBracket)
  return arguments

def factor (condition : Reading σ (Option Expression)) (limit : Nat) :
    Reading σ (Option Expression) := do
  let next := (← peek).token
  match next with
  | .symbol .leftBracket =>
      let _ ← take
      let inner ← required condition (.missingCondition .factor)
      expect .factor (.symbol .rightBracket)
      return some (.bracketed inner)
  | .name name =>
      let _ ← take
      if (← peek).kind = .symbol .leftBracket then
        return some (.call name (← arguments condition limit))
      else return some (.reference name)
  | _ =>
      match literal? next with
      | some literal =>
          let _ ← take
          return some (.literal literal)
      | none => return none

def negation (condition : Reading σ (Option Expression)) (limit : Nat) :
    Reading σ (Option Expression) := do
  if ← takeIf (.symbol .minus) then
    return some (.negation (← required (factor condition limit) (.missingExpression .negation)))
  else factor condition limit

def castTargets : List TokenKind :=
  [.currency, .keyword .intWord, .keyword .floatWord, .keyword .stringWord, .keyword .boolWord]

def cast (condition : Reading σ (Option Expression)) (limit : Nat) :
    Reading σ (Option Expression) := do
  match ← negation condition limit with
  | none => return none
  | some operand =>
      if ← takeIf (.keyword .asWord) then
        match ← variableType with
        | some target => return some (.cast operand target)
        | none => unexpected .cast castTargets
      else return some operand

def product (condition : Reading σ (Option Expression)) (limit : Nat) :
    Reading σ (Option Expression) :=
  chain .product productOperator? .arithmetic (cast condition limit) limit

def sum (condition : Reading σ (Option Expression)) (limit : Nat) :
    Reading σ (Option Expression) :=
  chain .sum sumOperator? .arithmetic (product condition limit) limit

def negatedCondition (condition : Reading σ (Option Expression)) (limit : Nat) :
    Reading σ (Option Expression) := do
  if ← takeIf (.symbol .not) then
    return some
      (.not (← required (sum condition limit) (.missingExpression .negatedCondition)))
  else sum condition limit

/-- Comparisons of order cannot be chained. -/
def relation (condition : Reading σ (Option Expression)) (limit : Nat) :
    Reading σ (Option Expression) :=
  chain .relation orderOperator? .comparison (negatedCondition condition limit) 1

def comparison (condition : Reading σ (Option Expression)) (limit : Nat) :
    Reading σ (Option Expression) :=
  chain .comparison equalityOperator? .comparison (relation condition limit) 1

def conjunction (condition : Reading σ (Option Expression)) (limit : Nat) :
    Reading σ (Option Expression) :=
  chain .conjunction conjunctionOperator? .logical (comparison condition limit) limit

def disjunction (condition : Reading σ (Option Expression)) (limit : Nat) :
    Reading σ (Option Expression) :=
  chain .condition disjunctionOperator? .logical (conjunction condition limit) limit

/-- A condition whose brackets, arguments and operators are nested and repeated fewer than `limit`
times. The number of tokens left is always limit enough. -/
def condition : Nat → Reading σ (Option Expression)
  | 0 => return none
  | limit + 1 => disjunction (condition limit) limit

end

end Grammar

end Ducat
