import Ducat.Token.Lexeme

/-! The reasons for which a program text is refused, and how they are told. -/

namespace Ducat

namespace Grammar

inductive Rule where
  | program
  | function
  | parameter
  | block
  | assignmentOrCall
  | assignment
  | declaration
  | consequence
  | alternative
  | loop
  | bracketedCondition
  | condition
  | conjunction
  | comparison
  | relation
  | negatedCondition
  | sum
  | product
  | cast
  | negation
  | factor
  | arguments
deriving DecidableEq, Repr

namespace Rule

def label : Rule → String
  | program => "parse_program"
  | function => "parse_function"
  | parameter => "parse_parameter"
  | block => "parse_block"
  | assignmentOrCall => "parse_assign_or_function_call"
  | assignment => "parse_assign_instruction"
  | declaration => "parse_init_instruction"
  | consequence => "parse_if_statement"
  | alternative => "parse_else_branch"
  | loop => "parse_while_statement"
  | bracketedCondition => "parse_condition_in_parentheses"
  | condition => "parse_condition"
  | conjunction => "parse_and_condition"
  | comparison => "parse_comparison"
  | relation => "parse_relational"
  | negatedCondition => "parse_not_condition"
  | sum => "parse_expression"
  | product => "parse_mul_expression"
  | cast => "parse_cast"
  | negation => "parse_negated_factor"
  | factor => "parse_factor"
  | arguments => "parse_function_call_arguments"

end Rule

inductive Error where
  | lexical (error : LexError)
  | unexpectedToken (rule : Rule) (expected : List TokenKind) (found : TokenKind)
      (position : Position)
  | missingBlock (rule : Rule) (position : Position)
  | missingFunctionBlock (name : String) (position : Position)
  | missingCondition (rule : Rule) (position : Position)
  | missingExpression (rule : Rule) (position : Position)
  | missingParameter (position : Position)
  | missingInstruction (rule : Rule) (position : Position)
  | duplicateFunction (name : String) (position : Position)
  | duplicateParameter (function parameter : String)
deriving DecidableEq, Repr

namespace Error

def atPosition (position : Position) (text : String) : String :=
  s!"Error at {position.text}: {text}"

def missing (thing : String) (rule : Rule) (position : Position) : String :=
  atPosition position s!"Missing {thing} while performing {rule.label}."

def message : Error → String
  | lexical error => error.message
  | unexpectedToken rule expected found position =>
      let labels := String.intercalate ", " (expected.map TokenKind.label)
      atPosition position
        (s!"Unexpected token found while performing {rule.label}. " ++
          s!"Expected: [{labels}]; Found: {found.label}.")
  | missingBlock rule position => missing "block" rule position
  | missingFunctionBlock name position =>
      atPosition position s!"Missing function block for function: {name}."
  | missingCondition rule position => missing "condition" rule position
  | missingExpression rule position => missing "expression" rule position
  | missingParameter position =>
      atPosition position "Missing function parameter after ','."
  | missingInstruction rule position => missing "instruction" rule position
  | duplicateFunction name position =>
      atPosition position s!"Duplicate definition of function: {name}."
  | duplicateParameter function parameter =>
      s!"Duplicate parameter identifier '{parameter}' in the definition of function: " ++
        s!"{function}."

end Error

end Grammar

end Ducat
