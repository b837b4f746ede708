import Ducat.Grammar.Error
import Ducat.Proofs.Grammar.Shape

/-! The sequences of tokens that the grammar allows, and what an error says about the first token
that was not consumed. -/

namespace Ducat

namespace Definition

/-- What the grammar asks of a definition, whatever the names of its parameters. -/
structure Shaped (definition : Definition) : Prop where
  returnType : definition.returnType.token?.isSome
  parameters : ∀ parameter ∈ definition.parameters, parameter.Fits
  body : ∀ statement ∈ definition.body, statement.Fits

theorem Fits.shaped {definition : Definition} (fits : definition.Fits) : definition.Shaped :=
  ⟨fits.returnType, fits.parameters, fits.body⟩

end Definition

namespace Grammar

/-- The tokens of definitions up to the end of the text. Names may be defined twice. -/
def Derivable (tokens : List Token) : Prop :=
  ∃ definitions : List Definition, (∀ definition ∈ definitions, definition.Shaped) ∧
    tokens = definitions.flatMap Definition.tokens ++ [.endOfText]

/-- The grammar allows some continuation of the tokens. -/
def Viable (front : List Token) : Prop := ∃ behind, Derivable (front ++ behind)

theorem Derivable.viable {tokens : List Token} (derivable : Derivable tokens) : Viable tokens :=
  ⟨[], by rwa [List.append_nil]⟩

theorem Viable.of_append {front : List Token} (behind : List Token)
    (viable : Viable (front ++ behind)) : Viable front := by
  rcases viable with ⟨further, derivable⟩
  rw [List.append_assoc] at derivable
  exact ⟨behind ++ further, derivable⟩

def Admits (front : List Token) (level : Expression.Level) : Prop :=
  ∀ expression : Expression, expression.Fits level → Viable (front ++ expression.tokens)

namespace Admits

variable {front : List Token} {level : Expression.Level}

theorem tighter (admits : Admits front level) : Admits front level.tighter :=
  fun expression fits => admits expression (.loosen fits)

theorem viable (admits : Admits front level) : Viable front := by
  have fits : Expression.Fits level (.reference "") :=
    (Expression.Fits.reference "").widen (Nat.zero_le _)
  exact .of_append _ (admits _ fits)

end Admits

namespace Error

def isSyntactic : Error → Bool
  | unexpectedToken .. => true
  | missingBlock .. => true
  | missingFunctionBlock .. => true
  | missingCondition .. => true
  | missingExpression .. => true
  | missingParameter .. => true
  | missingInstruction .. => true
  | lexical _ => false
  | duplicateFunction .. => false
  | duplicateParameter .. => false

/-- The error names the place and the kind of the wrong token. What was consumed can be continued,
namely with each of the kinds that were expected. -/
def PointsAt (consumed : List Token) (wrong : PlacedToken) : Error → Prop
  | unexpectedToken _ expected found position =>
      found = wrong.kind ∧ position = wrong.position ∧ found ∉ expected ∧
        ∀ token : Token, token.kind ∈ expected → Viable (consumed ++ [token])
  | missingBlock _ position => position = wrong.position ∧ Viable consumed
  | missingFunctionBlock _ position => position = wrong.position ∧ Viable consumed
  | missingCondition _ position => position = wrong.position ∧ Viable consumed
  | missingExpression _ position => position = wrong.position ∧ Viable consumed
  | missingParameter position => position = wrong.position ∧ Viable consumed
  | missingInstruction _ position => position = wrong.position ∧ Viable consumed
  | lexical _ => True
  | duplicateFunction .. => True
  | duplicateParameter .. => True

end Error

end Grammar

end Ducat
