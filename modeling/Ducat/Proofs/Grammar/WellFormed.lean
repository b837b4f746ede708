import Ducat.Proofs.Grammar.Accepted
import Ducat.Proofs.Grammar.Occurrences
import Ducat.Proofs.Number.Sign
import Ducat.Proofs.Token.Division

/-! Main statement: a program that is read from a text is well formed. Its names are no reserved
words and no currencies, its types can be used where they stand, its literals are values that can be
written without a sign, and its casts and typed parameters are those of the text. -/

namespace Ducat

section

variable (currencies : List String)

structure IsName (word : String) : Prop where
  isWord : IsWord word.toList
  free : ∀ keyword : Keyword, keyword.spelling ≠ word
  unlisted : word ∉ currencies

inductive ValueType.Declarable : ValueType → Prop where
  | int : Declarable .int
  | float : Declarable .float
  | string : Declarable .string
  | bool : Declarable .bool
  | money {id : String} (listed : id ∈ currencies) : Declarable (.money (some id))

/-- A literal that is not below zero, and no infinite number. -/
inductive Literal.WellFormed : Literal → Prop where
  | int {number : Int64} (unsigned : 0 ≤ number.toInt) : WellFormed (.int number)
  | float {number : Float} {mantissa : Nat} {exponent : Int}
      (finite : Double.ofFloat number = .finite false mantissa exponent) :
      WellFormed (.float number)
  | string (content : String) : WellFormed (.string content)
  | bool (truth : Bool) : WellFormed (.bool truth)

inductive Expression.WellFormed : Expression → Prop where
  | literal {constant : Literal} (constantFormed : constant.WellFormed) :
      WellFormed (.literal constant)
  | reference {name : String} (isName : IsName currencies name) : WellFormed (.reference name)
  | call {function : String} {arguments : List Expression} (isName : IsName currencies function)
      (argumentsFormed : ∀ argument ∈ arguments, WellFormed argument) :
      WellFormed (.call function arguments)
  | bracketed {inner : Expression} (innerFormed : WellFormed inner) : WellFormed (.bracketed inner)
  | negation {operand : Expression} (operandFormed : WellFormed operand) :
      WellFormed (.negation operand)
  | cast {operand : Expression} {target : ValueType} (operandFormed : WellFormed operand)
      (declarable : target.Declarable currencies) : WellFormed (.cast operand target)
  | arithmetic (operator : ArithmeticOperator) {left right : Expression}
      (leftFormed : WellFormed left) (rightFormed : WellFormed right) :
      WellFormed (.arithmetic operator left right)
  | comparison (operator : ComparisonOperator) {left right : Expression}
      (leftFormed : WellFormed left) (rightFormed : WellFormed right) :
      WellFormed (.comparison operator left right)
  | logical (operator : LogicalOperator) {left right : Expression}
      (leftFormed : WellFormed left) (rightFormed : WellFormed right) :
      WellFormed (.logical operator left right)
  | not {operand : Expression} (operandFormed : WellFormed operand) : WellFormed (.not operand)

inductive Statement.WellFormed : Statement → Prop where
  | assign {name : String} {value : Expression} (isName : IsName currencies name)
      (valueFormed : value.WellFormed currencies) : WellFormed (.assign name value)
  | declare {type : ValueType} {name : String} {value : Expression}
      (declarable : type.Declarable currencies) (isName : IsName currencies name)
      (valueFormed : value.WellFormed currencies) : WellFormed (.declare type name value)
  | leave {value : Option Expression}
      (valueFormed : ∀ expression ∈ value, expression.WellFormed currencies) :
      WellFormed (.leave value)
  | branch {condition : Expression} {consequence : Statement}
      (conditionFormed : condition.WellFormed currencies)
      (consequenceFormed : WellFormed consequence) : WellFormed (.branch condition consequence)
  | choice {condition : Expression} {consequence alternative : Statement}
      (conditionFormed : condition.WellFormed currencies)
      (consequenceFormed : WellFormed consequence) (alternativeFormed : WellFormed alternative) :
      WellFormed (.choice condition consequence alternative)
  | loop {condition : Expression} {body : List Statement}
      (conditionFormed : condition.WellFormed currencies)
      (bodyFormed : ∀ statement ∈ body, WellFormed statement) : WellFormed (.loop condition body)
  | call {function : String} {arguments : List Expression} (isName : IsName currencies function)
      (argumentsFormed : ∀ argument ∈ arguments, argument.WellFormed currencies) :
      WellFormed (.call function arguments)
  | block {statements : List Statement}
      (statementsFormed : ∀ statement ∈ statements, WellFormed statement) :
      WellFormed (.block statements)

structure Parameter.WellFormed (parameter : Parameter) : Prop where
  type : ∀ type ∈ parameter.type, type.Declarable currencies
  isName : IsName currencies parameter.name

/-- A function that returns nothing has a type of its own for that. -/
structure Definition.WellFormed (definition : Definition) : Prop where
  returnType : definition.returnType = .void ∨ definition.returnType.Declarable currencies
  isName : IsName currencies definition.name
  parameters : ∀ parameter ∈ definition.parameters, parameter.WellFormed currencies
  distinct : (definition.parameters.map Parameter.name).Nodup
  body : ∀ statement ∈ definition.body, statement.WellFormed currencies

def Program.WellFormed (program : Program) : Prop :=
  ∀ name definition, program.definition? name = some definition →
    definition.name = name ∧ definition.WellFormed currencies

def Token.Writable (tokens : List Token) : Prop :=
  ∀ token ∈ tokens, ∃ characters, token.WrittenAs currencies characters

end

variable {currencies : List String}

namespace Token.Writable

variable {tokens : List Token}

theorem of_subset (writable : Writable currencies tokens) {others : List Token}
    (subset : others ⊆ tokens) : Writable currencies others :=
  fun token member => writable token (subset member)

theorem before {first second : List Token} {between : Token}
    (writable : Writable currencies (first ++ between :: second)) : Writable currencies first :=
  writable.of_subset (List.subset_append_left ..)

theorem behind {first second : List Token} {between : Token}
    (writable : Writable currencies (first ++ between :: second)) : Writable currencies second :=
  writable.of_subset (List.subset_append_of_subset_right _ (List.subset_cons_self ..))

theorem isName (writable : Writable currencies tokens) {word : String}
    (member : .name word ∈ tokens) : IsName currencies word := by
  rcases writable _ member with ⟨characters, written⟩
  cases written with
  | name isWord free unlisted => exact ⟨isWord, free, unlisted⟩

theorem declarable (writable : Writable currencies tokens) {type : ValueType}
    (variableType : type.isVariableType) (subset : type.tokens ⊆ tokens) :
    type.Declarable currencies := by
  cases type with
  | int => exact .int
  | float => exact .float
  | string => exact .string
  | bool => exact .bool
  | void => cases variableType
  | money currency =>
      cases currency with
      | none => cases variableType
      | some id =>
          rcases writable _ (subset (List.mem_singleton_self _)) with ⟨characters, written⟩
          cases written with
          | currency _ _ listed => exact .money listed

theorem literal (writable : Writable currencies tokens) {constant : Literal}
    (member : constant.token ∈ tokens) : constant.WellFormed := by
  rcases writable _ member with ⟨characters, written⟩
  cases constant with
  | int number =>
      cases written with
      | int _ value => exact .int (value ▸ Int.natCast_nonneg _)
  | float number =>
      cases written with
      | float _ _ value finite =>
          rw [value] at finite ⊢
          rcases Double.exists_of_nearest_isFinite finite with ⟨mantissa, exponent, positive⟩
          exact .float positive
  | string content => exact .string content
  | bool truth => exact .bool truth

end Token.Writable

section

open Token

theorem Expression.Fits.wellFormed {level : Expression.Level} {expression : Expression}
    (fits : expression.Fits level) (writable : Writable currencies expression.tokens) :
    expression.WellFormed currencies := by
  induction fits with
  | literal constant => exact .literal (writable.literal (List.mem_singleton_self _))
  | reference name => exact .reference (writable.isName (List.mem_singleton_self _))
  | call function _ induction =>
      rw [Expression.tokens, Expression.argumentTokens_eq] at writable
      apply WellFormed.call (writable.isName (List.mem_cons_self ..))
      intro argument member
      apply induction argument member
      exact writable.of_subset (List.subset_cons_of_subset _ (subset_arguments member))
  | bracketed _ induction =>
      exact .bracketed (induction (writable.of_subset (subset_bracketed _)))
  | negation _ induction =>
      exact .negation (induction (writable.of_subset (List.subset_cons_self ..)))
  | cast _ variableType induction =>
      apply WellFormed.cast
      · exact induction writable.before
      · apply writable.declarable variableType
        simp [Expression.tokens]
  | arithmetic _ _ left right =>
      exact .arithmetic _ (left writable.before) (right writable.behind)
  | comparison _ _ left right =>
      exact .comparison _ (left writable.before) (right writable.behind)
  | logical _ _ left right =>
      exact .logical _ (left writable.before) (right writable.behind)
  | not _ induction => exact .not (induction (writable.of_subset (List.subset_cons_self ..)))
  | loosen _ induction => exact induction writable

theorem Statement.Fits.wellFormed {statement : Statement} (fits : statement.Fits)
    (writable : Writable currencies statement.tokens) : statement.WellFormed currencies := by
  induction fits with
  | assign name fits =>
      apply WellFormed.assign
      · exact writable.isName (by simp [Statement.tokens, Statement.assignmentTokens])
      · apply fits.wellFormed
        exact writable.of_subset fun _ inside => by
          simp [Statement.tokens, Statement.assignmentTokens, inside]
  | declare name variableType fits =>
      apply WellFormed.declare
      · exact writable.declarable variableType (by simp [Statement.tokens])
      · exact writable.isName (by simp [Statement.tokens, Statement.assignmentTokens])
      · apply fits.wellFormed
        exact writable.of_subset fun _ inside => by
          simp [Statement.tokens, Statement.assignmentTokens, inside]
  | leave fits =>
      apply WellFormed.leave
      intro expression member
      apply (fits expression member).wellFormed
      cases member
      exact writable.of_subset fun _ inside => by simp [Statement.tokens, inside]
  | branch conditionFits _ induction =>
      apply WellFormed.branch
      · apply conditionFits.wellFormed
        exact writable.of_subset fun _ inside => by simp [Statement.tokens, bracketed, inside]
      · apply induction
        exact writable.of_subset fun _ inside => by simp [Statement.tokens, inside]
  | choice conditionFits _ _ _ consequence alternative =>
      apply WellFormed.choice
      · apply conditionFits.wellFormed
        exact writable.of_subset fun _ inside => by simp [Statement.tokens, bracketed, inside]
      · apply consequence
        exact writable.of_subset fun _ inside => by simp [Statement.tokens, inside]
      · apply alternative
        exact writable.of_subset fun _ inside => by simp [Statement.tokens, inside]
  | loop conditionFits _ induction =>
      apply WellFormed.loop
      · apply conditionFits.wellFormed
        exact writable.of_subset fun _ inside => by simp [Statement.tokens, bracketed, inside]
      · intro statement member
        apply induction statement member
        apply writable.of_subset
        rw [Statement.tokens]
        exact List.subset_append_of_subset_right _ (subset_block member)
  | call function fits =>
      apply WellFormed.call
      · exact writable.isName (by simp [Statement.tokens])
      · intro argument member
        apply (fits argument member).wellFormed
        apply writable.of_subset
        rw [Statement.tokens]
        apply List.subset_append_of_subset_left
        exact List.subset_cons_of_subset _ (subset_arguments member)
  | block _ induction =>
      apply WellFormed.block
      intro statement member
      apply induction statement member
      exact writable.of_subset (subset_block member)

theorem Parameter.Fits.wellFormed {parameter : Parameter} (fits : parameter.Fits)
    (writable : Writable currencies parameter.tokens) : parameter.WellFormed currencies := by
  constructor
  · intro type given
    apply writable.declarable (fits type given)
    rw [Parameter.tokens, Option.mem_def.mp given]
    exact List.subset_append_left ..
  · exact writable.isName (by simp [Parameter.tokens])

theorem Definition.Fits.wellFormed {definition : Definition} (fits : definition.Fits)
    (writable : Writable currencies definition.tokens) : definition.WellFormed currencies := by
  constructor
  · have subset : definition.returnType.tokens ⊆ definition.tokens :=
      fun _ inside => by simp [Definition.tokens, inside]
    cases variableType : definition.returnType.isVariableType with
    | true => exact .inr (writable.declarable variableType subset)
    | false =>
        have writable := fits.returnType
        cases type : definition.returnType with
        | void => exact .inl rfl
        | money currency =>
            rw [type] at variableType writable
            cases currency with
            | none => cases writable
            | some id => cases variableType
        | _ =>
            rw [type] at variableType
            cases variableType
  · exact writable.isName (by simp [Definition.tokens])
  · intro parameter member
    apply (fits.parameters parameter member).wellFormed
    apply writable.of_subset
    rw [Definition.tokens]
    apply List.subset_append_of_subset_left
    apply List.subset_append_of_subset_right
    exact List.subset_cons_of_subset _ (subset_arguments member)
  · exact fits.distinct
  · intro statement member
    apply (fits.body statement member).wellFormed
    apply writable.of_subset
    rw [Definition.tokens]
    exact List.subset_append_of_subset_right _ (Statement.subset_block member)

end

namespace Program

/-- The tokens of an accepted text are those of well-formed definitions, and no type that the text
gives to a parameter or to the target of a cast has been lost. -/
theorem accepted_program_wellFormed {text : String} {program : Program}
    (accepted : ofText currencies text = .ok program) :
    program.WellFormed currencies ∧ ∃ definitions, program.IsListing definitions ∧
      Token.castTargets ((TokenList.ofText currencies text).significant.tokens.map
          PlacedToken.token) =
        (definitions.flatMap Definition.casts).flatMap ValueType.tokens ∧
      Token.typedParameters ((TokenList.ofText currencies text).significant.tokens.map
          PlacedToken.token) =
        (definitions.flatMap Definition.parameters).filter fun parameter =>
          parameter.type.isSome := by
  rcases exists_lexer_of_ofText accepted with ⟨lexer, read, leaves, fewer⟩
  rcases Grammar.listing_of_program leaves fewer read with
    ⟨definitions, listing, fits, written, _⟩
  constructor
  · intro name definition found
    rcases (listing.known name definition).mp found with ⟨member, named⟩
    have writable : Token.Writable currencies definition.tokens := by
      intro token inside
      have spelled := List.mem_flatMap.mpr ⟨definition, member, inside⟩
      rw [← written] at spelled
      rcases List.mem_map.mp spelled with ⟨placed, kept, rfl⟩
      exact TokenList.exists_writtenAs_of_mem_ofText (List.mem_filter.mp kept).1
    exact ⟨named, (fits definition member).wellFormed writable⟩
  · refine ⟨definitions, listing, ?_, ?_⟩
    · rw [written]
      exact castTargets_definitions fits
    · rw [written]
      exact typedParameters_definitions fits

theorem accepted_program_wellFormed_of_sampleText :
    ∃ program definitions, ofText ["PLN"] sampleText = .ok program ∧ program.WellFormed ["PLN"] ∧
      program.IsListing definitions ∧
      ((definitions.flatMap Definition.parameters).filter fun parameter =>
        parameter.type.isSome) = [⟨some (.money (some "PLN")), "x"⟩] := by
  cases accepted : ofText ["PLN"] sampleText with
  | error failure =>
      have isOk : (ofText ["PLN"] sampleText).isOk := by decide +kernel
      rw [accepted] at isOk
      cases isOk
  | ok program =>
      rcases accepted_program_wellFormed accepted with
        ⟨wellFormed, definitions, listing, _, typed⟩
      have shown : Token.typedParameters
          ((TokenList.ofText ["PLN"] sampleText).significant.tokens.map PlacedToken.token) =
            [⟨some (.money (some "PLN")), "x"⟩] := by decide +kernel
      exact ⟨program, definitions, rfl, wellFormed, listing, typed.symm.trans shown⟩

end Program

end Ducat
