import Ducat.Proofs.Grammar.Shape

/-! The casts and the typed parameters of definitions are those that can be found in their tokens by
a look at a few tokens at a time. -/

namespace Ducat

namespace Token

/-- What is found in a sequence of tokens, from its first place to its last, when `look` tells of
each place what begins there. -/
def occurrences {α : Type} (look : List Token → Option α) : List Token → List α
  | [] => []
  | token :: rest => (look (token :: rest)).toList ++ occurrences look rest

theorem occurrences_cons_of_none {α : Type} {look : List Token → Option α} {token : Token}
    {rest : List Token} (nothing : look (token :: rest) = none) :
    occurrences look (token :: rest) = occurrences look rest := by
  rw [occurrences, nothing]
  rfl

def castTarget? : List Token → Option Token
  | .keyword .asWord :: target :: _ => some target
  | _ => none

/-- A type and a name, and behind them the end of a parameter. Behind the names of variables and
functions something else stands where these are introduced. -/
def typedParameter? : List Token → Option Parameter
  | type :: .name word :: .symbol mark :: _ =>
      if type.kind.isVariableType ∧ (mark = .comma ∨ mark = .rightBracket) then
        some ⟨type.type?, word⟩
      else none
  | _ => none

def castTargets (tokens : List Token) : List Token := occurrences castTarget? tokens

def typedParameters (tokens : List Token) : List Parameter := occurrences typedParameter? tokens

end Token

namespace Expression

mutual

def casts : Expression → List ValueType
  | .literal _ => []
  | .reference _ => []
  | .call _ arguments => castsOfAll arguments
  | .bracketed inner => inner.casts
  | .negation operand => operand.casts
  | .cast operand target => operand.casts ++ [target]
  | .arithmetic _ left right => left.casts ++ right.casts
  | .comparison _ left right => left.casts ++ right.casts
  | .logical _ left right => left.casts ++ right.casts
  | .not operand => operand.casts

def castsOfAll : List Expression → List ValueType
  | [] => []
  | first :: rest => first.casts ++ castsOfAll rest

end

theorem castsOfAll_eq (arguments : List Expression) :
    castsOfAll arguments = arguments.flatMap casts := by
  induction arguments with
  | nil => rfl
  | cons first rest induction => rw [castsOfAll, induction, List.flatMap_cons]

end Expression

namespace Statement

mutual

def casts : Statement → List ValueType
  | .assign _ value => value.casts
  | .declare _ _ value => value.casts
  | .leave value => value.elim [] Expression.casts
  | .branch condition consequence => condition.casts ++ consequence.casts
  | .choice condition consequence alternative =>
      condition.casts ++ consequence.casts ++ alternative.casts
  | .loop condition body => condition.casts ++ castsOfSequence body
  | .call _ arguments => Expression.castsOfAll arguments
  | .block statements => castsOfSequence statements

def castsOfSequence : List Statement → List ValueType
  | [] => []
  | first :: rest => first.casts ++ castsOfSequence rest

end

end Statement

namespace Definition

def casts (definition : Definition) : List ValueType := Statement.castsOfSequence definition.body

end Definition

namespace Token

def NoName (tokens : List Token) : Prop := ∀ name, next tokens ≠ .name name

theorem noName_symbol (mark : Symbol) (rest : List Token) : NoName (.symbol mark :: rest) := by
  intro name equal
  cases equal

theorem noName_keyword (keyword : Keyword) (rest : List Token) :
    NoName (.keyword keyword :: rest) := by
  intro name equal
  cases equal

theorem ne_as_of_isVariableType {token : Token} (declares : token.kind.isVariableType) :
    token ≠ .keyword .asWord := by
  rintro rfl
  cases declares

structure Finds {α : Type} (look : List Token → Option α) (atCast : ValueType → List α)
    (atParameter : Parameter → List α) : Prop where
  elsewhere : ∀ token rest, token ≠ .keyword .asWord → token.kind.isVariableType = false →
    look (token :: rest) = none
  cast : ∀ (type : ValueType) rest, type.isVariableType → NoName rest →
    occurrences look (.keyword .asWord :: (type.tokens ++ rest)) =
      atCast type ++ occurrences look rest
  introduced : ∀ type word mark rest, type ≠ .keyword .asWord → mark ≠ .comma →
    mark ≠ .rightBracket → look (type :: .name word :: .symbol mark :: rest) = none
  parameter : ∀ (parameter : Parameter) mark rest, parameter.Fits →
    mark = .comma ∨ mark = .rightBracket →
    occurrences look (parameter.tokens ++ .symbol mark :: rest) =
      atParameter parameter ++ occurrences look (.symbol mark :: rest)

section

variable {α : Type} {look : List Token → Option α} {atCast : ValueType → List α}
  {atParameter : Parameter → List α}

namespace Finds

theorem skip (finds : Finds look atCast atParameter) {token : Token} (rest : List Token)
    (noCast : token ≠ .keyword .asWord) (noType : token.kind.isVariableType = false) :
    occurrences look (token :: rest) = occurrences look rest :=
  occurrences_cons_of_none (finds.elsewhere token rest noCast noType)

theorem symbol (finds : Finds look atCast atParameter) (mark : Symbol) (rest : List Token) :
    occurrences look (.symbol mark :: rest) = occurrences look rest :=
  finds.skip rest (by simp) rfl

theorem name (finds : Finds look atCast atParameter) (name : String) (rest : List Token) :
    occurrences look (.name name :: rest) = occurrences look rest :=
  finds.skip rest (by simp) rfl

theorem literal (finds : Finds look atCast atParameter) (constant : Literal) (rest : List Token) :
    occurrences look (constant.token :: rest) = occurrences look rest := by
  cases constant with
  | bool truth => cases truth <;> exact finds.skip rest (by simp [Literal.token]) rfl
  | _ => exact finds.skip rest (by simp [Literal.token]) rfl

/-- `found` is found in the tokens of an item, wherever the item can stand in brackets. -/
def FindsIn {β : Type} (look : List Token → Option α) (tokens : β → List Token)
    (found : β → List α) (item : β) : Prop :=
  ∀ mark rest, mark = .comma ∨ mark = .rightBracket →
    occurrences look (tokens item ++ .symbol mark :: rest) =
      found item ++ occurrences look (.symbol mark :: rest)

theorem behindCommas (finds : Finds look atCast atParameter) {β : Type}
    {tokens : β → List Token} {found : β → List α} {items : List β}
    (each : ∀ item ∈ items, FindsIn look tokens found item) (rest : List Token) :
    occurrences look (Token.behindCommas tokens items ++ .symbol .rightBracket :: rest) =
      items.flatMap found ++ occurrences look rest := by
  induction items with
  | nil => exact finds.symbol .rightBracket rest
  | cons first others induction =>
      rw [List.forall_mem_cons] at each
      have behind := induction each.2
      rw [behindCommas_cons, List.cons_append, finds.symbol, List.append_assoc, List.flatMap_cons,
        List.append_assoc, ← behind]
      cases others with
      | nil => exact each.1 _ _ (.inr rfl)
      | cons second further => exact each.1 _ _ (.inl rfl)

theorem arguments (finds : Finds look atCast atParameter) {β : Type} {tokens : β → List Token}
    {found : β → List α} {items : List β} (each : ∀ item ∈ items, FindsIn look tokens found item)
    (rest : List Token) :
    occurrences look (bracketed (separated tokens items) ++ rest) =
      items.flatMap found ++ occurrences look rest := by
  rw [bracketed_append, finds.symbol]
  cases items with
  | nil => exact finds.symbol .rightBracket rest
  | cons first others =>
      rw [List.forall_mem_cons] at each
      rw [separated, List.append_assoc, List.flatMap_cons, List.append_assoc,
        ← finds.behindCommas each.2]
      cases others with
      | nil => exact each.1 _ _ (.inr rfl)
      | cons second further => exact each.1 _ _ (.inl rfl)

theorem joined (finds : Finds look atCast atParameter) {left right : Expression}
    {rest : List Token} (mark : Symbol)
    (inLeft : ∀ {rest}, NoName rest → occurrences look (left.tokens ++ rest) =
      left.casts.flatMap atCast ++ occurrences look rest)
    (inRight : occurrences look (right.tokens ++ rest) =
      right.casts.flatMap atCast ++ occurrences look rest) :
    occurrences look (left.tokens ++ .symbol mark :: right.tokens ++ rest) =
      (left.casts ++ right.casts).flatMap atCast ++ occurrences look rest := by
  rw [List.append_assoc, List.cons_append, inLeft (noName_symbol _ _), finds.symbol, inRight,
    List.flatMap_append, List.append_assoc]

/-- What is found in the tokens of an expression does not depend on what comes behind it, unless
that is a name. -/
theorem expression (finds : Finds look atCast atParameter) {level : Expression.Level}
    {expression : Expression} (fits : expression.Fits level) {rest : List Token}
    (noName : NoName rest) :
    occurrences look (expression.tokens ++ rest) =
      expression.casts.flatMap atCast ++ occurrences look rest := by
  induction fits generalizing rest with
  | literal constant => exact finds.literal constant rest
  | reference word => exact finds.name word rest
  | @call function arguments _ induction =>
      have each : ∀ argument ∈ arguments, FindsIn look Expression.tokens
          (fun argument => argument.casts.flatMap atCast) argument :=
        fun argument member mark rest _ => induction argument member (noName_symbol mark rest)
      rw [Expression.tokens, List.cons_append, finds.name, Expression.argumentTokens_eq,
        finds.arguments each, Expression.casts, Expression.castsOfAll_eq, List.flatMap_assoc]
  | bracketed _ induction =>
      rw [Expression.tokens, bracketed_append, finds.symbol, induction (noName_symbol _ _),
        finds.symbol]
      rfl
  | negation _ induction =>
      rw [Expression.tokens, List.cons_append, finds.symbol, induction noName]
      rfl
  | cast _ variableType induction =>
      rw [Expression.tokens, List.append_assoc, List.cons_append, induction (noName_keyword _ _),
        finds.cast _ _ variableType noName, Expression.casts, List.flatMap_append,
        List.flatMap_singleton, List.append_assoc]
  | arithmetic _ _ inLeft inRight => exact finds.joined _ inLeft (inRight noName)
  | comparison _ _ inLeft inRight => exact finds.joined _ inLeft (inRight noName)
  | logical _ _ inLeft inRight => exact finds.joined _ inLeft (inRight noName)
  | not _ induction =>
      rw [Expression.tokens, List.cons_append, finds.symbol, induction noName]
      rfl
  | loosen _ induction => exact induction noName

theorem sequence (finds : Finds look atCast atParameter) {statements : List Statement}
    (each : ∀ statement ∈ statements, ∀ rest, occurrences look (statement.tokens ++ rest) =
      statement.casts.flatMap atCast ++ occurrences look rest) (rest : List Token) :
    occurrences look (braced (Statement.sequenceTokens statements) ++ rest) =
      (Statement.castsOfSequence statements).flatMap atCast ++ occurrences look rest := by
  rw [braced_append, finds.symbol]
  induction statements with
  | nil => exact finds.symbol .rightBrace rest
  | cons first others induction =>
      rw [List.forall_mem_cons] at each
      rw [Statement.sequenceTokens, Statement.castsOfSequence, List.append_assoc, each.1,
        induction each.2, List.flatMap_append, List.append_assoc]

theorem closed (finds : Finds look atCast atParameter) {expression : Expression}
    (fits : expression.Fits .disjunction) (mark : Symbol) (rest : List Token) :
    occurrences look (expression.tokens ++ .symbol mark :: rest) =
      expression.casts.flatMap atCast ++ occurrences look rest := by
  rw [finds.expression fits (noName_symbol mark rest), finds.symbol]

theorem condition (finds : Finds look atCast atParameter) {condition : Expression}
    (fits : condition.Fits .disjunction) (rest : List Token) :
    occurrences look (bracketed condition.tokens ++ rest) =
      condition.casts.flatMap atCast ++ occurrences look rest := by
  rw [bracketed_append, finds.symbol, finds.closed fits]

theorem assignment (finds : Finds look atCast atParameter) {value : Expression}
    (fits : value.Fits .disjunction) (word : String) (rest : List Token) :
    occurrences look (Statement.assignmentTokens word value ++ rest) =
      value.casts.flatMap atCast ++ occurrences look rest := by
  rw [Statement.assignmentTokens]
  simp only [List.cons_append, List.append_assoc, List.nil_append]
  rw [finds.name, finds.symbol, finds.closed fits]

theorem statement (finds : Finds look atCast atParameter) {statement : Statement}
    (fits : statement.Fits) (rest : List Token) :
    occurrences look (statement.tokens ++ rest) =
      statement.casts.flatMap atCast ++ occurrences look rest := by
  induction fits generalizing rest with
  | assign word fits => exact finds.assignment fits word rest
  | @declare type word value variableType fits =>
      rcases ValueType.exists_of_isVariableType variableType with ⟨token, written, declares, _⟩
      have nothing : look (token :: (Statement.assignmentTokens word value ++ rest)) = none :=
        finds.introduced _ _ _ _ (ne_as_of_isVariableType declares) (by decide) (by decide)
      rw [Statement.tokens, written, List.singleton_append, List.cons_append,
        occurrences_cons_of_none nothing]
      exact finds.assignment fits word rest
  | @leave value fits =>
      rw [Statement.tokens, List.append_assoc, List.cons_append,
        finds.skip _ (by simp) rfl]
      cases value with
      | none => exact finds.symbol .semicolon rest
      | some expression => exact finds.closed (fits _ rfl) .semicolon rest
  | branch conditionFits _ induction =>
      rw [Statement.tokens, List.append_assoc, List.cons_append, finds.skip _ (by simp) rfl,
        finds.condition conditionFits, induction, Statement.casts, List.flatMap_append,
        List.append_assoc]
  | choice conditionFits _ _ _ consequence alternative =>
      rw [Statement.tokens, List.append_assoc, List.append_assoc, List.cons_append,
        finds.skip _ (by simp) rfl, finds.condition conditionFits, consequence, List.cons_append,
        finds.skip _ (by simp) rfl, alternative, Statement.casts, List.flatMap_append,
        List.flatMap_append, List.append_assoc, List.append_assoc]
  | loop conditionFits _ induction =>
      rw [Statement.tokens, List.append_assoc, List.cons_append, finds.skip _ (by simp) rfl,
        finds.condition conditionFits, finds.sequence induction, Statement.casts,
        List.flatMap_append, List.append_assoc]
  | @call function arguments fits =>
      have each : ∀ argument ∈ arguments, FindsIn look Expression.tokens
          (fun argument => argument.casts.flatMap atCast) argument :=
        fun argument member mark rest _ =>
          finds.expression (fits argument member) (noName_symbol mark rest)
      rw [Statement.tokens, List.append_assoc, List.cons_append, finds.name, finds.arguments each,
        List.singleton_append, finds.symbol, Statement.casts, Expression.castsOfAll_eq,
        List.flatMap_assoc]
  | block _ induction =>
      rw [Statement.tokens, finds.sequence induction, Statement.casts]

theorem returnType (finds : Finds look atCast atParameter) {type : ValueType}
    (writable : type.token?.isSome) (function : String) (rest : List Token) :
    occurrences look (type.tokens ++ .name function :: .symbol .leftBracket :: rest) =
      occurrences look (.name function :: .symbol .leftBracket :: rest) := by
  rcases Option.isSome_iff_exists.mp writable with ⟨token, written⟩
  have noCast : token ≠ .keyword .asWord := by
    rintro rfl
    cases type with
    | money currency => cases currency <;> cases written
    | _ => cases written
  rw [ValueType.tokens, written]
  exact occurrences_cons_of_none (finds.introduced _ _ _ _ noCast (by decide) (by decide))

theorem definition (finds : Finds look atCast atParameter) {definition : Definition}
    (fits : definition.Fits) (rest : List Token) :
    occurrences look (definition.tokens ++ rest) =
      definition.parameters.flatMap atParameter ++ definition.casts.flatMap atCast ++
        occurrences look rest := by
  have each : ∀ parameter ∈ definition.parameters,
      FindsIn look Parameter.tokens atParameter parameter :=
    fun parameter member mark rest =>
      finds.parameter parameter mark rest (fits.parameters parameter member)
  rw [Definition.tokens, List.append_assoc, List.append_assoc, List.cons_append, bracketed_append,
    finds.returnType fits.returnType, finds.name, ← bracketed_append, finds.arguments each,
    finds.sequence (fun statement member => finds.statement (fits.body statement member)),
    List.append_assoc]
  rfl

theorem definitions (finds : Finds look atCast atParameter) {definitions : List Definition}
    (fits : ∀ definition ∈ definitions, definition.Fits) :
    occurrences look (definitions.flatMap Definition.tokens) =
      definitions.flatMap fun definition =>
        definition.parameters.flatMap atParameter ++ definition.casts.flatMap atCast := by
  induction definitions with
  | nil => rfl
  | cons first rest induction =>
      rw [List.forall_mem_cons] at fits
      rw [List.flatMap_cons, finds.definition fits.1, induction fits.2, List.flatMap_cons]

end Finds

end

theorem castTarget?_eq_none {token : Token} (noCast : token ≠ .keyword .asWord)
    (rest : List Token) : castTarget? (token :: rest) = none := by
  unfold castTarget?
  split
  next equal => exact absurd (List.cons.inj equal).1 noCast
  next => rfl

theorem castTarget?_finds : Finds castTarget? ValueType.tokens fun _ => [] where
  elsewhere token rest noCast _ := castTarget?_eq_none noCast rest
  cast type rest variableType _ := by
    rcases ValueType.exists_of_isVariableType variableType with ⟨token, written, declares, _⟩
    rw [written, List.singleton_append, occurrences,
      occurrences_cons_of_none (castTarget?_eq_none (ne_as_of_isVariableType declares) rest)]
    rfl
  introduced type word mark rest noCast _ _ := castTarget?_eq_none noCast _
  parameter parameter mark rest fits _ := by
    rcases parameter with ⟨_ | type, word⟩
    · rfl
    · rcases ValueType.exists_of_isVariableType (fits type rfl) with ⟨token, written, declares, _⟩
      rw [Parameter.tokens, Option.elim_some, written]
      exact occurrences_cons_of_none (castTarget?_eq_none (ne_as_of_isVariableType declares) _)

theorem typedParameter?_eq_none {token : Token} (noType : token.kind.isVariableType = false)
    (rest : List Token) : typedParameter? (token :: rest) = none := by
  unfold typedParameter?
  split
  next equal =>
    cases equal
    simp [noType]
  next => rfl

theorem typedParameter?_finds :
    Finds typedParameter? (fun _ => [])
      fun parameter => [parameter].filter fun parameter => parameter.type.isSome where
  elsewhere token rest _ noType := typedParameter?_eq_none noType rest
  cast type rest variableType noName := by
    rcases ValueType.exists_of_isVariableType variableType with ⟨token, written, _⟩
    have nothing : typedParameter? (token :: rest) = none := by
      unfold typedParameter?
      split
      next equal =>
        cases equal
        exact absurd rfl (noName _)
      next => rfl
    rw [written, List.singleton_append, occurrences_cons_of_none (typedParameter?_eq_none rfl _),
      occurrences_cons_of_none nothing]
    rfl
  introduced type word mark rest _ noComma noBracket := by
    simp [typedParameter?, noComma, noBracket]
  parameter parameter mark rest fits ends := by
    rcases parameter with ⟨_ | type, word⟩
    · rfl
    · rcases ValueType.exists_of_isVariableType (fits type rfl) with
        ⟨token, written, declares, found⟩
      have here : typedParameter? (token :: .name word :: .symbol mark :: rest) =
          some ⟨some type, word⟩ := by
        simp [typedParameter?, declares, ends, found]
      rw [Parameter.tokens, Option.elim_some, written]
      change occurrences _ (token :: .name word :: .symbol mark :: rest) = _
      rw [occurrences, here, occurrences_cons_of_none (typedParameter?_eq_none rfl _)]
      rfl

end Token

theorem castTargets_definitions {definitions : List Definition}
    (fits : ∀ definition ∈ definitions, definition.Fits) :
    Token.castTargets (definitions.flatMap Definition.tokens) =
      (definitions.flatMap Definition.casts).flatMap ValueType.tokens := by
  have none : ∀ definition : Definition,
      (definition.parameters.flatMap fun _ => ([] : List Token)) = [] := by simp
  rw [Token.castTargets, Token.castTarget?_finds.definitions fits, List.flatMap_assoc]
  simp only [none, List.nil_append]

theorem typedParameters_definitions {definitions : List Definition}
    (fits : ∀ definition ∈ definitions, definition.Fits) :
    Token.typedParameters (definitions.flatMap Definition.tokens) =
      (definitions.flatMap Definition.parameters).filter fun parameter =>
        parameter.type.isSome := by
  have none : ∀ definition : Definition,
      (definition.casts.flatMap fun _ => ([] : List Parameter)) = [] := by simp
  rw [Token.typedParameters, Token.typedParameter?_finds.definitions fits, List.filter_flatMap]
  simp only [none, List.append_nil, ← List.filter_flatMap, List.flatMap_singleton']

end Ducat
