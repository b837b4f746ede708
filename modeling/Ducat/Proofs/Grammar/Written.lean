import Ducat.Program
import Ducat.Token

/-! The tokens of which expressions, statements and definitions are made when they are written
out, and the order in which the definitions of a program can be listed. -/

namespace Ducat

namespace Token

def next (tokens : List Token) : Token := tokens.headD .endOfText

@[simp] theorem next_cons (token : Token) (tokens : List Token) :
    next (token :: tokens) = token := rfl

theorem next_append {tokens : List Token} (filled : tokens ≠ []) (rest : List Token) :
    next (tokens ++ rest) = next tokens := by
  cases tokens with
  | nil => exact absurd rfl filled
  | cons token tokens => rfl

def bracketed (tokens : List Token) : List Token :=
  .symbol .leftBracket :: tokens ++ [.symbol .rightBracket]

def braced (tokens : List Token) : List Token :=
  .symbol .leftBrace :: tokens ++ [.symbol .rightBrace]

theorem bracketed_append (tokens rest : List Token) :
    bracketed tokens ++ rest =
      .symbol .leftBracket :: (tokens ++ .symbol .rightBracket :: rest) := by
  simp [bracketed]

theorem braced_append (tokens rest : List Token) :
    braced tokens ++ rest = .symbol .leftBrace :: (tokens ++ .symbol .rightBrace :: rest) := by
  simp [braced]

def behindCommas {α : Type} (tokens : α → List Token) (items : List α) : List Token :=
  items.flatMap fun item => .symbol .comma :: tokens item

def separated {α : Type} (tokens : α → List Token) : List α → List Token
  | [] => []
  | first :: rest => tokens first ++ behindCommas tokens rest

theorem behindCommas_cons {α : Type} (tokens : α → List Token) (first : α) (rest : List α) :
    behindCommas tokens (first :: rest) =
      .symbol .comma :: (tokens first ++ behindCommas tokens rest) := rfl

theorem length_le_behindCommas {α : Type} (tokens : α → List Token) (items : List α) :
    items.length ≤ (behindCommas tokens items).length := by
  induction items with
  | nil => exact Nat.le_refl _
  | cons first rest induction =>
      rw [behindCommas_cons, List.length_cons, List.length_cons, List.length_append]
      omega

theorem length_le_separated {α : Type} (tokens : α → List Token) (items : List α) :
    items.length ≤ (separated tokens items).length + 1 := by
  cases items with
  | nil => exact Nat.zero_le _
  | cons first rest =>
      have others := length_le_behindCommas tokens rest
      rw [separated, List.length_cons, List.length_append]
      omega

theorem subset_bracketed (tokens : List Token) : tokens ⊆ bracketed tokens :=
  fun _ inside => List.mem_append_left _ (List.mem_cons_of_mem _ inside)

theorem subset_braced (tokens : List Token) : tokens ⊆ braced tokens :=
  fun _ inside => List.mem_append_left _ (List.mem_cons_of_mem _ inside)

theorem subset_separated {α : Type} {tokens : α → List Token} {items : List α} {item : α}
    (member : item ∈ items) : tokens item ⊆ separated tokens items := by
  intro token inside
  cases items with
  | nil => cases member
  | cons first rest =>
      rcases List.mem_cons.mp member with rfl | further
      · exact List.mem_append_left _ inside
      · apply List.mem_append_right
        exact List.mem_flatMap.mpr ⟨item, further, List.mem_cons_of_mem _ inside⟩

theorem subset_arguments {α : Type} {tokens : α → List Token} {items : List α} {item : α}
    (member : item ∈ items) : tokens item ⊆ bracketed (separated tokens items) :=
  List.Subset.trans (subset_separated member) (subset_bracketed _)

end Token

namespace ValueType

/-- The token that names the type. Money without a named currency cannot be written. -/
def token? : ValueType → Option Token
  | int => some (.keyword .intWord)
  | float => some (.keyword .floatWord)
  | string => some (.keyword .stringWord)
  | bool => some (.keyword .boolWord)
  | money (some currency) => some (.currency currency)
  | money none => none
  | void => some (.keyword .voidWord)

def tokens (type : ValueType) : List Token := type.token?.toList

def isVariableType : ValueType → Bool
  | money none => false
  | void => false
  | _ => true

theorem exists_of_kind_isVariableType {token : Token} (declares : token.kind.isVariableType) :
    ∃ type : ValueType, token.type? = some type ∧ type.isVariableType ∧ type.tokens = [token] := by
  cases token with
  | keyword word => cases word <;> cases declares <;> exact ⟨_, rfl, rfl, rfl⟩
  | currency id => exact ⟨.money (some id), rfl, rfl, rfl⟩
  | _ => cases declares

theorem exists_of_isVariableType {type : ValueType} (variableType : type.isVariableType) :
    ∃ token : Token, type.tokens = [token] ∧ token.kind.isVariableType ∧
      token.type? = some type := by
  cases type with
  | money currency =>
      cases currency with
      | none => cases variableType
      | some id => exact ⟨.currency id, rfl, rfl, rfl⟩
  | void => cases variableType
  | _ => exact ⟨_, rfl, rfl, rfl⟩

end ValueType

namespace Literal

def token : Literal → Token
  | int number => .int number
  | float number => .float number
  | string content => .string content
  | bool true => .keyword .trueWord
  | bool false => .keyword .falseWord

end Literal

namespace ArithmeticOperator

def symbol : ArithmeticOperator → Symbol
  | add => .plus
  | subtract => .minus
  | multiply => .star
  | divide => .slash

end ArithmeticOperator

namespace ComparisonOperator

def symbol : ComparisonOperator → Symbol
  | equal => .equal
  | notEqual => .notEqual
  | greater => .greater
  | greaterOrEqual => .greaterOrEqual
  | less => .less
  | lessOrEqual => .lessOrEqual

end ComparisonOperator

namespace LogicalOperator

def symbol : LogicalOperator → Symbol
  | or => .or
  | and => .and

end LogicalOperator

namespace Expression

mutual

/-- Only a bracketed expression has brackets around it. -/
def tokens : Expression → List Token
  | .literal constant => [constant.token]
  | .reference name => [.name name]
  | .call function arguments => .name function :: Token.bracketed (argumentTokens arguments)
  | .bracketed inner => Token.bracketed inner.tokens
  | .negation operand => .symbol .minus :: operand.tokens
  | .cast operand target => operand.tokens ++ .keyword .asWord :: target.tokens
  | .arithmetic operator left right => left.tokens ++ .symbol operator.symbol :: right.tokens
  | .comparison operator left right => left.tokens ++ .symbol operator.symbol :: right.tokens
  | .logical operator left right => left.tokens ++ .symbol operator.symbol :: right.tokens
  | .not operand => .symbol .not :: operand.tokens

def argumentTokens : List Expression → List Token
  | [] => []
  | first :: rest => first.tokens ++ furtherArgumentTokens rest

def furtherArgumentTokens : List Expression → List Token
  | [] => []
  | first :: rest => .symbol .comma :: (first.tokens ++ furtherArgumentTokens rest)

end

theorem furtherArgumentTokens_eq (arguments : List Expression) :
    furtherArgumentTokens arguments = Token.behindCommas tokens arguments := by
  induction arguments with
  | nil => rfl
  | cons first rest induction =>
      rw [furtherArgumentTokens, induction, Token.behindCommas_cons]

theorem argumentTokens_eq (arguments : List Expression) :
    argumentTokens arguments = Token.separated tokens arguments := by
  cases arguments with
  | nil => rfl
  | cons first rest => rw [argumentTokens, furtherArgumentTokens_eq, Token.separated]

theorem tokens_ne_nil (expression : Expression) : expression.tokens ≠ [] := by
  cases expression <;> simp [tokens, Token.bracketed]

end Expression

namespace Statement

def assignmentTokens (name : String) (value : Expression) : List Token :=
  .name name :: .symbol .assign :: value.tokens ++ [.symbol .semicolon]

mutual

def tokens : Statement → List Token
  | .assign name value => assignmentTokens name value
  | .declare type name value => type.tokens ++ assignmentTokens name value
  | .leave value =>
      .keyword .returnWord :: value.elim [] Expression.tokens ++ [.symbol .semicolon]
  | .branch condition consequence =>
      .keyword .ifWord :: Token.bracketed condition.tokens ++ consequence.tokens
  | .choice condition consequence alternative =>
      .keyword .ifWord :: Token.bracketed condition.tokens ++ consequence.tokens ++
        .keyword .elseWord :: alternative.tokens
  | .loop condition body =>
      .keyword .whileWord :: Token.bracketed condition.tokens ++
        Token.braced (sequenceTokens body)
  | .call function arguments =>
      .name function :: Token.bracketed (Token.separated Expression.tokens arguments) ++
        [.symbol .semicolon]
  | .block statements => Token.braced (sequenceTokens statements)

def sequenceTokens : List Statement → List Token
  | [] => []
  | first :: rest => first.tokens ++ sequenceTokens rest

end

theorem subset_sequenceTokens {statement : Statement} {statements : List Statement}
    (member : statement ∈ statements) : statement.tokens ⊆ sequenceTokens statements := by
  induction statements with
  | nil => cases member
  | cons first rest induction =>
      intro token inside
      rw [sequenceTokens]
      rcases List.mem_cons.mp member with rfl | further
      · exact List.mem_append_left _ inside
      · exact List.mem_append_right _ (induction further inside)

theorem subset_block {statement : Statement} {statements : List Statement}
    (member : statement ∈ statements) :
    statement.tokens ⊆ Token.braced (sequenceTokens statements) :=
  List.Subset.trans (subset_sequenceTokens member) (Token.subset_braced _)

theorem tokens_ne_nil (statement : Statement) : statement.tokens ≠ [] := by
  cases statement <;> simp [tokens, assignmentTokens, Token.braced]

end Statement

namespace Parameter

def tokens (parameter : Parameter) : List Token :=
  parameter.type.elim [] ValueType.tokens ++ [.name parameter.name]

end Parameter

namespace Definition

def tokens (definition : Definition) : List Token :=
  definition.returnType.tokens ++
    .name definition.name ::
      Token.bracketed (Token.separated Parameter.tokens definition.parameters) ++
    Token.braced (Statement.sequenceTokens definition.body)

theorem tokens_ne_nil (definition : Definition) : definition.tokens ≠ [] := by
  simp [tokens]

end Definition

namespace Program

structure IsListing (program : Program) (definitions : List Definition) : Prop where
  distinct : (definitions.map Definition.name).Nodup
  known : ∀ name definition,
    program.definition? name = some definition ↔
      definition ∈ definitions ∧ definition.name = name

namespace IsListing

variable {program other : Program} {definitions : List Definition}

theorem empty : Program.empty.IsListing [] where
  distinct := List.nodup_nil
  known name definition := by
    have unknown : Program.empty.definition? name = none := by simp [definition?, Program.empty]
    simp [unknown]

theorem unique (first : program.IsListing definitions) (second : other.IsListing definitions) :
    program = other := by
  apply eq_of_definition?_eq
  intro name
  apply Option.ext
  intro definition
  rw [first.known, second.known]

theorem definition?_eq_none_iff (listing : program.IsListing definitions) (name : String) :
    program.definition? name = none ↔ name ∉ definitions.map Definition.name := by
  rw [Option.eq_none_iff_forall_ne_some]
  constructor
  · intro unknown member
    rcases List.mem_map.mp member with ⟨definition, listed, equal⟩
    exact unknown definition ((listing.known name definition).mpr ⟨listed, equal⟩)
  · intro absent definition found
    rcases (listing.known name definition).mp found with ⟨listed, equal⟩
    exact absent (List.mem_map.mpr ⟨definition, listed, equal⟩)

theorem insert (listing : program.IsListing definitions) {definition : Definition}
    (unknown : program.definition? definition.name = none) :
    (program.insert definition).IsListing (definitions ++ [definition]) where
  distinct := by
    have absent := (listing.definition?_eq_none_iff definition.name).mp unknown
    rw [List.map_append, List.map_singleton, List.nodup_append]
    refine ⟨listing.distinct, by simp, ?_⟩
    intro name member other same equal
    rw [equal, List.mem_singleton.mp same] at member
    exact absent member
  known name found := by
    rw [List.mem_append, List.mem_singleton]
    by_cases equal : definition.name = name
    · subst equal
      rw [definition?_insert_self]
      constructor
      · intro same
        cases same
        exact ⟨.inr rfl, rfl⟩
      · intro ⟨member, named⟩
        rcases member with listed | same
        · have known := (listing.known _ _).mpr ⟨listed, named⟩
          rw [unknown] at known
          cases known
        · rw [same]
    · rw [definition?_insert_of_ne program definition equal, listing.known]
      constructor
      · intro ⟨listed, named⟩
        exact ⟨.inl listed, named⟩
      · intro ⟨member, named⟩
        rcases member with listed | same
        · exact ⟨listed, named⟩
        · exact absurd (same ▸ named) equal

end IsListing

end Program

end Ducat
