import Ducat.Proofs.Grammar.Shape

/-! What is written out holds neither comments nor the end of a text. -/

namespace Ducat

namespace Token

def isWritten : Token → Bool
  | comment _ => false
  | endOfText => false
  | _ => true

theorem all_isWritten_bracketed (tokens : List Token) :
    (bracketed tokens).all isWritten = tokens.all isWritten := by
  simp [bracketed, isWritten]

theorem all_isWritten_braced (tokens : List Token) :
    (braced tokens).all isWritten = tokens.all isWritten := by
  simp [braced, isWritten]

theorem all_isWritten_separated {α : Type} {tokens : α → List Token} {items : List α}
    (written : ∀ item ∈ items, (tokens item).all isWritten) :
    (separated tokens items).all isWritten := by
  cases items with
  | nil => rfl
  | cons first rest =>
      rw [List.forall_mem_cons] at written
      rw [separated, List.all_append, written.1, Bool.true_and, behindCommas, List.all_flatMap,
        List.all_eq_true]
      intro item listed
      exact written.2 item listed

end Token

namespace ValueType

theorem all_isWritten_tokens (type : ValueType) : type.tokens.all Token.isWritten := by
  cases type with
  | money currency => cases currency <;> rfl
  | _ => rfl

end ValueType

namespace Expression

theorem Fits.all_isWritten {level : Level} {expression : Expression}
    (fits : expression.Fits level) : expression.tokens.all Token.isWritten := by
  induction fits with
  | literal constant =>
      cases constant with
      | bool truth => cases truth <;> rfl
      | _ => rfl
  | reference => rfl
  | call function _ induction =>
      rw [tokens, List.all_cons, Token.all_isWritten_bracketed, argumentTokens_eq,
        Token.all_isWritten_separated induction]
      rfl
  | bracketed _ induction =>
      rw [tokens, Token.all_isWritten_bracketed]
      exact induction
  | negation _ induction =>
      rw [tokens, List.all_cons, induction]
      rfl
  | cast _ _ induction =>
      rw [tokens, List.all_append, List.all_cons, induction, ValueType.all_isWritten_tokens]
      rfl
  | arithmetic _ _ left right =>
      rw [tokens, List.all_append, List.all_cons, left, right]
      rfl
  | comparison _ _ left right =>
      rw [tokens, List.all_append, List.all_cons, left, right]
      rfl
  | logical _ _ left right =>
      rw [tokens, List.all_append, List.all_cons, left, right]
      rfl
  | not _ induction =>
      rw [tokens, List.all_cons, induction]
      rfl
  | loosen _ induction => exact induction

end Expression

namespace Statement

theorem all_isWritten_assignmentTokens {name : String} {value : Expression}
    (fits : value.Fits .disjunction) : (assignmentTokens name value).all Token.isWritten := by
  rw [assignmentTokens, List.all_append, List.all_cons, List.all_cons, fits.all_isWritten]
  rfl

theorem all_isWritten_sequenceTokens {statements : List Statement}
    (written : ∀ statement ∈ statements, statement.tokens.all Token.isWritten) :
    (sequenceTokens statements).all Token.isWritten := by
  induction statements with
  | nil => rfl
  | cons first rest induction =>
      rw [List.forall_mem_cons] at written
      rw [sequenceTokens, List.all_append, written.1, induction written.2]
      rfl

theorem Fits.all_isWritten {statement : Statement} (fits : statement.Fits) :
    statement.tokens.all Token.isWritten := by
  induction fits with
  | assign name fits => exact all_isWritten_assignmentTokens fits
  | declare name _ fits =>
      rw [tokens, List.all_append, ValueType.all_isWritten_tokens,
        all_isWritten_assignmentTokens fits]
      rfl
  | @leave value fits =>
      cases value with
      | none => rfl
      | some value =>
          rw [tokens, Option.elim_some, List.all_append, List.all_cons,
            (fits value rfl).all_isWritten]
          rfl
  | branch testFits _ induction =>
      rw [tokens, List.all_append, List.all_cons, Token.all_isWritten_bracketed,
        testFits.all_isWritten, induction]
      rfl
  | choice testFits _ _ _ consequence alternative =>
      rw [tokens, List.all_append, List.all_append, List.all_cons, List.all_cons,
        Token.all_isWritten_bracketed, testFits.all_isWritten, consequence, alternative]
      rfl
  | loop testFits _ induction =>
      rw [tokens, List.all_append, List.all_cons, Token.all_isWritten_bracketed,
        testFits.all_isWritten, Token.all_isWritten_braced, all_isWritten_sequenceTokens induction]
      rfl
  | call function fits =>
      rw [tokens, List.all_append, List.all_cons, Token.all_isWritten_bracketed,
        Token.all_isWritten_separated fun argument listed => (fits argument listed).all_isWritten]
      rfl
  | block _ induction =>
      rw [tokens, Token.all_isWritten_braced]
      exact all_isWritten_sequenceTokens induction

end Statement

namespace Definition

theorem Fits.all_isWritten {definition : Definition} (fits : definition.Fits) :
    definition.tokens.all Token.isWritten := by
  have parametersWritten : ∀ parameter ∈ definition.parameters,
      parameter.tokens.all Token.isWritten := by
    intro parameter _
    rcases parameter with ⟨type, name⟩
    cases type with
    | none => rfl
    | some type =>
        rw [Parameter.tokens, Option.elim_some, List.all_append, ValueType.all_isWritten_tokens]
        rfl
  rw [tokens, List.all_append, List.all_append, List.all_cons, ValueType.all_isWritten_tokens,
    Token.all_isWritten_bracketed, Token.all_isWritten_separated parametersWritten,
    Token.all_isWritten_braced, Statement.all_isWritten_sequenceTokens fun statement listed =>
      (fits.body statement listed).all_isWritten]
  rfl

end Definition

end Ducat
