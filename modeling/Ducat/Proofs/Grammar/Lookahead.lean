import Mathlib
import Ducat.Proofs.Grammar.Accepted
import Ducat.Proofs.Grammar.Mirroring.Definition

/-! Main statement: a text that is split into tokens while it is read is read in the same way as
the list of all its tokens, and a fault in it is never passed over. -/

namespace Ducat

namespace Program

open Grammar.Source

variable {currencies : List String} {text : String}

/-- Every text that begins with these tokens is refused for this reason, whatever stands behind
them. -/
def Refuses (tokens : List PlacedToken) (refusal : Grammar.Error) : Prop :=
  ∀ currencies text, tokens <+: (TokenList.ofText currencies text).tokens →
    ofText currencies text = .error (.grammar refusal)

theorem ofText_of_complete {position : Position}
    (complete : (TokenList.ofText currencies text).ending = .ok position) :
    ∃ view, (TokenList.ofText currencies text).significant.view? = .ok view ∧
      ofText currencies text = (Grammar.program view).mapError .grammar := by
  have ended : (TokenList.ofText currencies text).significant.ending = .ok position := complete
  have lists := Lexer.start_lists currencies text
  have viewed := TokenList.view?_lists lists.inside
  cases found : (TokenList.ofText currencies text).significant.view? with
  | error error =>
      rw [found] at viewed
      rw [viewed.of_error] at ended
      cases ended
  | ok view =>
      refine ⟨view, rfl, ?_⟩
      rw [found] at viewed
      cases placed : Lexer.start currencies text >>= Lexer.toSignificant with
      | error error =>
          rw [placed] at lists
          rw [lists.of_error] at ended
          cases ended
      | ok lexer =>
          rw [placed] at lists
          have alike := Alike.of_lists lists viewed (List.prefix_refl _) fun _ _ => rfl
          rw [ended] at alike
          rw [ofText_of_placed placed, Grammar.program_eq_of_alike alike
            (Lexer.start_length_lt currencies text placed) (TokenList.length_lt_of_view? found)]

/-- A text with a fault is refused for the fault, or like all texts that begin with its tokens. -/
theorem refused_alike {error : LexError} {lexer : Lexer}
    (faulty : (TokenList.ofText currencies text).ending = .error error)
    (placed : Lexer.start currencies text >>= Lexer.toSignificant = .ok lexer)
    {others : List String} {other : String}
    (begins : (TokenList.ofText currencies text).tokens <+:
      (TokenList.ofText others other).tokens) :
    ofText currencies text = .error (.grammar (.lexical error)) ∨
      ∃ refusal : Grammar.Error, refusal.isLexical = false ∧
        ofText currencies text = .error (.grammar refusal) ∧
          ofText others other = .error (.grammar refusal) := by
  have ended : (TokenList.ofText currencies text).significant.ending = .error error := faulty
  have longer : (TokenList.ofText currencies text).significant.tokens <+:
      (TokenList.ofText others other).significant.tokens := begins.filter _
  have lists := Lexer.start_lists currencies text
  have otherLists := Lexer.start_lists others other
  rw [placed] at lists
  cases otherPlaced : Lexer.start others other >>= Lexer.toSignificant with
  | error found =>
      rw [otherPlaced] at otherLists
      rw [otherLists.of_error] at longer
      exact absurd (List.prefix_nil.mp longer) (lists.tokens_ne_nil ended)
  | ok otherLexer =>
      rw [otherPlaced] at otherLists
      have alike := Alike.of_lists lists otherLists longer (by simp [ended])
      rw [ended] at alike
      have near := Lexer.start_length_lt currencies text placed
      have otherNear := Lexer.start_length_lt others other otherPlaced
      have enough := Nat.lt_of_le_of_lt longer.length_le otherNear
      rw [ofText_of_placed placed, ofText_of_placed otherPlaced]
      rcases Grammar.program_of_fault alike near enough with lexical | refused
      · left
        rw [lexical]
        rfl
      · rcases refused with ⟨refusal, meant, own, same⟩
        right
        rw [own, same]
        exact ⟨refusal, meant, rfl, rfl⟩

theorem ofText_of_faulty {error : LexError}
    (faulty : (TokenList.ofText currencies text).ending = .error error) :
    ofText currencies text = .error (.firstToken error) ∨
      ofText currencies text = .error (.grammar (.lexical error)) ∨
        ∃ refusal : Grammar.Error, refusal.isLexical = false ∧
          Refuses (TokenList.ofText currencies text).tokens refusal := by
  cases placed : Lexer.start currencies text >>= Lexer.toSignificant with
  | error found =>
      have lists := Lexer.start_lists currencies text
      rw [placed] at lists
      have same : (TokenList.ofText currencies text).ending = .error found :=
        congrArg TokenList.ending lists.of_error
      rw [faulty] at same
      cases same
      rcases ofText_of_fault placed with first | later
      · exact .inl first
      · exact .inr (.inl later)
  | ok lexer =>
      right
      rcases refused_alike faulty placed (List.prefix_refl _) with
        lexical | ⟨refusal, meant, own, _⟩
      · exact .inl lexical
      · refine .inr ⟨refusal, meant, ?_⟩
        intro others other begins
        rcases refused_alike faulty placed begins with lexical | ⟨again, _, same, refused⟩
        · rw [own] at lexical
          cases lexical
          cases meant
        · rw [own] at same
          cases same
          exact refused

/-- A text that can be split into tokens up to its end gives what the list of its tokens without
comments gives. One that cannot is never accepted. If it is not refused for its fault, then it is
refused for what stands in front of the fault. -/
theorem text_reads_like_its_tokens (currencies : List String) (text : String) :
    (∀ position, (TokenList.ofText currencies text).ending = .ok position →
        ∃ view, (TokenList.ofText currencies text).significant.view? = .ok view ∧
          ofText currencies text = (Grammar.program view).mapError .grammar) ∧
      ∀ error, (TokenList.ofText currencies text).ending = .error error →
        (∀ program, ofText currencies text ≠ .ok program) ∧
          (ofText currencies text = .error (.firstToken error) ∨
            ofText currencies text = .error (.grammar (.lexical error)) ∨
              ∃ refusal : Grammar.Error, refusal.isLexical = false ∧
                Refuses (TokenList.ofText currencies text).tokens refusal) := by
  constructor
  · intro position complete
    exact ofText_of_complete complete
  · intro error faulty
    have refused := ofText_of_faulty faulty
    refine ⟨?_, refused⟩
    intro program accepted
    rcases refused with first | later | ⟨refusal, _, refuses⟩
    · rw [first] at accepted
      cases accepted
    · rw [later] at accepted
      cases accepted
    · rw [refuses currencies text (List.prefix_refl _)] at accepted
      cases accepted

theorem text_reads_like_its_tokens_of_comment :
    (∃ view, (TokenList.ofText [] "void f() # x\n\x7b\x7d").significant.view? = .ok view ∧
        ofText [] "void f() # x\n\x7b\x7d" = (Grammar.program view).mapError .grammar) ∧
      (TokenList.ofText [] "int int @").ending = .error ⟨.unclassifiable '@', ⟨1, 9⟩⟩ ∧
        ∃ refusal : Grammar.Error, refusal.isLexical = false ∧
          ofText [] "int int @" = .error (.grammar refusal) ∧
            ofText ["f"] "int int f" = .error (.grammar refusal) := by
  have complete : (TokenList.ofText [] "void f() # x\n\x7b\x7d").ending = .ok ⟨2, 3⟩ := by cbv
  have faulty : (TokenList.ofText [] "int int @").ending =
      .error ⟨.unclassifiable '@', ⟨1, 9⟩⟩ := by cbv
  have front : (TokenList.ofText [] "int int @").tokens =
      [⟨.keyword .intWord, ⟨1, 1⟩⟩, ⟨.keyword .intWord, ⟨1, 5⟩⟩] := by cbv
  have whole : (TokenList.ofText ["f"] "int int f").tokens =
      [⟨.keyword .intWord, ⟨1, 1⟩⟩, ⟨.keyword .intWord, ⟨1, 5⟩⟩] ++
        [⟨.currency "f", ⟨1, 9⟩⟩] := by cbv
  have read : ofText [] "int int @" = .error
      (.grammar (.unexpectedToken .function [.name] (.keyword .intWord) ⟨1, 5⟩)) := by cbv
  refine ⟨(text_reads_like_its_tokens _ _).1 _ complete, faulty, ?_⟩
  rcases ((text_reads_like_its_tokens _ _).2 _ faulty).2 with first | later | refused
  · rw [read] at first
    cases first
  · rw [read] at later
    cases later
  · rcases refused with ⟨refusal, meant, refuses⟩
    have begins : (TokenList.ofText [] "int int @").tokens <+:
        (TokenList.ofText ["f"] "int int f").tokens := by
      rw [front, whole]
      exact List.prefix_append _ _
    exact ⟨refusal, meant, refuses _ _ (List.prefix_refl _), refuses _ _ begins⟩

end Program

end Ducat
