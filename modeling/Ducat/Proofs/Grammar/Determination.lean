import Ducat.Proofs.Grammar.Lookahead

/-! Main statement: how a text is read is determined by the list of its tokens, with their positions
and the fault with which it perhaps ends. -/

namespace Ducat

namespace Program

variable {currencies others : List String} {text other : String} {error : LexError}

theorem ofText_of_tokens_eq_nil (empty : (TokenList.ofText currencies text).tokens = [])
    (faulty : (TokenList.ofText currencies text).ending = .error error) :
    ofText currencies text = .error (.firstToken error) := by
  have yields := Lexer.start_yields currencies text
  generalize TokenList.ofText currencies text = list at empty faulty yields
  cases start : Lexer.start currencies text with
  | error found =>
      rw [start] at yields
      rw [yields.list_of_error] at faulty
      cases faulty
      rw [ofText, start]
  | ok lexer =>
      rw [start] at yields
      cases yields with
      | finished => cases faulty
      | further => cases empty

theorem ofText_of_significant_eq_nil (filled : (TokenList.ofText currencies text).tokens ≠ [])
    (meaningless : (TokenList.ofText currencies text).significant.tokens = [])
    (faulty : (TokenList.ofText currencies text).ending = .error error) :
    ofText currencies text = .error (.grammar (.lexical error)) := by
  have yields := Lexer.start_yields currencies text
  have lists := Lexer.start_lists currencies text
  cases start : Lexer.start currencies text with
  | error found =>
      rw [start] at yields
      rw [yields.list_of_error] at filled
      exact absurd rfl filled
  | ok lexer =>
      rw [start] at lists
      change Grammar.Source.Lists lexer.toSignificant _ at lists
      rw [ofText, start]
      dsimp only
      cases placed : lexer.toSignificant with
      | ok next =>
          rw [placed] at lists
          exact absurd meaningless (lists.tokens_ne_nil faulty)
      | error found =>
          rw [placed] at lists
          have same : (TokenList.ofText currencies text).ending = .error found :=
            congrArg TokenList.ending lists.of_error
          rw [faulty] at same
          cases same
          rfl

theorem exists_lexer_of_significant (filled :
      (TokenList.ofText currencies text).significant.tokens ≠ []) :
    ∃ lexer, Lexer.start currencies text >>= Lexer.toSignificant = .ok lexer := by
  have lists := Lexer.start_lists currencies text
  cases placed : Lexer.start currencies text >>= Lexer.toSignificant with
  | ok lexer => exact ⟨lexer, rfl⟩
  | error found =>
      rw [placed] at lists
      rw [lists.of_error] at filled
      exact absurd rfl filled

/-- A text is read like every other one that has the same tokens at the same positions and the same
ending. -/
theorem ofText_congr
    (same : TokenList.ofText others other = TokenList.ofText currencies text) :
    ofText others other = ofText currencies text := by
  cases ending : (TokenList.ofText currencies text).ending with
  | ok position =>
      rcases ofText_of_complete ending with ⟨view, found, read⟩
      rw [← same] at ending
      rcases ofText_of_complete ending with ⟨otherView, otherFound, otherRead⟩
      rw [same, found] at otherFound
      cases otherFound
      rw [read, otherRead]
  | error error =>
      have otherEnding : (TokenList.ofText others other).ending = .error error := by
        rw [same, ending]
      by_cases empty : (TokenList.ofText currencies text).tokens = []
      · rw [ofText_of_tokens_eq_nil empty ending,
          ofText_of_tokens_eq_nil (by rw [same, empty]) otherEnding]
      by_cases meaningless : (TokenList.ofText currencies text).significant.tokens = []
      · rw [ofText_of_significant_eq_nil empty meaningless ending,
          ofText_of_significant_eq_nil (by rwa [same]) (by rwa [same]) otherEnding]
      rcases exists_lexer_of_significant meaningless with ⟨lexer, placed⟩
      rw [← same] at meaningless
      rcases exists_lexer_of_significant meaningless with ⟨otherLexer, otherPlaced⟩
      have begins : (TokenList.ofText currencies text).tokens <+:
          (TokenList.ofText others other).tokens := by rw [same]
      have otherBegins : (TokenList.ofText others other).tokens <+:
          (TokenList.ofText currencies text).tokens := by rw [same]
      rcases refused_alike ending placed begins with lexical | ⟨refusal, _, own, alike⟩
      · rcases refused_alike otherEnding otherPlaced otherBegins with
          otherLexical | ⟨refusal, meant, _, alike⟩
        · rw [lexical, otherLexical]
        · rw [lexical] at alike
          cases alike
          cases meant
      · rw [own, alike]

end Program

end Ducat
