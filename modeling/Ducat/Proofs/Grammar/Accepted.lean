import Ducat.Proofs.Grammar.Succession
import Ducat.Proofs.Grammar.Taking.Definition
import Ducat.Run

/-! Main statement: a text that is accepted consists, apart from comments, of exactly the tokens of
the definitions that were read from it. -/

namespace Ducat

namespace Program

section

variable {currencies : List String} {text : String}

theorem ofText_of_placed {lexer : Lexer}
    (placed : Lexer.start currencies text >>= Lexer.toSignificant = .ok lexer) :
    ofText currencies text = (Grammar.program lexer).mapError .grammar := by
  rw [ofText]
  cases first : Lexer.start currencies text with
  | error error =>
      rw [first] at placed
      cases placed
  | ok start =>
      rw [first] at placed
      change start.toSignificant = .ok lexer at placed
      dsimp only
      rw [placed]

theorem ofText_of_fault {error : LexError}
    (failed : Lexer.start currencies text >>= Lexer.toSignificant = .error error) :
    ofText currencies text = .error (.firstToken error) ∨
      ofText currencies text = .error (.grammar (.lexical error)) := by
  rw [ofText]
  cases first : Lexer.start currencies text with
  | error found =>
      rw [first] at failed
      cases failed
      exact .inl rfl
  | ok start =>
      rw [first] at failed
      change start.toSignificant = .error error at failed
      dsimp only
      rw [failed]
      exact .inr rfl

theorem ofText_eq_ok_iff {program : Program} :
    ofText currencies text = .ok program ↔
      ∃ lexer, Lexer.start currencies text >>= Lexer.toSignificant = .ok lexer ∧
        Grammar.program lexer = .ok program := by
  cases placed : Lexer.start currencies text >>= Lexer.toSignificant with
  | error error =>
      have failed : ofText currencies text ≠ .ok program := by
        rcases ofText_of_fault placed with failed | failed <;> simp [failed]
      simp [failed]
  | ok lexer =>
      rw [ofText_of_placed placed]
      constructor
      · intro accepted
        cases read : Grammar.program lexer with
        | error error =>
            rw [read] at accepted
            cases accepted
        | ok found =>
            rw [read] at accepted
            cases accepted
            exact ⟨lexer, rfl, read⟩
      · intro ⟨other, same, read⟩
        cases same
        rw [read]
        rfl

theorem exists_lexer_of_ofText {program : Program}
    (accepted : ofText currencies text = .ok program) :
    ∃ lexer : Lexer, Grammar.program lexer = .ok program ∧
      Grammar.Source.Leaves (TokenList.ofText currencies text).ending lexer
        ((TokenList.ofText currencies text).significant.tokens.map PlacedToken.token) ∧
      ((TokenList.ofText currencies text).significant.tokens.map PlacedToken.token).length <
        Grammar.Source.bound lexer := by
  rcases ofText_eq_ok_iff.mp accepted with ⟨lexer, placed, read⟩
  have stands := Lexer.start_stands currencies text
  rw [placed] at stands
  rcases stands with ⟨leaves, fewer⟩
  rw [← List.length_map PlacedToken.token] at fewer
  exact ⟨lexer, read, leaves, fewer⟩

theorem fits_of_ofText {program : Program} (read : ofText currencies text = .ok program)
    {name : String} {definition : Definition} (found : program.definition? name = some definition) :
    definition.Fits := by
  rcases exists_lexer_of_ofText read with ⟨lexer, accepted, leaves, fewer⟩
  rcases Grammar.listing_of_program leaves fewer accepted with ⟨definitions, listing, fits, _⟩
  exact fits definition ((listing.known name definition).mp found).1

end

/-- Nothing in an accepted text is lost, repeated, moved or passed over. -/
theorem accepted_text_spells_listing {currencies : List String} {text : String}
    {program : Program} (accepted : ofText currencies text = .ok program) :
    ∃ definitions, program.IsListing definitions ∧
      (∀ definition ∈ definitions, definition.Fits) ∧
        (TokenList.ofText currencies text).Spells (definitions.flatMap Definition.tokens) := by
  rcases exists_lexer_of_ofText accepted with ⟨lexer, read, leaves, fewer⟩
  rcases Grammar.listing_of_program leaves fewer read with
    ⟨definitions, listing, fits, written, complete⟩
  exact ⟨definitions, listing, fits, ⟨written, complete⟩⟩

def sampleText : String := "
PLN pick(PLN x, y) \x7b
if (!(x > y)) return -x as PLN; else while (f(1, (2)) + 3 * 4 == 5) \x7b g(); \x7d
\x7d # end
void main() \x7b string s = pick(); \x7d"

theorem accepted_text_spells_listing_of_sampleText :
    ∃ program definitions, ofText ["PLN"] sampleText = .ok program ∧
      program.IsListing definitions ∧ (∀ definition ∈ definitions, definition.Fits) ∧
        (TokenList.ofText ["PLN"] sampleText).Spells (definitions.flatMap Definition.tokens) := by
  cases accepted : ofText ["PLN"] sampleText with
  | error failure =>
      have isOk : (ofText ["PLN"] sampleText).isOk := by decide +kernel
      rw [accepted] at isOk
      cases isOk
  | ok program =>
      rcases accepted_text_spells_listing accepted with ⟨definitions, listing, fits, spells⟩
      exact ⟨program, definitions, rfl, listing, fits, spells⟩

end Program

end Ducat
