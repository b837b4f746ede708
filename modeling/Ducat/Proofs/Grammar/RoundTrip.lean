import Ducat.Proofs.Grammar.Accepted
import Ducat.Proofs.Grammar.Giving.Definition
import Ducat.Proofs.Token.Spelling

/-! Main statement: definitions that are written out, in any order, are read again as the program
to which they belong. -/

namespace Ducat

namespace Program

variable {currencies : List String} {program : Program} {definitions : List Definition}

theorem exists_lexer_of_spells {text : String} {tokens : List Token}
    (spells : (TokenList.ofText currencies text).Spells tokens) :
    ∃ (lexer : Lexer) (position : Position),
      Lexer.start currencies text >>= Lexer.toSignificant = .ok lexer ∧
        Grammar.Source.Leaves (.ok position) lexer tokens ∧
        tokens.length < Grammar.Source.bound lexer := by
  rcases spells with ⟨significant, position, complete⟩
  have stands := Lexer.start_stands currencies text
  cases placed : Lexer.start currencies text >>= Lexer.toSignificant with
  | error error =>
      rw [placed] at stands
      rcases stands with ⟨_, failed⟩
      rw [complete] at failed
      cases failed
  | ok lexer =>
      rw [placed] at stands
      rcases stands with ⟨leaves, fewer⟩
      rw [← List.length_map PlacedToken.token, significant] at fewer
      rw [significant, complete] at leaves
      exact ⟨lexer, position, rfl, leaves, fewer⟩

theorem ofText_of_spells (listing : program.IsListing definitions)
    (fits : ∀ definition ∈ definitions, definition.Fits) {text : String}
    (spells : (TokenList.ofText currencies text).Spells
      (definitions.flatMap Definition.tokens)) : ofText currencies text = .ok program := by
  rcases exists_lexer_of_spells spells with ⟨lexer, position, placed, leaves, fewer⟩
  have read := Grammar.program_of_listing listing fits leaves fewer
  exact ofText_eq_ok_iff.mpr ⟨lexer, placed, read⟩

/-- There is a text in which the definitions are written out, and all such texts are accepted as
the program. Keywords and symbols can always be spelled. -/
theorem written_program_is_read (listing : program.IsListing definitions)
    (fits : ∀ definition ∈ definitions, definition.Fits)
    (spellable : ∀ token ∈ definitions.flatMap Definition.tokens,
      token.isFixed = false → token.IsSpellable currencies) :
    (∃ text, (TokenList.ofText currencies text).Spells
        (definitions.flatMap Definition.tokens)) ∧
      ∀ text, (TokenList.ofText currencies text).Spells
        (definitions.flatMap Definition.tokens) → ofText currencies text = .ok program := by
  constructor
  · apply TokenList.exists_text_of_spellable
    · rw [List.all_flatMap, List.all_eq_true]
      intro definition listed
      exact (fits definition listed).all_isWritten
    · intro token member
      cases fixed : token.isFixed with
      | false => exact spellable token member fixed
      | true => exact Token.isSpellable_of_isFixed fixed currencies
  · intro text spells
    exact ofText_of_spells listing fits spells

def sampleDefinitions : List Definition := [
    ⟨.money (some "PLN"), "pick", [⟨some (.money (some "PLN")), "x"⟩, ⟨none, "y"⟩], [
      .choice (.logical .or (.comparison .equal (.reference "x") (.reference "y"))
          (.not (.reference "y")))
        (.block [.leave none])
        (.leave (some (.cast (.negation (.reference "x")) .int)))]⟩,
    ⟨.void, "main", [], [.call "pick" [.literal (.int 1), .literal (.string "z")]]⟩
  ]

def sampleProgram : Program := sampleDefinitions.foldl insert empty

theorem sampleProgram_isListing : sampleProgram.IsListing sampleDefinitions :=
  (IsListing.empty.insert rfl).insert (by
    rw [definition?_insert_of_ne _ _ (by decide)]
    rfl)

theorem sampleDefinitions_fit : ∀ definition ∈ sampleDefinitions, definition.Fits := by
  have x : Expression.Fits .factor (.reference "x") := .reference "x"
  have y : Expression.Fits .factor (.reference "y") := .reference "y"
  have equal : Expression.Fits ComparisonOperator.equal.level
      (.comparison .equal (.reference "x") (.reference "y")) :=
    .comparison (x.widen (by decide)) (y.widen (by decide))
  have not : Expression.Fits .negatedCondition (.not (.reference "y")) :=
    .not (y.widen (by decide))
  have test : Expression.Fits LogicalOperator.or.level (.logical .or
      (.comparison .equal (.reference "x") (.reference "y")) (.not (.reference "y"))) :=
    .logical (equal.widen (by decide)) (not.widen (by decide))
  have value : Expression.Fits .cast (.cast (.negation (.reference "x")) .int) :=
    .cast (.negation x) rfl
  have one : Expression.Fits .factor (.literal (.int 1)) := .literal (.int 1)
  have z : Expression.Fits .factor (.literal (.string "z")) := .literal (.string "z")
  rw [sampleDefinitions, List.forall_mem_cons, List.forall_mem_singleton]
  constructor
  · refine ⟨rfl, ?_, by decide, ?_⟩
    · simp [Parameter.Fits, ValueType.isVariableType]
    · rw [List.forall_mem_singleton]
      refine .choice test (.block ?_) rfl (.leave ?_)
      · rw [List.forall_mem_singleton]
        exact .leave (by simp)
      · intro expression same
        cases same
        exact value.widen (by decide)
  · refine ⟨rfl, by simp, by decide, ?_⟩
    rw [List.forall_mem_singleton]
    refine .call "pick" ?_
    rw [List.forall_mem_cons, List.forall_mem_singleton]
    exact ⟨one.widen (by decide), z.widen (by decide)⟩

theorem sampleDefinitions_spellable :
    ∀ token ∈ sampleDefinitions.flatMap Definition.tokens,
      token.isFixed = false → token.IsSpellable ["PLN"] := by
  have plain : (sampleDefinitions.flatMap Definition.tokens).filter (fun token => !token.isFixed) =
      [.currency "PLN", .name "pick", .currency "PLN", .name "x", .name "y", .name "x", .name "y",
        .name "y", .name "x", .name "main", .name "pick", .int 1, .string "z"] := rfl
  have currency : Token.IsSpellable ["PLN"] (.currency "PLN") := ⟨'P', ['L', 'N'], rfl, rfl⟩
  have pick : Token.IsSpellable ["PLN"] (.name "pick") := ⟨'p', ['i', 'c', 'k'], rfl, rfl⟩
  have main : Token.IsSpellable ["PLN"] (.name "main") := ⟨'m', ['a', 'i', 'n'], rfl, rfl⟩
  have x : Token.IsSpellable ["PLN"] (.name "x") := ⟨'x', [], rfl, rfl⟩
  have y : Token.IsSpellable ["PLN"] (.name "y") := ⟨'y', [], rfl, rfl⟩
  have one : Token.IsSpellable ["PLN"] (.int 1) := ⟨'1', [], rfl, rfl⟩
  have z : Token.IsSpellable ["PLN"] (.string "z") := ⟨'"', ['z', '"'], rfl, rfl⟩
  have all : ∀ token ∈ (sampleDefinitions.flatMap Definition.tokens).filter
      (fun token => !token.isFixed), token.IsSpellable ["PLN"] := by
    rw [plain]
    simp only [List.forall_mem_cons]
    exact ⟨currency, pick, currency, x, y, x, y, y, x, main, pick, one, z, List.forall_mem_nil _⟩
  intro token member carried
  apply all token
  rw [List.mem_filter, carried]
  exact ⟨member, rfl⟩

theorem written_program_is_read_of_sampleProgram :
    sampleProgram.IsListing sampleDefinitions ∧
      (∀ definition ∈ sampleDefinitions, definition.Fits) ∧
      (∀ token ∈ sampleDefinitions.flatMap Definition.tokens,
        token.isFixed = false → token.IsSpellable ["PLN"]) ∧
      (∃ text, (TokenList.ofText ["PLN"] text).Spells
        (sampleDefinitions.flatMap Definition.tokens)) ∧
      ∀ text, (TokenList.ofText ["PLN"] text).Spells
        (sampleDefinitions.flatMap Definition.tokens) → ofText ["PLN"] text = .ok sampleProgram :=
  ⟨sampleProgram_isListing, sampleDefinitions_fit, sampleDefinitions_spellable,
    written_program_is_read sampleProgram_isListing sampleDefinitions_fit
      sampleDefinitions_spellable⟩

end Program

end Ducat
