import Ducat.Proofs.Configuration.Naming
import Ducat.Proofs.Token.Region

/-! Main statement: the words that a configuration lists are the currencies of a program text, up to
those words that a program uses otherwise. -/

namespace Ducat

namespace TokenList

/-- A listed currency that stands in code is read as one token, wherever reading gets that far, and
names its type there if it is no keyword. Nothing but a listed currency is read as one. -/
theorem listed_currency_is_one_token {configurationText : String} {configuration : Configuration}
    (configured : Configuration.ofText configurationText = .ok configuration) (text : String) :
    Lexer.Yields (Lexer.start configuration.currencies text)
        (ofText configuration.currencies text) ∧
      (∀ id ∈ configuration.currencies, ∀ front behind : List Char,
        text.toList = front ++ (id.toList ++ behind) → StandsFree .code front behind →
          (ofText configuration.currencies text).FailsBefore (Position.start.advanceOver front) ∨
            ∃ token, HasSegment configuration.currencies [] (ofText configuration.currencies text)
                front id.toList behind token ∧
              ((∀ keyword : Keyword, keyword.spelling ≠ id) → token = .currency id ∧
                token.kind.isVariableType ∧ token.type? = some (.money (some id))) ∧
              ∀ keyword : Keyword, keyword.spelling = id → token = .keyword keyword) ∧
      ∀ token ∈ (ofText configuration.currencies text).tokens, ∀ id,
        token.token = .currency id → id ∈ configuration.currencies := by
  refine ⟨Lexer.start_yields _ text, ?_, fun token member id => listed_of_mem_ofText member⟩
  intro id listed front behind split free
  have isWord := Configuration.isWord_of_mem_currencies configured listed
  apply (ofText_word split isWord free).imp_right
  intro found
  rw [String.ofList_toList] at found
  refine ⟨_, found, ?_, ?_⟩
  · intro noKeyword
    rw [Lexeme.wordToken_of_mem noKeyword listed]
    exact ⟨rfl, rfl, rfl⟩
  · rintro keyword rfl
    exact Lexeme.wordToken_spelling keyword

theorem listed_currency_is_one_token_of_usd :
    Configuration.ofText "usd;" = .ok ⟨["usd"], .empty⟩ ∧
      StandsFree .code "\"usd\"#usd\n".toList " x".toList ∧
      HasSegment ["usd"] [] (ofText ["usd"] "\"usd\"#usd\nusd x") "\"usd\"#usd\n".toList
        "usd".toList " x".toList (.currency "usd") := by
  have configured : Configuration.ofText "usd;" = .ok ⟨["usd"], .empty⟩ := rfl
  have free : StandsFree .code "\"usd\"#usd\n".toList " x".toList := by
    refine ⟨by decide, ?_, ?_⟩
    all_goals
      rintro character ⟨⟩
      decide
  have complete : (ofText ["usd"] "\"usd\"#usd\nusd x").ending = .ok ⟨2, 6⟩ := rfl
  refine ⟨configured, free, ?_⟩
  rcases (listed_currency_is_one_token configured "\"usd\"#usd\nusd x").2.1 "usd" (by simp) _ _
    (by decide) free with ⟨error, failed, _⟩ | ⟨token, found, currency, _⟩
  · rw [complete] at failed
    cases failed
  · have noKeyword : ∀ keyword : Keyword, keyword.spelling ≠ "usd" := by
      intro keyword
      cases keyword <;> decide
    rw [(currency noKeyword).1] at found
    exact found

/-- Behind a fault no currency is read. -/
example : (ofText ["usd"] "@ usd").tokens = [] := rfl

/-- A currency may be listed under the spelling of a keyword. -/
theorem exists_listed_currency_that_is_a_keyword :
    ¬ ∀ (configurationText : String) (configuration : Configuration),
      Configuration.ofText configurationText = .ok configuration →
        ∀ id ∈ configuration.currencies, ∀ (text : String) (front behind : List Char),
          text.toList = front ++ (id.toList ++ behind) → StandsFree .code front behind →
            HasSegment configuration.currencies [] (ofText configuration.currencies text) front
              id.toList behind (.currency id) := by
  intro claim
  have configured : Configuration.ofText "if;" = .ok ⟨["if"], .empty⟩ := rfl
  have free : StandsFree .code [] [] := ⟨rfl, nofun, nofun⟩
  have read : (ofText ["if"] "if").tokens = [⟨.keyword .ifWord, ⟨1, 1⟩⟩] := rfl
  rcases claim "if;" _ configured "if" List.mem_cons_self "if" [] [] (by decide) free with
    ⟨earlier, segment, later, rest, divides, _, _, currency, _⟩
  have member : segment.token ∈ (ofText ["if"] "if").tokens := by
    rw [divides.tokens]
    exact List.mem_map_of_mem (List.mem_append_right _ List.mem_cons_self)
  rw [read, List.mem_singleton] at member
  rw [member] at currency
  cases currency

end TokenList

end Ducat
