import Ducat.Proofs.Token.Layout
import Ducat.Proofs.Token.Numeral
import Ducat.Value

/-! Main statement: tokens that are written one after the other, with a separator between them, are
read again as they were. -/

namespace Ducat

namespace Token

def escape (content : List Char) : List Char :=
  content.flatMap fun character =>
    if character = '"' ∨ character = '\\' then ['\\', character] else [character]

theorem escapes_escape (content : List Char) : Escapes (escape content) content := by
  induction content with
  | nil => exact .nil
  | cons character rest induction =>
      rw [escape, List.flatMap_cons]
      split
      next => exact .escaped character induction
      next plain =>
        rw [not_or] at plain
        exact .plain plain.1 plain.2 induction

def text : Token → String
  | int number => (Value.int number).text
  | float number => (Value.float number).text
  | string content => String.ofList ('"' :: (escape content.toList ++ ['"']))
  | name word => word
  | currency id => id
  | keyword word => word.spelling
  | symbol mark => mark.spelling
  | comment content => "#" ++ content
  | endOfText => ""

/-- A comment would go on behind a space. -/
def separator : Token → Char
  | comment _ => '\n'
  | _ => ' '

def render : List Token → List Char
  | [] => []
  | [last] => last.text.toList
  | token :: next :: rest => token.text.toList ++ token.separator :: render (next :: rest)

/-- The tokens that can be written. A sign in front of a number is a token of its own. -/
inductive Renderable (currencies : List String) : Token → Prop where
  | int {number : Int64} (unsigned : 0 ≤ number.toInt) : Renderable currencies (.int number)
  | float {number : Float} {mantissa : Nat} {exponent : Int}
      (finite : Double.ofFloat number = .finite false mantissa exponent) :
      Renderable currencies (.float number)
  | string (content : String) : Renderable currencies (.string content)
  | name {word : String} (isWord : IsWord word.toList)
      (free : ∀ keyword : Keyword, keyword.spelling ≠ word) (unlisted : word ∉ currencies) :
      Renderable currencies (.name word)
  | currency {id : String} (isWord : IsWord id.toList)
      (free : ∀ keyword : Keyword, keyword.spelling ≠ id) (listed : id ∈ currencies) :
      Renderable currencies (.currency id)
  | keyword (keyword : Keyword) : Renderable currencies (.keyword keyword)
  | symbol (symbol : Symbol) : Renderable currencies (.symbol symbol)
  | comment {content : String} (oneLine : '\n' ∉ content.toList) :
      Renderable currencies (.comment content)

end Token

namespace Token

variable {currencies : List String}

theorem Renderable.writtenAs {token : Token} (renderable : token.Renderable currencies)
    (inverted : ∀ number, token = .float number →
      Double.read? (Value.float number).text = some number) :
    token.WrittenAs currencies token.text.toList := by
  cases renderable with
  | int unsigned =>
      rw [text, Value.text, Integer.toList_text unsigned]
      apply WrittenAs.int (Digits.isNumeral_toDigits _)
      rw [Digits.value_toDigits, Int.toNat_of_nonneg unsigned]
  | float finite => exact Double.writtenAs_text finite (inverted _ rfl) currencies
  | string content =>
      have written : WrittenAs currencies (.string (String.ofList content.toList)) _ :=
        .string (escapes_escape content.toList)
      rw [text, String.toList_ofList]
      rwa [String.ofList_toList] at written
  | name isWord free unlisted => exact .name isWord free unlisted
  | currency isWord free listed => exact .currency isWord free listed
  | keyword keyword => exact .keyword keyword
  | symbol mark => exact .symbol mark
  | comment oneLine =>
      rw [text, String.toList_append]
      exact .comment oneLine

theorem isBlank_separator (token : Token) : isBlank token.separator := by
  have both : isBlank ' ' ∧ isBlank '\n' := by decide
  cases token with
  | comment => exact both.2
  | _ => exact both.1

theorem endsBefore_separator (token : Token) : token.EndsBefore (some token.separator) := by
  apply endsBefore_of_space
  · intro character next
    cases next
    cases token with
    | comment => exact .inr rfl
    | _ => exact .inl rfl
  · intro comment character next
    cases next
    cases token <;> cases comment
    rfl

theorem laidOut_render {tokens : List Token} (blanks : List Char) (blank : blanks.all isBlank)
    (written : ∀ token ∈ tokens, token.WrittenAs currencies token.text.toList) :
    LaidOut currencies tokens (blanks ++ render tokens) := by
  fun_induction render tokens generalizing blanks with
  | case1 => exact .nil (by simpa using blank)
  | case2 last =>
      rw [← List.append_nil (blanks ++ _)]
      have ends : last.EndsBefore none := endsBefore_of_space (by simp) (by simp)
      exact .cons blank ⟨written last (List.mem_singleton_self _), ends⟩ (.nil rfl)
  | case3 token next rest induction =>
      rw [List.forall_mem_cons] at written
      have separated : [token.separator].all isBlank := by simp [isBlank_separator]
      rw [← List.append_assoc]
      exact .cons blank ⟨written.1, endsBefore_separator token⟩
        (induction [token.separator] separated written.2)

end Token

/-- Reading undoes writing, for all tokens that can be written. Of numbers with a point it is
supposed that they are read as they are displayed. -/
theorem rendered_tokens_are_read {currencies : List String} {tokens : List Token}
    (renderable : ∀ token ∈ tokens, token.Renderable currencies)
    (inverted : ∀ number, .float number ∈ tokens →
      Double.read? (Value.float number).text = some number) :
    ∃ placed position,
      Lexer.Yields (Lexer.start currencies (String.ofList (Token.render tokens)))
        ⟨placed, .ok position⟩ ∧
      placed.map PlacedToken.token = tokens := by
  have written : ∀ token ∈ tokens, token.WrittenAs currencies token.text.toList := by
    intro token member
    apply (renderable token member).writtenAs
    rintro number rfl
    exact inverted number member
  have laidOut := Token.laidOut_render [] rfl written
  rw [List.nil_append, ← String.toList_ofList (l := Token.render tokens)] at laidOut
  rcases TokenList.ofText_of_laidOut laidOut with ⟨same, position, complete⟩
  have yields := Lexer.start_yields currencies (String.ofList (Token.render tokens))
  rcases list : TokenList.ofText currencies (String.ofList (Token.render tokens)) with
    ⟨placed, ending⟩
  rw [list] at same complete yields
  cases complete
  exact ⟨placed, position, yields, same⟩

def sampleTokens : List Token :=
  [.string "\"a\\", .int 0, .int 9223372036854775807, .float 0.1, .float 100.0, .name "iff",
    .keyword .ifWord, .currency "PLN", .symbol .assign, .symbol .equal, .comment "# =",
    .symbol .less]

theorem sampleTokens_renderable : ∀ token ∈ sampleTokens, token.Renderable ["PLN"] := by
  have tenth : Double.ofFloat 0.1 = .finite false 7205759403792794 (-56) := by decide +kernel
  have hundred : Double.ofFloat 100.0 = .finite false 7036874417766400 (-46) := by decide +kernel
  have freeName : ∀ keyword : Keyword, keyword.spelling ≠ "iff" := by
    intro keyword
    cases keyword <;> decide
  have freeCurrency : ∀ keyword : Keyword, keyword.spelling ≠ "PLN" := by
    intro keyword
    cases keyword <;> decide
  simp only [sampleTokens, List.forall_mem_cons, List.not_mem_nil, false_implies, implies_true,
    and_true]
  exact ⟨.string _, .int (by decide), .int (by decide), .float tenth, .float hundred,
    .name ⟨by decide, by decide⟩ freeName (by decide), .keyword _,
    .currency ⟨by decide, by decide⟩ freeCurrency (by decide), .symbol _, .symbol _,
    .comment (by decide), .symbol _⟩

theorem rendered_tokens_are_read_of_sampleTokens :
    ∃ placed position,
      Lexer.Yields (Lexer.start ["PLN"] (String.ofList (Token.render sampleTokens)))
        ⟨placed, .ok position⟩ ∧
      placed.map PlacedToken.token = sampleTokens := by
  have tenth : Double.read? (Value.float 0.1).text = some 0.1 := by decide +kernel
  have hundred : Double.read? (Value.float 100.0).text = some 100.0 := by decide +kernel
  apply rendered_tokens_are_read sampleTokens_renderable
  intro number member
  simp only [sampleTokens, List.mem_cons, reduceCtorEq, Token.float.injEq, false_or, or_false,
    List.not_mem_nil] at member
  rcases member with rfl | rfl
  · exact tenth
  · exact hundred

end Ducat
