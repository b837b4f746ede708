import Ducat.Grammar.Source

/-! Every token but the end of the text is read from at least one character. -/

namespace Ducat

theorem isWordPart_of_isWordStart {character : Char} (start : isWordStart character) :
    isWordPart character := by
  rw [isWordStart, Bool.or_eq_true] at start
  rw [isWordPart, Bool.or_eq_true]
  rcases start with letter | underscore
  · left
    rw [isLetter] at letter
    rw [isAlphanumeric]
    split at letter
    next ascii =>
      rw [if_pos ascii, Char.isAlphanum, letter, Bool.true_or]
    next wide =>
      rw [if_neg wide, isLetter, if_neg wide, letter, Bool.true_or]
  · right
    exact underscore

namespace Lexeme

theorem ofSymbol_taken_ne_nil (first : Char) (rest : List Char) :
    (ofSymbol first rest).taken ≠ [] := by
  have single : ∀ rest, (ofSingleSymbol first rest).taken ≠ [] := by
    intro rest
    rw [ofSingleSymbol]
    split <;> simp
  cases rest with
  | nil => exact single []
  | cons second behind =>
      rw [ofSymbol]
      split
      · simp
      · exact single _

theorem ofNumber_taken_ne_nil {first : Char} (rest : List Char) (digit : first.isDigit) :
    (ofNumber first rest).taken ≠ [] := by
  rw [ofNumber]
  split
  · simp
  · dsimp only
    split <;> simp [digit]

inductive Classified (currencies : List String) (first : Char) : Prop where
  | quote (taken : ∀ rest, take currencies first rest = ofString rest)
  | symbol (taken : ∀ rest, take currencies first rest = ofSymbol first rest)
  | word (start : isWordStart first)
      (taken : ∀ rest, take currencies first rest = ofWord currencies (first :: rest))
  | number (digit : first.isDigit)
      (taken : ∀ rest, take currencies first rest = ofNumber first rest)
  | comment (taken : ∀ rest, take currencies first rest = ofComment rest)
  | unclassifiable (taken : ∀ rest,
      take currencies first rest = ⟨.error (.unclassifiable first), [], first :: rest⟩)

theorem classified (currencies : List String) (first : Char) : Classified currencies first := by
  by_cases quote : first == '"'
  · exact .quote fun rest => by rw [take, if_pos quote]
  by_cases mark : Symbol.starts.contains first
  · exact .symbol fun rest => by rw [take, if_neg quote, if_pos mark]
  by_cases start : isWordStart first
  · exact .word start fun rest => by rw [take, if_neg quote, if_neg mark, if_pos start]
  by_cases digit : first.isDigit
  · exact .number digit fun rest => by
      rw [take, if_neg quote, if_neg mark, if_neg start, if_pos digit]
  by_cases comment : first == '#'
  · exact .comment fun rest => by
      rw [take, if_neg quote, if_neg mark, if_neg start, if_neg digit, if_pos comment]
  · exact .unclassifiable fun rest => by
      rw [take, if_neg quote, if_neg mark, if_neg start, if_neg digit, if_neg comment]

theorem take_taken_ne_nil {currencies : List String} {first : Char} {rest : List Char}
    {token : Token} (read : (take currencies first rest).outcome = .ok token) :
    (take currencies first rest).taken ≠ [] := by
  cases classified currencies first with
  | quote taken =>
      rw [taken, ofString]
      split <;> simp
  | symbol taken =>
      rw [taken]
      exact ofSymbol_taken_ne_nil first rest
  | word start taken =>
      rw [taken]
      simp [ofWord, isWordPart_of_isWordStart start]
  | number digit taken =>
      rw [taken]
      exact ofNumber_taken_ne_nil rest digit
  | comment taken =>
      rw [taken]
      simp [ofComment]
  | unclassifiable taken =>
      rw [taken] at read
      cases read

theorem rest_length_lt {currencies : List String} {first : Char} {rest : List Char}
    {token : Token} (read : (take currencies first rest).outcome = .ok token) :
    (take currencies first rest).rest.length < (first :: rest).length := by
  have positive := List.length_pos_iff.mpr (take_taken_ne_nil read)
  have lengths := congrArg List.length (taken_append_rest currencies first rest)
  rw [List.length_append] at lengths
  omega

end Lexeme

namespace Cursor

theorem skip_rest_length_le (cursor : Cursor) (skipped : Char → Bool) :
    (cursor.skip skipped).rest.length ≤ cursor.rest.length :=
  (List.dropWhile_suffix skipped).length_le

theorem nextToken_rest_length_lt {currencies : List String} {cursor next : Cursor}
    {token : PlacedToken} (read : cursor.nextToken currencies = (.ok token, next))
    (inside : token.kind ≠ .endOfText) : next.rest.length < cursor.rest.length := by
  have skipped := cursor.skip_rest_length_le isBlank
  rw [nextToken] at read
  generalize cursor.skip isBlank = start at read skipped
  dsimp only at read
  split at read
  · cases read
    exact absurd rfl inside
  next first rest equal =>
    cases outcome : (Lexeme.take currencies first rest).outcome with
    | error fault =>
        rw [outcome] at read
        cases read
    | ok token =>
        have shorter := Lexeme.rest_length_lt outcome
        rw [outcome] at read
        cases read
        rw [equal] at skipped
        exact Nat.lt_of_lt_of_le shorter skipped

end Cursor

end Ducat
