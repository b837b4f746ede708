import Ducat.Proofs.Token.Progress

/-! The written form of each token, said without the way in which it is read, and how far it reaches
in a text. What is taken from a text as one token has its form and reaches as far as it can. -/

namespace Ducat

/-- What stands between the quotes of a string, and the content that is meant by it. A backslash
stands before a character that is meant as it is. -/
inductive Escapes : List Char → List Char → Prop where
  | nil : Escapes [] []
  | plain {character : Char} {written content : List Char} (noQuote : character ≠ '"')
      (noEscape : character ≠ '\\') (behind : Escapes written content) :
      Escapes (character :: written) (character :: content)
  | escaped (character : Char) {written content : List Char} (behind : Escapes written content) :
      Escapes ('\\' :: character :: written) (character :: content)

structure IsWord (characters : List Char) : Prop where
  start : characters.head?.any isWordStart
  parts : characters.all isWordPart

structure IsNumeral (characters : List Char) : Prop where
  filled : characters ≠ []
  digits : characters.all Char.isDigit
  noLeadingZero : characters.head? = some '0' → characters = ['0']

namespace Token

inductive WrittenAs (currencies : List String) : Token → List Char → Prop where
  | int {number : Int64} {digits : List Char} (numeral : IsNumeral digits)
      (value : number.toInt = Digits.value digits) : WrittenAs currencies (.int number) digits
  | float {number : Float} {whole fraction : List Char} (numeral : IsNumeral whole)
      (digits : fraction.all Char.isDigit)
      (value : number = Double.nearest (Digits.value (whole ++ fraction)) (-fraction.length))
      (finite : (Double.ofFloat number).isFinite) :
      WrittenAs currencies (.float number) (whole ++ '.' :: fraction)
  | string {written content : List Char} (escapes : Escapes written content) :
      WrittenAs currencies (.string (String.ofList content)) ('"' :: (written ++ ['"']))
  | name {word : String} (isWord : IsWord word.toList)
      (free : ∀ keyword : Keyword, keyword.spelling ≠ word) (unlisted : word ∉ currencies) :
      WrittenAs currencies (.name word) word.toList
  | currency {id : String} (isWord : IsWord id.toList)
      (free : ∀ keyword : Keyword, keyword.spelling ≠ id) (listed : id ∈ currencies) :
      WrittenAs currencies (.currency id) id.toList
  | keyword (keyword : Keyword) : WrittenAs currencies (.keyword keyword) keyword.spelling.toList
  | symbol (symbol : Symbol) : WrittenAs currencies (.symbol symbol) symbol.spelling.toList
  | comment {content : String} (oneLine : '\n' ∉ content.toList) :
      WrittenAs currencies (.comment content) ('#' :: content.toList)

theorem WrittenAs.kind_ne_endOfText {currencies : List String} {token : Token}
    {characters : List Char} (written : token.WrittenAs currencies characters) :
    token.kind ≠ .endOfText := by
  cases written <;> simp [kind]

/-- The token goes on no further where `next` is the character behind it, or nothing is. -/
def EndsBefore (next : Option Char) : Token → Prop
  | int _ => ∀ character ∈ next, ¬ character.isDigit ∧ character ≠ '.'
  | float _ => ∀ character ∈ next, ¬ character.isDigit
  | name _ | currency _ | keyword _ => ∀ character ∈ next, ¬ isWordPart character
  | symbol mark => ∀ character ∈ next, ∀ longer : Symbol,
      longer.spelling.toList ≠ mark.spelling.toList ++ [character]
  | comment _ => ∀ character ∈ next, character = '\n'
  | string _ | endOfText => True

structure CutFrom (currencies : List String) (token : Token) (taken rest : List Char) : Prop where
  written : token.WrittenAs currencies taken
  ends : token.EndsBefore rest.head?

theorem writtenAs_comment {currencies : List String} {content : List Char}
    (oneLine : '\n' ∉ content) :
    (comment (String.ofList content)).WrittenAs currencies ('#' :: content) := by
  rw [← String.toList_ofList (l := content)] at oneLine
  have written : WrittenAs currencies _ _ := .comment oneLine
  rwa [String.toList_ofList] at written

end Token

theorem lineBreak_not_mem_takeWhile (text : List Char) : '\n' ∉ text.takeWhile (· != '\n') := by
  intro lineBreak
  have kept := List.all_eq_true.mp (List.all_takeWhile (p := (· != '\n'))) _ lineBreak
  cases kept

theorem not_of_mem_head?_dropWhile {keep : Char → Bool} {text : List Char} {character : Char}
    (next : character ∈ (text.dropWhile keep).head?) : ¬ keep character := by
  have stopped := List.head?_dropWhile_not keep text
  rw [Option.mem_def.mp next] at stopped
  simpa using stopped

namespace Symbol

theorem length_spelling_le (symbol : Symbol) : symbol.spelling.toList.length ≤ 2 := by
  cases symbol <;> decide

theorem toList_spelling_of_ofSpelling? {characters : List Char} {symbol : Symbol}
    (found : ofSpelling? (String.ofList characters) = some symbol) :
    symbol.spelling.toList = characters := by
  rw [spelling_of_ofSpelling? found, String.toList_ofList]

theorem ne_of_ofSpelling?_eq_none {characters : List Char}
    (none : ofSpelling? (String.ofList characters) = none) (symbol : Symbol) :
    symbol.spelling.toList ≠ characters := by
  intro equal
  have found := ofSpelling?_spelling symbol
  rw [← String.ofList_toList (s := symbol.spelling), equal, none] at found
  cases found

end Symbol

namespace Lexeme

open Token

variable {currencies : List String} {token : Token} {first : Char} {rest : List Char}

theorem quotation_escapes {text : List Char} {read : Quotation}
    (found : quotation text = some read) :
    ∃ written, read.taken = written ++ ['"'] ∧ Escapes written read.content := by
  fun_induction quotation text generalizing read with
  | case1 => cases found
  | case2 rest =>
      cases found
      exact ⟨[], rfl, .nil⟩
  | case3 => cases found
  | case4 character rest induction =>
      rcases Option.map_eq_some_iff.mp found with ⟨inner, innerFound, equal⟩
      subst equal
      rcases induction innerFound with ⟨written, taken, escapes⟩
      exact ⟨'\\' :: character :: written, by simp [taken], .escaped character escapes⟩
  | case5 character rest noQuote noEnd noEscape induction =>
      rcases Option.map_eq_some_iff.mp found with ⟨inner, innerFound, equal⟩
      subst equal
      rcases induction innerFound with ⟨written, taken, escapes⟩
      have plain : character ≠ '\\' := by
        intro escape
        cases rest with
        | nil => exact noEnd escape rfl
        | cons second behind => exact noEscape second behind escape rfl
      exact ⟨character :: written, by simp [taken], .plain noQuote plain escapes⟩

theorem ofString_cut (read : (ofString rest).outcome = .ok token) :
    token.CutFrom currencies (ofString rest).taken (ofString rest).rest := by
  rw [ofString] at read ⊢
  cases found : quotation rest with
  | none =>
      rw [found] at read
      cases read
  | some quotation =>
      rw [found] at read
      cases read
      rcases quotation_escapes found with ⟨written, taken, escapes⟩
      refine ⟨?_, trivial⟩
      dsimp only
      rw [taken]
      exact .string escapes

theorem ofSingleSymbol_cut (read : (ofSingleSymbol first rest).outcome = .ok token)
    (noPair : ∀ second ∈ rest.head?,
      Symbol.ofSpelling? (String.ofList [first, second]) = none) :
    token.CutFrom currencies (ofSingleSymbol first rest).taken
      (ofSingleSymbol first rest).rest := by
  rw [ofSingleSymbol] at read ⊢
  cases found : Symbol.ofSpelling? (String.ofList [first]) with
  | none =>
      rw [found] at read
      cases read
  | some symbol =>
      rw [found] at read
      cases read
      have spelled := Symbol.toList_spelling_of_ofSpelling? found
      constructor
      · rw [← spelled]
        exact .symbol symbol
      · intro second next longer
        rw [spelled]
        exact Symbol.ne_of_ofSpelling?_eq_none (noPair second next) longer

theorem ofSymbol_cut (read : (ofSymbol first rest).outcome = .ok token) :
    token.CutFrom currencies (ofSymbol first rest).taken (ofSymbol first rest).rest := by
  cases rest with
  | nil =>
      apply ofSingleSymbol_cut read
      simp
  | cons second behind =>
      rw [ofSymbol] at read ⊢
      cases found : Symbol.ofSpelling? (String.ofList [first, second]) with
      | none =>
          rw [found] at read
          apply ofSingleSymbol_cut read
          intro other next
          cases next
          exact found
      | some symbol =>
          rw [found] at read
          cases read
          have spelled := Symbol.toList_spelling_of_ofSpelling? found
          constructor
          · rw [← spelled]
            exact .symbol symbol
          · intro third next longer equal
            have short := longer.length_spelling_le
            rw [equal, spelled] at short
            simp at short

theorem wordToken_cut {word : List Char} (isWord : IsWord word)
    (ends : ∀ character ∈ rest.head?, ¬ isWordPart character) :
    (wordToken currencies (String.ofList word)).CutFrom currencies word rest := by
  have same : (String.ofList word).toList = word := String.toList_ofList
  rw [wordToken]
  cases found : Keyword.ofSpelling? (String.ofList word) with
  | some keyword =>
      refine ⟨?_, ends⟩
      rw [← same, ← Keyword.spelling_of_ofSpelling? found]
      exact .keyword keyword
  | none =>
      have free : ∀ keyword : Keyword, keyword.spelling ≠ String.ofList word := by
        intro keyword equal
        rw [← equal, Keyword.ofSpelling?_spelling] at found
        cases found
      dsimp only
      split
      next listed =>
        refine ⟨?_, ends⟩
        rw [← same] at isWord
        have written := WrittenAs.currency isWord free (List.contains_iff_mem.mp listed)
        rwa [same] at written
      next unlisted =>
        refine ⟨?_, ends⟩
        rw [← same] at isWord
        have written := WrittenAs.name isWord free (unlisted ∘ List.contains_iff_mem.mpr)
        rwa [same] at written

theorem ofWord_cut (start : isWordStart first)
    (read : (ofWord currencies (first :: rest)).outcome = .ok token) :
    token.CutFrom currencies (ofWord currencies (first :: rest)).taken
      (ofWord currencies (first :: rest)).rest := by
  cases read
  apply wordToken_cut
  · constructor
    · rw [List.takeWhile_cons_of_pos (isWordPart_of_isWordStart start)]
      exact start
    · exact List.all_takeWhile
  · intro character
    exact not_of_mem_head?_dropWhile

theorem isNumeral_takeWhile (digit : first.isDigit)
    (unpadded : ¬ (first == '0' && rest.head?.any Char.isDigit)) :
    IsNumeral ((first :: rest).takeWhile Char.isDigit) := by
  rw [List.takeWhile_cons_of_pos digit]
  refine ⟨List.cons_ne_nil _ _, ?_, ?_⟩
  · rw [List.all_cons, digit]
    exact List.all_takeWhile
  · intro zero
    cases zero
    cases rest with
    | nil => rfl
    | cons second behind =>
        have noDigit : ¬ second.isDigit := by simpa using unpadded
        rw [List.takeWhile_cons_of_neg noDigit]

theorem intToken_cut {digits : List Char} (numeral : IsNumeral digits)
    (read : intToken digits = .ok token)
    (ends : ∀ character ∈ rest.head?, ¬ character.isDigit ∧ character ≠ '.') :
    token.CutFrom currencies digits rest := by
  rw [intToken] at read
  split at read
  next number found =>
    cases read
    exact ⟨.int numeral (Integer.toInt_of_ofInt? found), ends⟩
  · cases read

theorem floatToken_cut {whole fraction : List Char} (numeral : IsNumeral whole)
    (digits : fraction.all Char.isDigit) (read : floatToken whole fraction = .ok token)
    (ends : ∀ character ∈ rest.head?, ¬ character.isDigit) :
    token.CutFrom currencies (whole ++ '.' :: fraction) rest := by
  rw [floatToken] at read
  split at read
  next finite =>
    cases read
    exact ⟨.float numeral digits rfl finite, ends⟩
  · cases read

theorem ofNumber_cut (digit : first.isDigit) (read : (ofNumber first rest).outcome = .ok token) :
    token.CutFrom currencies (ofNumber first rest).taken (ofNumber first rest).rest := by
  rw [ofNumber] at read ⊢
  by_cases padded : first == '0' && rest.head?.any Char.isDigit
  · rw [if_pos padded] at read
    cases read
  have numeral := isNumeral_takeWhile digit padded
  rw [if_neg padded] at read ⊢
  dsimp only at read ⊢
  have stops : ∀ character ∈ ((first :: rest).dropWhile Char.isDigit).head?,
      ¬ character.isDigit := fun character => not_of_mem_head?_dropWhile
  split at read
  · apply floatToken_cut numeral List.all_takeWhile read
    intro character
    exact not_of_mem_head?_dropWhile
  next noPoint =>
    apply intToken_cut numeral read
    intro character next
    refine ⟨stops character next, ?_⟩
    rintro rfl
    rcases List.head?_eq_some_iff.mp next with ⟨behind, left⟩
    exact noPoint behind left

theorem ofComment_cut (read : (ofComment rest).outcome = .ok token) :
    token.CutFrom currencies (ofComment rest).taken (ofComment rest).rest := by
  cases read
  constructor
  · exact writtenAs_comment (lineBreak_not_mem_takeWhile rest)
  · intro character next
    simpa using not_of_mem_head?_dropWhile next

/-- What is taken as a token is written as that token is, and could not be longer. -/
theorem take_cut (read : (take currencies first rest).outcome = .ok token) :
    token.CutFrom currencies (take currencies first rest).taken
      (take currencies first rest).rest := by
  cases classified currencies first with
  | quote taken =>
      rw [taken] at read ⊢
      exact ofString_cut read
  | symbol taken =>
      rw [taken] at read ⊢
      exact ofSymbol_cut read
  | word start taken =>
      rw [taken] at read ⊢
      exact ofWord_cut start read
  | number digit taken =>
      rw [taken] at read ⊢
      exact ofNumber_cut digit read
  | comment taken =>
      rw [taken] at read ⊢
      exact ofComment_cut read
  | unclassifiable taken =>
      rw [taken] at read
      cases read

end Lexeme

end Ducat
