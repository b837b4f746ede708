import Ducat.Proofs.Token.Form

/-! Characters that have the form of a token are taken as this token, if the token goes on no
further behind them. -/

namespace Ducat

theorem takeWhile_append_of_stops {keep : Char → Bool} {kept rest : List Char}
    (all : kept.all keep) (stops : ∀ character ∈ rest.head?, ¬ keep character) :
    (kept ++ rest).takeWhile keep = kept := by
  rw [List.takeWhile_append_of_pos (List.all_eq_true.mp all)]
  cases rest with
  | nil => simp
  | cons first behind =>
      rw [List.takeWhile_cons_of_neg (stops first rfl), List.append_nil]

theorem dropWhile_append_of_stops {keep : Char → Bool} {kept rest : List Char}
    (all : kept.all keep) (stops : ∀ character ∈ rest.head?, ¬ keep character) :
    (kept ++ rest).dropWhile keep = rest := by
  rw [List.dropWhile_append_of_pos (List.all_eq_true.mp all)]
  cases rest with
  | nil => rfl
  | cons first behind => exact List.dropWhile_cons_of_neg (stops first rfl)

theorem isAlpha_eq_false_of_lt {character : Char} (small : character.toNat < 'A'.toNat) :
    character.isAlpha = false := by
  have noUpper : character.isUpper = false := by
    have early : ¬ 'A'.val ≤ character.val := Nat.not_le.mpr small
    exact decide_eq_false fun between => early between.1
  have noLower : character.isLower = false := by
    have early : ¬ 'a'.val ≤ character.val := Nat.not_le.mpr (Nat.lt_trans small (by decide))
    exact Bool.and_eq_false_imp.mpr fun late => absurd (of_decide_eq_true late) early
  exact Bool.or_eq_false_iff.mpr ⟨noUpper, noLower⟩

theorem toNat_le_of_isDigit {character : Char} (digit : character.isDigit) :
    character.toNat ≤ '9'.toNat := by
  simp only [Char.isDigit, Bool.and_eq_true, decide_eq_true_eq] at digit
  exact digit.2

theorem isWordStart_of_isDigit {character : Char} (digit : character.isDigit) :
    isWordStart character = false := by
  have last := toNat_le_of_isDigit digit
  have ascii : character.toNat < 0x80 := Nat.lt_of_le_of_lt last (by decide)
  have noLetter := isAlpha_eq_false_of_lt (Nat.lt_of_le_of_lt last (by decide))
  have noUnderscore : character ≠ '_' := by
    rintro rfl
    cases digit
  simp [isWordStart, isLetter, ascii, noLetter, noUnderscore]

theorem not_mem_starts_of_isWordStart {character : Char} (start : isWordStart character) :
    character ∉ Symbol.starts := by
  have none : Symbol.starts.all fun mark => !isWordStart mark := by decide +kernel
  intro member
  have other := List.all_eq_true.mp none character member
  rw [start] at other
  cases other

theorem not_mem_starts_of_isDigit {character : Char} (digit : character.isDigit) :
    character ∉ Symbol.starts := by
  have none : Symbol.starts.all fun mark => !Char.isDigit mark := by decide +kernel
  intro member
  have other := List.all_eq_true.mp none character member
  rw [digit] at other
  cases other

theorem Keyword.isWord_spelling (keyword : Keyword) : IsWord keyword.spelling.toList := by
  cases keyword <;> constructor <;> decide

namespace Lexeme

open Token

variable {currencies : List String} {first : Char} {taken rest : List Char}

theorem quotation_of_escapes {written content : List Char} (escapes : Escapes written content)
    (rest : List Char) :
    quotation (written ++ '"' :: rest) = some ⟨content, written ++ ['"'], rest⟩ := by
  induction escapes with
  | nil => rfl
  | plain noQuote noEscape behind induction =>
      rw [List.cons_append, quotation, induction]
      · rfl
      · exact noQuote
      · intro escape
        exact absurd escape noEscape
      · intro _ _ escape
        exact absurd escape noEscape
  | escaped character behind induction =>
      rw [List.cons_append, List.cons_append, quotation, induction]
      rfl

theorem take_of_isWord (isWord : IsWord (first :: taken))
    (ends : ∀ character ∈ rest.head?, ¬ isWordPart character) :
    take currencies first (taken ++ rest) =
      ⟨.ok (wordToken currencies (String.ofList (first :: taken))), first :: taken, rest⟩ := by
  have start : isWordStart first := isWord.start
  have noQuote : ¬ (first == '"') := by
    intro quote
    rw [beq_iff_eq.mp quote] at start
    cases start
  have noSymbol : ¬ Symbol.starts.contains first := by
    rw [List.contains_iff_mem]
    exact not_mem_starts_of_isWordStart start
  rw [take, if_neg noQuote, if_neg noSymbol, if_pos start, ofWord, ← List.cons_append,
    takeWhile_append_of_stops isWord.parts ends, dropWhile_append_of_stops isWord.parts ends]

theorem take_of_isDigit (digit : first.isDigit) (rest : List Char) :
    take currencies first rest = ofNumber first rest := by
  have noQuote : ¬ (first == '"') := by
    intro quote
    rw [beq_iff_eq.mp quote] at digit
    cases digit
  have noSymbol : ¬ Symbol.starts.contains first := by
    rw [List.contains_iff_mem]
    exact not_mem_starts_of_isDigit digit
  have noWord : ¬ isWordStart first := by simp [isWordStart_of_isDigit digit]
  rw [take, if_neg noQuote, if_neg noSymbol, if_neg noWord, if_pos digit]

theorem unpadded_of_isNumeral (numeral : IsNumeral (first :: taken))
    (ends : ∀ character ∈ rest.head?, ¬ character.isDigit) :
    ¬ (first == '0' && (taken ++ rest).head?.any Char.isDigit) := by
  intro padded
  rw [Bool.and_eq_true, beq_iff_eq] at padded
  have alone := numeral.noLeadingZero (congrArg some padded.1)
  rw [(List.cons.inj alone).2, List.nil_append] at padded
  rcases next : rest.head? with _ | character
  · rw [next] at padded
    cases padded.2
  · rw [next] at padded
    exact ends character next padded.2

theorem take_int {number : Int64} (numeral : IsNumeral (first :: taken))
    (value : number.toInt = Digits.value (first :: taken))
    (ends : ∀ character ∈ rest.head?, ¬ character.isDigit ∧ character ≠ '.') :
    take currencies first (taken ++ rest) = ⟨.ok (.int number), first :: taken, rest⟩ := by
  have stops : ∀ character ∈ rest.head?, ¬ character.isDigit :=
    fun character next => (ends character next).1
  have digit := List.all_eq_true.mp numeral.digits first (List.mem_cons_self ..)
  have read : intToken (first :: taken) = .ok (.int number) := by
    rw [intToken, ← value, Integer.ofInt?_toInt]
  rw [take_of_isDigit digit, ofNumber, if_neg (unpadded_of_isNumeral numeral stops),
    ← List.cons_append, takeWhile_append_of_stops numeral.digits stops,
    dropWhile_append_of_stops numeral.digits stops]
  dsimp only
  split
  next behind => exact absurd rfl (ends '.' rfl).2
  next => rw [read]

theorem take_float {fraction : List Char} {number : Float} (numeral : IsNumeral (first :: taken))
    (digits : fraction.all Char.isDigit)
    (value : number = Double.nearest (Digits.value (first :: taken ++ fraction)) (-fraction.length))
    (finite : (Double.ofFloat number).isFinite)
    (ends : ∀ character ∈ rest.head?, ¬ character.isDigit) :
    take currencies first (taken ++ '.' :: fraction ++ rest) =
      ⟨.ok (.float number), first :: taken ++ '.' :: fraction, rest⟩ := by
  have stops : ∀ character ∈ ('.' :: (fraction ++ rest)).head?, ¬ character.isDigit := by
    intro character next
    cases next
    decide
  have digit := List.all_eq_true.mp numeral.digits first (List.mem_cons_self ..)
  have read : floatToken (first :: taken) fraction = .ok (.float number) := by
    rw [floatToken, Double.ofDigits, ← value]
    exact if_pos finite
  rw [List.append_assoc, List.cons_append, take_of_isDigit digit, ofNumber,
    if_neg (unpadded_of_isNumeral numeral stops), ← List.cons_append,
    takeWhile_append_of_stops numeral.digits stops, dropWhile_append_of_stops numeral.digits stops]
  change Lexeme.mk _ _ _ = _
  rw [takeWhile_append_of_stops digits ends, dropWhile_append_of_stops digits ends, read]

theorem ofSingleSymbol_of_spelling {mark : Symbol} (spelled : mark.spelling.toList = [first])
    (rest : List Char) : ofSingleSymbol first rest = ⟨.ok (.symbol mark), [first], rest⟩ := by
  rw [ofSingleSymbol, ← spelled, String.ofList_toList, Symbol.ofSpelling?_spelling]

theorem ofSymbol_of_ends {mark : Symbol} (spelled : mark.spelling.toList = first :: taken)
    (ends : EndsBefore rest.head? (.symbol mark)) :
    ofSymbol first (taken ++ rest) = ⟨.ok (.symbol mark), first :: taken, rest⟩ := by
  cases taken with
  | nil =>
      cases rest with
      | nil => exact ofSingleSymbol_of_spelling spelled []
      | cons next behind =>
          have noPair : Symbol.ofSpelling? (String.ofList [first, next]) = none := by
            cases found : Symbol.ofSpelling? (String.ofList [first, next]) with
            | none => rfl
            | some longer =>
                have longerSpelled := Symbol.toList_spelling_of_ofSpelling? found
                apply absurd longerSpelled
                have noLonger := ends next rfl longer
                rwa [spelled] at noLonger
          rw [List.nil_append, ofSymbol, noPair]
          exact ofSingleSymbol_of_spelling spelled _
  | cons second others =>
      have short := mark.length_spelling_le
      rw [spelled] at short
      cases others with
      | nil =>
          rw [List.cons_append, List.nil_append, ofSymbol, ← spelled, String.ofList_toList,
            Symbol.ofSpelling?_spelling]
      | cons third further => simp at short

theorem take_symbol {mark : Symbol} (spelled : mark.spelling.toList = first :: taken)
    (ends : EndsBefore rest.head? (.symbol mark)) :
    take currencies first (taken ++ rest) = ⟨.ok (.symbol mark), first :: taken, rest⟩ := by
  have starts : Symbol.starts.contains first ∧ ¬ (first == '"') := by
    have all : ∀ mark ∈ Symbol.all, mark.spelling.toList.head?.all fun first =>
        Symbol.starts.contains first && !(first == '"') := by decide
    have own := all mark mark.mem_all
    rw [spelled] at own
    simpa using own
  rw [take, if_neg starts.2, if_pos starts.1]
  exact ofSymbol_of_ends spelled ends

theorem ofSpelling?_eq_none {word : String} (free : ∀ keyword : Keyword, keyword.spelling ≠ word) :
    Keyword.ofSpelling? word = none := by
  cases found : Keyword.ofSpelling? word with
  | none => rfl
  | some keyword => exact absurd (Keyword.spelling_of_ofSpelling? found) (free keyword)

theorem wordToken_spelling (keyword : Keyword) :
    wordToken currencies keyword.spelling = .keyword keyword := by
  rw [wordToken, Keyword.ofSpelling?_spelling]

theorem wordToken_of_mem {word : String} (free : ∀ keyword : Keyword, keyword.spelling ≠ word)
    (listed : word ∈ currencies) : wordToken currencies word = .currency word := by
  rw [wordToken, ofSpelling?_eq_none free]
  exact if_pos (List.contains_iff_mem.mpr listed)

theorem wordToken_of_not_mem {word : String} (free : ∀ keyword : Keyword, keyword.spelling ≠ word)
    (unlisted : word ∉ currencies) : wordToken currencies word = .name word := by
  rw [wordToken, ofSpelling?_eq_none free]
  exact if_neg (unlisted ∘ List.contains_iff_mem.mp)

theorem take_word {word : String} (spelled : word.toList = first :: taken)
    (isWord : IsWord word.toList) (ends : ∀ character ∈ rest.head?, ¬ isWordPart character) :
    take currencies first (taken ++ rest) =
      ⟨.ok (wordToken currencies word), first :: taken, rest⟩ := by
  rw [spelled] at isWord
  rw [take_of_isWord isWord ends, ← spelled, String.ofList_toList]

theorem take_comment {content : List Char} (oneLine : '\n' ∉ content)
    (ends : ∀ character ∈ rest.head?, character = '\n') :
    take currencies '#' (content ++ rest) =
      ⟨.ok (.comment (String.ofList content)), '#' :: content, rest⟩ := by
  have all : content.all (· != '\n') := by
    rw [List.all_eq_true]
    intro character member
    rw [bne_iff_ne]
    rintro rfl
    exact oneLine member
  have stops : ∀ character ∈ rest.head?, ¬ (character != '\n') := by
    intro character next
    simpa using ends character next
  change ofComment (content ++ rest) = _
  rw [ofComment, takeWhile_append_of_stops all stops, dropWhile_append_of_stops all stops]

theorem take_of_cut {token : Token} (cut : token.CutFrom currencies (first :: taken) rest) :
    take currencies first (taken ++ rest) = ⟨.ok token, first :: taken, rest⟩ := by
  rcases cut with ⟨written, ends⟩
  rcases equal : first :: taken with characters
  rw [equal] at written
  cases written with
  | int numeral value =>
      subst equal
      exact take_int numeral value ends
  | @float number whole fraction numeral digits value finite =>
      cases whole with
      | nil => exact absurd rfl numeral.filled
      | cons digit others =>
          cases equal
          exact take_float numeral digits value finite ends
  | @string written content escapes =>
      cases equal
      change ofString _ = _
      rw [List.append_assoc, List.singleton_append, ofString, quotation_of_escapes escapes]
  | @name word isWord free unlisted =>
      rw [take_word equal.symm isWord ends, wordToken_of_not_mem free unlisted, equal]
  | @currency id isWord free listed =>
      rw [take_word equal.symm isWord ends, wordToken_of_mem free listed, equal]
  | keyword keyword =>
      rw [take_word equal.symm keyword.isWord_spelling ends, wordToken_spelling, equal]
  | symbol mark =>
      rw [take_symbol equal.symm ends, equal]
  | comment oneLine =>
      cases equal
      rw [take_comment oneLine ends, String.ofList_toList]

end Lexeme

end Ducat
