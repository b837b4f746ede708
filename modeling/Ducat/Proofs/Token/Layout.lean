import Ducat.Proofs.Token.Cutting
import Ducat.Proofs.Token.Division

/-! A text in which the written forms of tokens follow each other, with blanks around them and each
form as long as it can be, is read as these tokens. -/

namespace Ducat

namespace CodePoints

def Apart (first second : CodePoints) : Prop :=
  ∀ left ∈ first, ∀ right ∈ second, left.2 < right.1 ∨ right.2 < left.1

theorem Apart.contains_eq_false {first second : CodePoints} (apart : first.Apart second)
    {character : Char} (inFirst : first.contains character) :
    second.contains character = false := by
  cases inSecond : second.contains character with
  | false => rfl
  | true =>
      rcases List.any_eq_true.mp inFirst with ⟨left, leftMember, inLeft⟩
      rcases List.any_eq_true.mp inSecond with ⟨right, rightMember, inRight⟩
      have between := apart left leftMember right rightMember
      simp only [Bool.and_eq_true, decide_eq_true_eq] at inLeft inRight
      omega

theorem wideBlanks_apart_wideLetters : Apart wideBlanks wideLetters := by
  unfold Apart
  decide +kernel

theorem wideBlanks_apart_wideNumerals : Apart wideBlanks wideNumerals := by
  unfold Apart
  decide +kernel

end CodePoints

theorem toNat_le_of_isBlank {character : Char} (blank : isBlank character)
    (ascii : character.toNat < 0x80) : character.toNat ≤ ' '.toNat := by
  rw [isBlank, if_pos ascii] at blank
  rcases Bool.or_eq_true_iff.mp blank with space | control
  · exact Nat.le_of_eq (congrArg Char.toNat (beq_iff_eq.mp space))
  · simp only [Bool.and_eq_true, decide_eq_true_eq] at control
    exact Nat.le_trans control.2 (by decide)

theorem isLetter_of_isBlank {character : Char} (blank : isBlank character) :
    isLetter character = false := by
  rw [isLetter]
  split
  next ascii =>
    apply isAlpha_eq_false_of_lt
    exact Nat.lt_of_le_of_lt (toNat_le_of_isBlank blank ascii) (by decide)
  next wide =>
    rw [isBlank, if_neg wide] at blank
    exact CodePoints.wideBlanks_apart_wideLetters.contains_eq_false blank

theorem ne_of_isBlank {character other : Char} (blank : isBlank character)
    (noBlank : isBlank other = false) : character ≠ other := by
  rintro rfl
  rw [blank] at noBlank
  cases noBlank

theorem isWordStart_of_isBlank {character : Char} (blank : isBlank character) :
    isWordStart character = false := by
  have noUnderscore : character ≠ '_' := ne_of_isBlank blank (by decide)
  simp [isWordStart, isLetter_of_isBlank blank, noUnderscore]

theorem isBlank_of_isWordStart {character : Char} (start : isWordStart character) :
    isBlank character = false := by
  cases blank : isBlank character with
  | false => rfl
  | true =>
      rw [isWordStart_of_isBlank blank] at start
      cases start

theorem isBlank_of_isDigit {character : Char} (digit : character.isDigit) :
    isBlank character = false := by
  cases blank : isBlank character with
  | false => rfl
  | true =>
      have last := toNat_le_of_isDigit digit
      simp only [Char.isDigit, Bool.and_eq_true, decide_eq_true_eq] at digit
      have first : '0'.toNat ≤ character.toNat := digit.1
      have ascii : character.toNat < 0x80 := Nat.lt_of_le_of_lt last (by decide)
      have between := Nat.le_trans first (toNat_le_of_isBlank blank ascii)
      exact absurd between (by decide)

theorem isWordPart_of_isBlank {character : Char} (blank : isBlank character) :
    isWordPart character = false := by
  have noUnderscore : character ≠ '_' := ne_of_isBlank blank (by decide)
  have noLetter := isLetter_of_isBlank blank
  have noNumeral : isAlphanumeric character = false := by
    rw [isAlphanumeric]
    split
    next ascii =>
      rw [isLetter, if_pos ascii] at noLetter
      cases digit : character.isDigit with
      | false => rw [Char.isAlphanum, noLetter, digit, Bool.or_false]
      | true =>
          rw [isBlank_of_isDigit digit] at blank
          cases blank
    next wide =>
      rw [isBlank, if_neg wide] at blank
      rw [noLetter, CodePoints.wideBlanks_apart_wideNumerals.contains_eq_false blank,
        Bool.or_false]
  simp [isWordPart, noNumeral, noUnderscore]

namespace Token

variable {currencies : List String}

theorem WrittenAs.exists_cons {token : Token} {characters : List Char}
    (written : token.WrittenAs currencies characters) :
    ∃ first taken, characters = first :: taken ∧ isBlank first = false := by
  have ofNumeral : ∀ {digits : List Char}, IsNumeral digits → ∀ more,
      ∃ first taken, digits ++ more = first :: taken ∧ isBlank first = false := by
    intro digits numeral more
    cases digits with
    | nil => exact absurd rfl numeral.filled
    | cons first others =>
        have digit := List.all_eq_true.mp numeral.digits first (List.mem_cons_self ..)
        exact ⟨first, others ++ more, rfl, isBlank_of_isDigit digit⟩
  have ofWord : ∀ {word : List Char}, IsWord word →
      ∃ first taken, word = first :: taken ∧ isBlank first = false := by
    intro word isWord
    cases word with
    | nil => cases isWord.start
    | cons first others => exact ⟨first, others, rfl, isBlank_of_isWordStart isWord.start⟩
  cases written with
  | int numeral =>
      rw [← List.append_nil characters]
      exact ofNumeral numeral []
  | float numeral => exact ofNumeral numeral _
  | string => exact ⟨'"', _, rfl, by decide⟩
  | name isWord => exact ofWord isWord
  | currency isWord => exact ofWord isWord
  | keyword keyword => exact ofWord keyword.isWord_spelling
  | symbol mark => cases mark <;> exact ⟨_, _, rfl, by decide⟩
  | comment => exact ⟨'#', _, rfl, by decide⟩

/-- No token but a comment goes on behind a blank, or behind the first character of a comment. -/
theorem endsBefore_of_separator {token : Token} {next : Option Char}
    (separated : ∀ character ∈ next, isBlank character ∨ character = '#')
    (noComment : token.kind ≠ .comment) : token.EndsBefore next := by
  have apart : ∀ other, isBlank other = false → other ≠ '#' → ∀ character ∈ next,
      character ≠ other := by
    intro other noBlank noMark character member
    rcases separated character member with blank | rfl
    · exact ne_of_isBlank blank noBlank
    · exact noMark.symm
  have noDigit : ∀ character ∈ next, ¬ character.isDigit := by
    intro character member digit
    exact apart character (isBlank_of_isDigit digit) (by rintro rfl; cases digit) _ member rfl
  have noWord : ∀ character ∈ next, ¬ isWordPart character := by
    intro character member
    rcases separated character member with blank | rfl
    · simp [isWordPart_of_isBlank blank]
    · decide
  cases token with
  | int =>
      intro character member
      exact ⟨noDigit character member, apart '.' (by decide) (by decide) character member⟩
  | float => exact noDigit
  | name | currency | keyword => exact noWord
  | symbol mark =>
      have marks : ∀ longer ∈ Symbol.all,
          longer.spelling.toList.all fun other => !isBlank other && other != '#' := by decide
      intro character member longer equal
      have last : character ∈ longer.spelling.toList := by
        rw [equal]
        exact List.mem_append_right _ (List.mem_singleton_self _)
      have plain : isBlank character = false ∧ character ≠ '#' := by
        simpa using List.all_eq_true.mp (marks longer longer.mem_all) character last
      exact apart character plain.1 plain.2 character member rfl
  | comment => exact absurd rfl noComment
  | string | endOfText => trivial

/-- No token but a comment goes on behind a space or a line break, and no comment goes on behind a
line break. -/
theorem endsBefore_of_space {token : Token} {next : Option Char}
    (spaced : ∀ character ∈ next, character = ' ' ∨ character = '\n')
    (onLine : token.kind = .comment → ∀ character ∈ next, character = '\n') :
    token.EndsBefore next := by
  have blanks : isBlank ' ' ∧ isBlank '\n' := by decide
  by_cases comment : token.kind = .comment
  · cases token with
    | comment => exact onLine rfl
    | _ => cases comment
  · apply endsBefore_of_separator _ comment
    intro character member
    rcases spaced character member with rfl | rfl
    · exact .inl blanks.1
    · exact .inl blanks.2

/-- The written forms of the tokens follow each other in a text, with blanks around them. -/
inductive LaidOut (currencies : List String) : List Token → List Char → Prop where
  | nil {blanks : List Char} (blank : blanks.all isBlank) : LaidOut currencies [] blanks
  | cons {token : Token} {tokens : List Token} {blanks lexeme rest : List Char}
      (blank : blanks.all isBlank) (cut : token.CutFrom currencies lexeme rest)
      (behind : LaidOut currencies tokens rest) :
      LaidOut currencies (token :: tokens) (blanks ++ lexeme ++ rest)

namespace LaidOut

variable {tokens more : List Token} {characters further : List Char}

theorem behind_blanks (laidOut : LaidOut currencies tokens characters) {blanks : List Char}
    (blank : blanks.all isBlank) : LaidOut currencies tokens (blanks ++ characters) := by
  cases laidOut with
  | nil blankBehind =>
      apply LaidOut.nil
      rw [List.all_append, blank, blankBehind, Bool.and_true]
  | cons blankBehind cut behind =>
      rw [List.append_assoc, ← List.append_assoc blanks, ← List.append_assoc]
      apply LaidOut.cons _ cut behind
      rw [List.all_append, blank, blankBehind, Bool.and_true]

theorem append (laidOut : LaidOut currencies tokens characters)
    (behind : LaidOut currencies more further)
    (ends : ∀ token ∈ tokens, token.EndsBefore further.head?) :
    LaidOut currencies (tokens ++ more) (characters ++ further) := by
  induction laidOut with
  | nil blank => exact behind.behind_blanks blank
  | @cons token tokens blanks lexeme rest blank cut _ induction =>
      rw [List.forall_mem_cons] at ends
      rw [List.append_assoc]
      apply LaidOut.cons blank _ (induction ends.2)
      constructor
      · exact cut.written
      · cases rest with
        | nil => exact ends.1
        | cons first others => exact cut.ends

end LaidOut

end Token

namespace Cursor

variable {currencies : List String}

theorem skip_of_blanks {blanks rest : List Char} (blank : blanks.all isBlank)
    (stops : ∀ character ∈ rest.head?, ¬ isBlank character) (position : Position) :
    skip ⟨blanks ++ rest, position⟩ isBlank = ⟨rest, position.advanceOver blanks⟩ := by
  rw [skip, moveOver, takeWhile_append_of_stops blank stops, dropWhile_append_of_stops blank stops]

theorem nextToken_of_blanks {blanks : List Char} (blank : blanks.all isBlank)
    (position : Position) :
    nextToken currencies ⟨blanks, position⟩ =
      (.ok ⟨.endOfText, position.advanceOver blanks⟩, ⟨[], position.advanceOver blanks⟩) := by
  have skipped : skip ⟨blanks ++ [], position⟩ isBlank = ⟨[], position.advanceOver blanks⟩ :=
    skip_of_blanks blank (by simp) position
  rw [List.append_nil] at skipped
  rw [nextToken, skipped]

theorem nextToken_of_cut {token : Token} {blanks lexeme rest : List Char}
    (blank : blanks.all isBlank) (cut : token.CutFrom currencies lexeme rest)
    (position : Position) :
    nextToken currencies ⟨blanks ++ lexeme ++ rest, position⟩ =
      (.ok ⟨token, position.advanceOver blanks⟩,
        ⟨rest, (position.advanceOver blanks).advanceOver lexeme⟩) := by
  rcases cut.written.exists_cons with ⟨first, taken, rfl, noBlank⟩
  have stops : ∀ character ∈ (first :: taken ++ rest).head?, ¬ isBlank character := by
    intro character next
    cases next
    simp [noBlank]
  rw [nextToken, List.append_assoc, skip_of_blanks blank stops]
  dsimp only [List.cons_append]
  rw [Lexeme.take_of_cut cut]
  rfl

end Cursor

namespace TokenList

theorem collect_of_laidOut {currencies : List String} {tokens : List Token}
    {characters : List Char} (laidOut : Token.LaidOut currencies tokens characters) {steps : Nat}
    (enough : characters.length < steps) (position : Position) :
    (collect currencies steps ⟨characters, position⟩).tokens.map PlacedToken.token = tokens ∧
      ∃ last, (collect currencies steps ⟨characters, position⟩).ending = .ok last := by
  induction laidOut generalizing steps position with
  | nil blank =>
      rcases steps with _ | steps
      · cases enough
      · rw [collect_succ_of_end steps (Cursor.nextToken_of_blanks blank position) rfl]
        exact ⟨rfl, _, rfl⟩
  | cons blank cut _ induction =>
      rcases steps with _ | steps
      · cases enough
      · have read := Cursor.nextToken_of_cut blank cut position
        have inside := cut.written.kind_ne_endOfText
        have shorter := Cursor.nextToken_rest_length_lt read inside
        have fewer := Nat.lt_of_lt_of_le shorter (Nat.le_of_lt_succ enough)
        rw [collect_succ_of_token steps read inside]
        rcases induction fewer _ with ⟨same, complete⟩
        exact ⟨congrArg _ same, complete⟩

theorem ofText_of_laidOut {currencies : List String} {tokens : List Token} {text : String}
    (laidOut : Token.LaidOut currencies tokens text.toList) :
    (ofText currencies text).tokens.map PlacedToken.token = tokens ∧
      ∃ last, (ofText currencies text).ending = .ok last :=
  collect_of_laidOut laidOut (Nat.lt_succ_self _) _

end TokenList

end Ducat
