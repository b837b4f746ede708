import Ducat.Proofs.Token.Insertion

/-! Where strings and comments begin and end in a text, said character by character. Main statement:
a word that stands in neither of them, and in no longer word, is read as one token, unless there is
a fault in front of it. -/

namespace Ducat

inductive Region where
  | code
  | string
  /-- Behind a backslash in a string. -/
  | escape
  | comment
deriving DecidableEq, Repr

namespace Region

def next : Region → Char → Region
  | code, character =>
      if character = '"' then string else if character = '#' then comment else code
  | string, character =>
      if character = '"' then code else if character = '\\' then escape else string
  | escape, _ => string
  | comment, character => if character = '\n' then code else comment

def behind (region : Region) (characters : List Char) : Region := characters.foldl next region

theorem behind_cons (region : Region) (first : Char) (rest : List Char) :
    region.behind (first :: rest) = (region.next first).behind rest := rfl

theorem behind_append (region : Region) (first second : List Char) :
    region.behind (first ++ second) = (region.behind first).behind second :=
  List.foldl_append

theorem code_behind_eq_code {characters : List Char}
    (plain : ∀ character ∈ characters, character ≠ '"' ∧ character ≠ '#') :
    code.behind characters = code := by
  induction characters with
  | nil => rfl
  | cons first rest induction =>
      rw [List.forall_mem_cons] at plain
      have kept : code.next first = code := by rw [next, if_neg plain.1.1, if_neg plain.1.2]
      rw [behind_cons, kept]
      exact induction plain.2

theorem comment_behind_eq_comment {characters : List Char} (oneLine : '\n' ∉ characters) :
    comment.behind characters = comment := by
  induction characters with
  | nil => rfl
  | cons first rest induction =>
      rw [List.mem_cons, not_or] at oneLine
      have kept : comment.next first = comment := if_neg (Ne.symm oneLine.1)
      rw [behind_cons, kept]
      exact induction oneLine.2

theorem string_next_eq_string {character : Char} (noQuote : character ≠ '"')
    (noEscape : character ≠ '\\') : string.next character = string := by
  rw [next, if_neg noQuote, if_neg noEscape]

theorem string_behind_of_escapes {written content : List Char} (escapes : Escapes written content) :
    string.behind written = string := by
  induction escapes with
  | nil => rfl
  | plain noQuote noEscape _ induction =>
      rw [behind_cons, string_next_eq_string noQuote noEscape]
      exact induction
  | escaped character _ induction => exact induction

theorem string_behind_ne_code {front rest content : List Char}
    (escapes : Escapes (front ++ rest) content) : string.behind front ≠ code := by
  generalize split : front ++ rest = written at escapes
  induction escapes generalizing front with
  | nil =>
      rw [(List.append_eq_nil_iff.mp split).1]
      decide
  | plain noQuote noEscape _ induction =>
      cases front with
      | nil => decide
      | cons first front =>
          cases split
          rw [behind_cons, string_next_eq_string noQuote noEscape]
          exact induction rfl
  | escaped character _ induction =>
      rcases front with _ | ⟨first, _ | ⟨second, front⟩⟩
      · decide
      · cases split
        decide
      · rw [List.cons_append, List.cons_append, List.cons_eq_cons, List.cons_eq_cons] at split
        rcases split with ⟨rfl, rfl, split⟩
        have inside : string.behind front ≠ code := induction split
        exact inside

theorem ne_code_of_string {front rest written content : List Char}
    (escapes : Escapes written content) (split : front ++ rest = '"' :: (written ++ ['"']))
    (opened : front ≠ []) (unclosed : rest ≠ []) : code.behind front ≠ code := by
  cases front with
  | nil => exact absurd rfl opened
  | cons quote front =>
      rw [List.cons_append, List.cons_eq_cons] at split
      rcases split with ⟨rfl, split⟩
      change string.behind front ≠ code
      rcases List.append_eq_append_iff.mp split with ⟨more, rfl, _⟩ | ⟨more, rfl, last⟩
      · exact string_behind_ne_code escapes
      · rcases List.singleton_eq_append_iff.mp last with ⟨rfl, _⟩ | ⟨_, nothing⟩
        · rw [← List.append_nil written] at escapes
          rw [List.append_nil]
          exact string_behind_ne_code escapes
        · exact absurd nothing unclosed

theorem ne_code_of_comment {front rest content : List Char} (oneLine : '\n' ∉ content)
    (split : front ++ rest = '#' :: content) (opened : front ≠ []) :
    code.behind front ≠ code := by
  cases front with
  | nil => exact absurd rfl opened
  | cons mark front =>
      rw [List.cons_append, List.cons_eq_cons] at split
      rcases split with ⟨rfl, rfl⟩
      rw [List.mem_append, not_or] at oneLine
      change comment.behind front ≠ code
      rw [comment_behind_eq_comment oneLine.1]
      decide

end Region

theorem ne_of_isWordPart {character : Char} (part : isWordPart character) :
    character ≠ '"' ∧ character ≠ '#' := by
  constructor <;>
    · rintro rfl
      cases part

theorem ne_of_isDigit {character : Char} (digit : character.isDigit) :
    character ≠ '"' ∧ character ≠ '#' := by
  constructor <;>
    · rintro rfl
      cases digit

namespace Token

variable {currencies : List String} {token : Token}

theorem WrittenAs.code_behind {lexeme : List Char} (written : token.WrittenAs currencies lexeme)
    (noComment : token.kind ≠ .comment) : Region.code.behind lexeme = .code := by
  have ofDigits : ∀ digits : List Char, digits.all Char.isDigit →
      ∀ character ∈ digits, character ≠ '"' ∧ character ≠ '#' := by
    intro digits all character member
    exact ne_of_isDigit (List.all_eq_true.mp all character member)
  have ofWord : ∀ {word : List Char}, IsWord word → Region.code.behind word = .code := by
    intro word isWord
    apply Region.code_behind_eq_code
    exact fun character member => ne_of_isWordPart (List.all_eq_true.mp isWord.parts _ member)
  cases written with
  | int numeral => exact Region.code_behind_eq_code (ofDigits _ numeral.digits)
  | float numeral digits =>
      apply Region.code_behind_eq_code
      rw [List.forall_mem_append, List.forall_mem_cons]
      exact ⟨ofDigits _ numeral.digits, by decide, ofDigits _ digits⟩
  | @string written content escapes =>
      change Region.string.behind (written ++ ['"']) = .code
      rw [Region.behind_append, Region.string_behind_of_escapes escapes]
      rfl
  | name isWord => exact ofWord isWord
  | currency isWord => exact ofWord isWord
  | keyword keyword => exact ofWord keyword.isWord_spelling
  | symbol mark => cases mark <;> rfl
  | comment => exact absurd rfl noComment

/-- Where a word could begin behind the first character of a token, there is no code, or a part of
a word in front. -/
theorem WrittenAs.exists_isWordPart {front behind : List Char} {first : Char}
    (written : token.WrittenAs currencies (front ++ first :: behind)) (inside : front ≠ [])
    (start : isWordStart first) (code : Region.code.behind front = .code) :
    ∃ character ∈ front.getLast?, isWordPart character := by
  have ofWord : IsWord (front ++ first :: behind) →
      ∃ character ∈ front.getLast?, isWordPart character := by
    intro isWord
    have parts := isWord.parts
    rw [List.all_append, Bool.and_eq_true] at parts
    exact ⟨front.getLast inside, List.getLast?_eq_some_getLast inside,
      List.all_eq_true.mp parts.1 _ (List.getLast_mem inside)⟩
  have noDigit : ∀ digits : List Char, digits.all Char.isDigit → first ∉ digits := by
    intro digits all member
    rw [isWordStart_of_isDigit (List.all_eq_true.mp all first member)] at start
    cases start
  have here : first ∈ front ++ first :: behind :=
    List.mem_append_right _ List.mem_cons_self
  generalize whole : front ++ first :: behind = lexeme at written here ofWord
  cases written with
  | int numeral => exact absurd here (noDigit _ numeral.digits)
  | float numeral digits =>
      rcases List.mem_append.mp here with member | member
      · exact absurd member (noDigit _ numeral.digits)
      rcases List.mem_cons.mp member with rfl | member
      · cases start
      · exact absurd member (noDigit _ digits)
  | string escapes =>
      exact absurd code (Region.ne_code_of_string escapes whole inside (List.cons_ne_nil _ _))
  | name isWord => exact ofWord isWord
  | currency isWord => exact ofWord isWord
  | keyword keyword => exact ofWord keyword.isWord_spelling
  | symbol mark =>
      have marks : ∀ mark ∈ Symbol.all,
          mark.spelling.toList.all fun other => !isWordStart other := by decide +kernel
      have other := List.all_eq_true.mp (marks mark mark.mem_all) first here
      rw [start] at other
      cases other
  | comment oneLine => exact absurd code (Region.ne_code_of_comment oneLine whole inside)

end Token

theorem exists_behind_blanks {front behind blanks rest : List Char}
    (split : front ++ behind = blanks ++ rest) (blank : blanks.all isBlank)
    (filled : ¬ front.all isBlank) :
    ∃ inner, inner ≠ [] ∧ front = blanks ++ inner ∧ rest = inner ++ behind := by
  rcases List.append_eq_append_iff.mp split with ⟨more, rfl, _⟩ | ⟨inner, rfl, same⟩
  · rw [List.all_append, Bool.and_eq_true] at blank
    exact absurd blank.1 filled
  · refine ⟨inner, ?_, rfl, same⟩
    rintro rfl
    rw [List.append_nil] at filled
    exact filled blank

/-- What stands between the two parts of a text, the first of which begins in the region, lies in
code and has no part of a word next to it. -/
structure StandsFree (region : Region) (front behind : List Char) : Prop where
  code : region.behind front = .code
  begins : ∀ character ∈ front.getLast?, ¬ isWordPart character
  ends : ∀ character ∈ behind.head?, ¬ isWordPart character

theorem StandsFree.further {region : Region} {front further behind : List Char}
    (free : StandsFree region (front ++ further) behind) :
    StandsFree (region.behind front) further behind := by
  refine ⟨?_, ?_, free.ends⟩
  · rw [← Region.behind_append]
    exact free.code
  · intro character last
    apply free.begins character
    rw [List.getLast?_append, Option.mem_def.mp last]
    rfl

def Region.Settles (region : Region) (text : List Char) : Prop :=
  region = .code ∨ region = .comment ∧ ∀ character ∈ text.head?, character = '\n'

theorem Region.Settles.behind_blanks {region : Region} {blanks lexeme rest : List Char}
    (settles : region.Settles (blanks ++ (lexeme ++ rest))) (blank : blanks.all isBlank)
    (begins : ∃ first taken, lexeme = first :: taken ∧ isBlank first = false) :
    region.behind blanks = .code := by
  have plain : ∀ others : List Char, others.all isBlank →
      ∀ character ∈ others, character ≠ '"' ∧ character ≠ '#' := by
    intro others all character member
    have own := List.all_eq_true.mp all character member
    exact ⟨ne_of_isBlank own (by decide), ne_of_isBlank own (by decide)⟩
  rcases settles with rfl | ⟨rfl, onLine⟩
  · exact code_behind_eq_code (plain blanks blank)
  · cases blanks with
    | nil =>
        rcases begins with ⟨first, taken, rfl, noBlank⟩
        cases onLine first rfl
        cases noBlank
    | cons first others =>
        cases onLine first rfl
        rw [List.all_cons, Bool.and_eq_true] at blank
        exact code_behind_eq_code (plain others blank.2)

namespace Token

variable {currencies : List String} {token : Token} {lexeme rest : List Char}

theorem CutFrom.settles (cut : token.CutFrom currencies lexeme rest) :
    (Region.code.behind lexeme).Settles rest := by
  by_cases comment : token.kind = .comment
  · rcases cut with ⟨written, ends⟩
    cases written <;> cases comment
    next oneLine => exact .inr ⟨Region.comment_behind_eq_comment oneLine, ends⟩
  · exact .inl (cut.written.code_behind comment)

theorem WrittenAs.exists_further {front word behind : List Char}
    (written : token.WrittenAs currencies lexeme) (filled : front ≠ [])
    (split : front ++ (word ++ behind) = lexeme ++ rest) (isWord : IsWord word)
    (free : StandsFree .code front behind) :
    ∃ further, front = lexeme ++ further ∧ rest = further ++ (word ++ behind) := by
  rcases List.append_eq_append_iff.mp split with ⟨more, rfl, same⟩ | further
  · cases more with
    | nil =>
        rw [List.append_nil]
        exact ⟨[], (List.append_nil front).symm, same.symm⟩
    | cons first others =>
        cases word with
        | nil => cases isWord.start
        | cons start parts =>
            rw [List.cons_append, List.cons_append, List.cons_eq_cons] at same
            rcases same with ⟨rfl, _⟩
            rcases written.exists_isWordPart filled isWord.start free.code with
              ⟨character, last, part⟩
            exact absurd part (free.begins character last)
  · exact further

end Token

namespace TokenList

variable {currencies : List String} {list : TokenList} {before front lexeme behind : List Char}
  {token : Token}

def FailsBefore (list : TokenList) (place : Position) : Prop :=
  ∃ error, list.ending = .error error ∧ error.position.Before place

/-- The tokens divide a text so that exactly the given lexeme is read as one of them. In front of
the list stands `before`, and between it and the lexeme stands `front`. -/
def HasSegment (currencies : List String) (before : List Char) (list : TokenList)
    (front lexeme behind : List Char) (token : Token) : Prop :=
  ∃ earlier segment later rest,
    list.Divides currencies before (earlier ++ segment :: later) rest ∧
      front = earlier.flatMap Segment.characters ++ segment.blanks ∧
      segment.lexeme = lexeme ∧ segment.token.token = token ∧
      behind = later.flatMap Segment.characters ++ rest

theorem collect_word_of_blanks {steps : Nat} {cursor : Cursor} {word : List Char}
    (enough : cursor.rest.length < steps + 1)
    (placed : cursor.position = Position.ofFront before)
    (split : cursor.rest = front ++ (word ++ behind)) (blank : front.all isBlank)
    (isWord : IsWord word) (ends : ∀ character ∈ behind.head?, ¬ isWordPart character) :
    HasSegment currencies before (collect currencies (steps + 1) cursor) front word behind
      (Lexeme.wordToken currencies (String.ofList word)) := by
  have cut : (Lexeme.wordToken currencies (String.ofList word)).CutFrom currencies word behind :=
    Lexeme.wordToken_cut isWord ends
  have read := Cursor.nextToken_of_cut blank cut cursor.position
  rw [List.append_assoc, ← split] at read
  have shorter := Cursor.nextToken_rest_length_lt read cut.written.kind_ne_endOfText
  have nextPlaced : (cursor.position.advanceOver front).advanceOver word =
      Position.ofFront (before ++ (front ++ word)) := by
    rw [← Position.advanceOver_append, placed, Position.advanceOver_ofFront]
  rcases collect_divides (Nat.lt_of_lt_of_le shorter (Nat.le_of_lt_succ enough)) nextPlaced with
    ⟨segments, rest, left, divides⟩
  have filled : word ≠ [] := by
    rintro rfl
    cases isWord.start
  exact ⟨[], _, segments, rest, divides.collect_succ read placed blank filled cut left, rfl, rfl,
    rfl, left⟩

theorem HasSegment.behind_token {steps : Nat} {cursor next : Cursor} {first : Token}
    {blanks taken : List Char}
    (found : HasSegment currencies (before ++ (blanks ++ taken)) (collect currencies steps next)
      front lexeme behind token)
    (read : cursor.nextToken currencies =
      (.ok ⟨first, cursor.position.advanceOver blanks⟩, next))
    (placed : cursor.position = Position.ofFront before) (blank : blanks.all isBlank)
    (filled : taken ≠ []) (cut : first.CutFrom currencies taken next.rest)
    (left : next.rest = front ++ (lexeme ++ behind)) :
    HasSegment currencies before (collect currencies (steps + 1) cursor)
      (blanks ++ (taken ++ front)) lexeme behind token := by
  rcases found with ⟨earlier, segment, later, rest, divides, rfl, rfl, rfl, rfl⟩
  refine ⟨_ :: earlier, segment, later, rest,
    divides.collect_succ read placed blank filled cut ?_, ?_, rfl, rfl, rfl⟩
  · simpa [Segment.characters] using left
  · simp [Segment.characters]

theorem collect_word {steps : Nat} {cursor : Cursor} {word : List Char} {region : Region}
    (enough : cursor.rest.length < steps)
    (placed : cursor.position = Position.ofFront before)
    (split : cursor.rest = front ++ (word ++ behind)) (isWord : IsWord word)
    (free : StandsFree region front behind) (settles : region.Settles cursor.rest) :
    (collect currencies steps cursor).FailsBefore (Position.ofFront (before ++ front)) ∨
      HasSegment currencies before (collect currencies steps cursor) front word behind
        (Lexeme.wordToken currencies (String.ofList word)) := by
  -- The induction is on the steps in which the list is collected. It goes from one token to the
  -- next, of which only a comment can end in another region than it began.
  induction steps generalizing cursor before front region with
  | zero => omega
  | succ steps induction =>
      by_cases here : front.all isBlank
      · exact .inr (collect_word_of_blanks enough placed split here isWord free.ends)
      have finds := cursor.finds_nextToken currencies
      generalize read : cursor.nextToken currencies = result at finds
      cases finds with
      | endOfText blank =>
          rw [split, List.all_append, Bool.and_eq_true] at blank
          exact absurd blank.1 here
      | fault other blank noBlank =>
          rcases exists_behind_blanks (split.symm.trans other) blank here with
            ⟨inner, filled, rfl, _⟩
          left
          refine ⟨_, congrArg TokenList.ending (collect_succ_of_error steps read), ?_⟩
          rw [← Position.advanceOver_ofFront, Position.advanceOver_append, ← placed]
          exact Position.before_advanceOver filled _
      | @token blanks lexeme rest token other blank lexemeFilled cut =>
          rw [List.append_assoc] at other
          rcases exists_behind_blanks (split.symm.trans other) blank here with
            ⟨inner, filled, rfl, same⟩
          rw [other] at settles
          have code := settles.behind_blanks blank cut.written.exists_cons
          have innerFree := free.further
          rw [code] at innerFree
          rcases cut.written.exists_further filled same.symm isWord innerFree with
            ⟨further, rfl, rfl⟩
          have nextPlaced : cursor.position.advanceOver (blanks ++ lexeme) =
              Position.ofFront (before ++ (blanks ++ lexeme)) := by
            rw [placed, Position.advanceOver_ofFront]
          have shorter := Cursor.nextToken_rest_length_lt read cut.written.kind_ne_endOfText
          rcases induction (Nat.lt_of_lt_of_le shorter (Nat.le_of_lt_succ enough)) nextPlaced rfl
              innerFree.further cut.settles with fails | found
          · rcases fails with ⟨error, ended, earlier⟩
            left
            rw [collect_succ_of_token steps read cut.written.kind_ne_endOfText]
            refine ⟨error, ended, ?_⟩
            rwa [List.append_assoc, List.append_assoc] at earlier
          · right
            exact found.behind_token read placed blank lexemeFilled cut rfl

theorem ofText_word {text : String} {word : List Char}
    (split : text.toList = front ++ (word ++ behind)) (isWord : IsWord word)
    (free : StandsFree .code front behind) :
    (ofText currencies text).FailsBefore (Position.start.advanceOver front) ∨
      HasSegment currencies [] (ofText currencies text) front word behind
        (Lexeme.wordToken currencies (String.ofList word)) := by
  have placed : (Cursor.ofText text).position = Position.ofFront [] := rfl
  rw [Position.start_advanceOver]
  exact collect_word (Nat.lt_succ_self _) placed split isWord free (.inl rfl)

end TokenList

end Ducat
