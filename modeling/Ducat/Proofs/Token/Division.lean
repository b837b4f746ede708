import Ducat.Proofs.Token.Form
import Ducat.Proofs.Token.Place
import Ducat.Proofs.Token.Stepwise

/-! Main statement: the tokens of a text divide it into blanks and written forms, without a rest up
to its end or its first fault, and their places count the lines and the characters in front of
these forms. -/

namespace Ducat

/-- A piece of a text: blanks, and behind them what is read as one token. -/
structure Segment where
  blanks : List Char
  lexeme : List Char
  token : PlacedToken

namespace Segment

def characters (segment : Segment) : List Char := segment.blanks ++ segment.lexeme

/-- The segment is one of a text in which `before` stands in front of it and `behind` follows. -/
structure Stands (currencies : List String) (before : List Char) (segment : Segment)
    (behind : List Char) : Prop where
  blank : segment.blanks.all isBlank
  filled : segment.lexeme ≠ []
  written : segment.token.token.WrittenAs currencies segment.lexeme
  ends : segment.token.token.EndsBefore behind.head?
  position : segment.token.position = Position.ofFront (before ++ segment.blanks)

end Segment

namespace TokenList

/-- Behind the last token either only blanks are left, or blanks and a first character at which
the fault is found. -/
def EndsAt (before rest : List Char) : Except LexError Position → Prop
  | .ok position => rest.all isBlank ∧ position = Position.ofFront (before ++ rest)
  | .error error => ∃ blanks first behind, rest = blanks ++ first :: behind ∧ blanks.all isBlank ∧
      ¬ isBlank first ∧ error.position = Position.ofFront (before ++ blanks)

/-- The tokens of the list are those of the segments, behind which `rest` is left. The segments
follow `before`. -/
structure Divides (currencies : List String) (before : List Char) (list : TokenList)
    (segments : List Segment) (rest : List Char) : Prop where
  tokens : list.tokens = segments.map Segment.token
  stands : ∀ earlier segment later, segments = earlier ++ segment :: later →
    segment.Stands currencies (before ++ earlier.flatMap Segment.characters)
      (later.flatMap Segment.characters ++ rest)
  ending : EndsAt (before ++ segments.flatMap Segment.characters) rest list.ending

end TokenList

namespace Cursor

inductive Finds (currencies : List String) (cursor : Cursor) :
    Except LexError PlacedToken × Cursor → Prop where
  | endOfText {next : Cursor} (blank : cursor.rest.all isBlank) :
      Finds currencies cursor
        (.ok ⟨.endOfText, cursor.position.advanceOver cursor.rest⟩, next)
  | token {blanks lexeme rest : List Char} {token : Token}
      (split : cursor.rest = blanks ++ lexeme ++ rest) (blank : blanks.all isBlank)
      (filled : lexeme ≠ []) (cut : token.CutFrom currencies lexeme rest) :
      Finds currencies cursor (.ok ⟨token, cursor.position.advanceOver blanks⟩,
        ⟨rest, cursor.position.advanceOver (blanks ++ lexeme)⟩)
  | fault {blanks behind : List Char} {first : Char} {fault : LexFault} {next : Cursor}
      (split : cursor.rest = blanks ++ first :: behind) (blank : blanks.all isBlank)
      (noBlank : ¬ isBlank first) :
      Finds currencies cursor (.error ⟨fault, cursor.position.advanceOver blanks⟩, next)

theorem finds_nextToken (currencies : List String) (cursor : Cursor) :
    cursor.Finds currencies (cursor.nextToken currencies) := by
  have split := List.takeWhile_append_dropWhile (p := isBlank) (l := cursor.rest)
  have blank : (cursor.rest.takeWhile isBlank).all isBlank := List.all_takeWhile
  rw [nextToken, skip, moveOver]
  generalize cursor.rest.takeWhile isBlank = blanks at split blank
  cases left : cursor.rest.dropWhile isBlank with
  | nil =>
      rw [left, List.append_nil] at split
      subst split
      exact .endOfText blank
  | cons first rest =>
      have noBlank : ¬ isBlank first := not_of_mem_head?_dropWhile (by rw [left]; rfl)
      rw [left] at split
      dsimp only [moveOver]
      rw [← Position.advanceOver_append]
      cases outcome : (Lexeme.take currencies first rest).outcome with
      | error fault => exact .fault split.symm blank noBlank
      | ok token =>
          have taken := Lexeme.taken_append_rest currencies first rest
          apply Finds.token _ blank (Lexeme.take_taken_ne_nil outcome) (Lexeme.take_cut outcome)
          rw [List.append_assoc, taken]
          exact split.symm

end Cursor

namespace TokenList

variable {currencies : List String}

theorem Divides.cons {before rest : List Char} {segment : Segment} {segments : List Segment}
    {list : TokenList}
    (stands : segment.Stands currencies before (segments.flatMap Segment.characters ++ rest))
    (behind : list.Divides currencies (before ++ segment.characters) segments rest) :
    Divides currencies before ⟨segment.token :: list.tokens, list.ending⟩
      (segment :: segments) rest := by
  have together : ∀ others : List Segment,
      before ++ (segment :: others).flatMap Segment.characters =
        before ++ segment.characters ++ others.flatMap Segment.characters := by
    intro others
    rw [List.flatMap_cons, List.append_assoc]
  refine ⟨congrArg _ behind.tokens, ?_, ?_⟩
  · intro earlier other later equal
    rcases List.cons_eq_append_iff.mp equal with ⟨rfl, same⟩ | ⟨others, rfl, same⟩
    · cases same
      simpa using stands
    · rw [together]
      exact behind.stands others other later same
  · rw [together]
    exact behind.ending

theorem Divides.collect_succ {steps : Nat} {cursor next : Cursor} {token : Token}
    {before blanks lexeme rest : List Char} {segments : List Segment}
    (behind : (collect currencies steps next).Divides currencies
      (before ++ (blanks ++ lexeme)) segments rest)
    (read : cursor.nextToken currencies =
      (.ok ⟨token, cursor.position.advanceOver blanks⟩, next))
    (placed : cursor.position = Position.ofFront before) (blank : blanks.all isBlank)
    (filled : lexeme ≠ []) (cut : token.CutFrom currencies lexeme next.rest)
    (left : next.rest = segments.flatMap Segment.characters ++ rest) :
    (collect currencies (steps + 1) cursor).Divides currencies before
      (⟨blanks, lexeme, ⟨token, cursor.position.advanceOver blanks⟩⟩ :: segments) rest := by
  rw [collect_succ_of_token steps read cut.written.kind_ne_endOfText]
  let segment : Segment := ⟨blanks, lexeme, ⟨token, cursor.position.advanceOver blanks⟩⟩
  have stands : segment.Stands currencies before
      (segments.flatMap Segment.characters ++ rest) := by
    refine ⟨blank, filled, cut.written, ?_, ?_⟩
    · rw [← left]
      exact cut.ends
    · rw [← Position.advanceOver_ofFront, ← placed]
  exact .cons stands behind

theorem collect_divides {steps : Nat} {cursor : Cursor} {before : List Char}
    (enough : cursor.rest.length < steps)
    (placed : cursor.position = Position.ofFront before) :
    ∃ segments rest, cursor.rest = segments.flatMap Segment.characters ++ rest ∧
      Divides currencies before (collect currencies steps cursor) segments rest := by
  -- The induction is on the steps in which the list is collected, over all places at which they can
  -- begin.
  induction steps generalizing cursor before with
  | zero => omega
  | succ steps induction =>
      have finds := cursor.finds_nextToken currencies
      generalize read : cursor.nextToken currencies = result at finds
      cases finds with
      | endOfText blank =>
          rw [collect_succ_of_end steps read rfl]
          refine ⟨[], cursor.rest, rfl, rfl, by simp, blank, ?_⟩
          simp [placed, Position.advanceOver_ofFront]
      | fault split blank noBlank =>
          rw [collect_succ_of_error steps read]
          refine ⟨[], cursor.rest, rfl, rfl, by simp, ?_⟩
          refine ⟨_, _, _, split, blank, noBlank, ?_⟩
          simp [placed, Position.advanceOver_ofFront]
      | @token blanks lexeme rest token split blank filled cut =>
          have positive := List.length_pos_iff.mpr filled
          have lengths := congrArg List.length split
          rw [List.length_append, List.length_append] at lengths
          let next : Cursor := ⟨rest, cursor.position.advanceOver (blanks ++ lexeme)⟩
          have shorter : next.rest.length < steps := by
            dsimp only [next]
            omega
          have nextPlaced : next.position = Position.ofFront (before ++ (blanks ++ lexeme)) := by
            rw [← Position.advanceOver_ofFront, ← placed]
          rcases induction shorter nextPlaced with ⟨segments, last, left, divides⟩
          refine ⟨_, last, ?_, divides.collect_succ read placed blank filled cut left⟩
          rw [split, List.flatMap_cons, List.append_assoc (Segment.characters _), ← left]
          rfl

theorem exists_divides (currencies : List String) (text : String) :
    ∃ segments rest, text.toList = segments.flatMap Segment.characters ++ rest ∧
      (ofText currencies text).Divides currencies [] segments rest :=
  collect_divides (Nat.lt_succ_self (Cursor.ofText text).rest.length) rfl

theorem exists_writtenAs_of_mem_ofText {text : String} {token : PlacedToken}
    (member : token ∈ (ofText currencies text).tokens) :
    ∃ characters, token.token.WrittenAs currencies characters := by
  rcases exists_divides currencies text with ⟨segments, rest, _, divides⟩
  rw [divides.tokens] at member
  rcases List.mem_map.mp member with ⟨segment, inside, rfl⟩
  rcases List.append_of_mem inside with ⟨earlier, later, split⟩
  exact ⟨segment.lexeme, (divides.stands earlier segment later split).written⟩

theorem listed_of_mem_ofText {text id : String} {token : PlacedToken}
    (member : token ∈ (ofText currencies text).tokens) (same : token.token = .currency id) :
    id ∈ currencies := by
  rcases exists_writtenAs_of_mem_ofText member with ⟨characters, written⟩
  rw [same] at written
  cases written with
  | currency _ _ listed => exact listed

end TokenList

namespace Lexer

def following (lexer : Lexer) : Except LexError Lexer :=
  match lexer.advance with
  | (.ok (), next) => .ok next
  | (.error error, _) => .error error

/-- Going from each token to the next one passes the tokens of a list, up to the end of the text
or to the fault that ends the list. -/
inductive Yields : Except LexError Lexer → TokenList → Prop where
  | fault (error : LexError) : Yields (.error error) ⟨[], .error error⟩
  | finished {lexer : Lexer} (atEnd : lexer.current.kind = .endOfText) :
      Yields (.ok lexer) ⟨[], .ok lexer.current.position⟩
  | further {lexer : Lexer} {tokens : List PlacedToken} {ending : Except LexError Position}
      (inside : lexer.current.kind ≠ .endOfText)
      (behind : Yields lexer.following ⟨tokens, ending⟩) :
      Yields (.ok lexer) ⟨lexer.current :: tokens, ending⟩

variable {currencies : List String} {cursor next : Cursor}

theorem Yields.of_error {steps : Nat} {error : LexError} (enough : cursor.rest.length < steps)
    (read : cursor.nextToken currencies = (.error error, next)) :
    Yields (.error error) (.collect currencies steps cursor) := by
  rcases steps with _ | steps
  · omega
  · rw [TokenList.collect_succ_of_error steps read]
    exact .fault error

theorem Yields.of_token {steps : Nat} {token : PlacedToken} (enough : cursor.rest.length < steps)
    (read : cursor.nextToken currencies = (.ok token, next)) :
    Yields (.ok ⟨currencies, next, token⟩) (.collect currencies steps cursor) := by
  induction steps generalizing cursor next token with
  | zero => omega
  | succ steps induction =>
      by_cases atEnd : token.kind = .endOfText
      · rw [TokenList.collect_succ_of_end steps read atEnd]
        exact .finished atEnd
      · have shorter := Cursor.nextToken_rest_length_lt read atEnd
        rw [TokenList.collect_succ_of_token steps read atEnd]
        apply Yields.further atEnd
        rw [following]
        rcases behind : next.nextToken currencies with ⟨_ | following, last⟩
        · rw [advance_of_error atEnd behind]
          exact .of_error (by omega) behind
        · rw [advance_of_token atEnd behind]
          exact induction (by omega) behind

theorem start_yields (currencies : List String) (text : String) :
    Yields (start currencies text) (.ofText currencies text) := by
  rw [start, TokenList.ofText]
  rcases read : (Cursor.ofText text).nextToken currencies with ⟨_ | token, next⟩
  · exact .of_error (Nat.lt_succ_self _) read
  · exact .of_token (Nat.lt_succ_self _) read

end Lexer

/-- A lexer passes tokens that, as they stand in the text, make up all of it but blanks, up to the
end of the text or to the first character that is no blank where no token could be read. Each place
is that of the first character of a token, the end or the fault, counted in lines and columns. -/
theorem tokens_divide_text (currencies : List String) (text : String) :
    Lexer.Yields (Lexer.start currencies text) (TokenList.ofText currencies text) ∧
      ∃ segments rest, text.toList = segments.flatMap Segment.characters ++ rest ∧
        (TokenList.ofText currencies text).Divides currencies [] segments rest :=
  ⟨Lexer.start_yields currencies text, TokenList.exists_divides currencies text⟩

/-- A number ends in front of a sign, and a point at its end belongs to it. A line break counts. -/
example : (TokenList.ofText [] "1.==\n=#").tokens.map PlacedToken.position =
    [⟨1, 1⟩, ⟨1, 3⟩, ⟨2, 1⟩, ⟨2, 2⟩] := by
  decide +kernel

end Ducat
