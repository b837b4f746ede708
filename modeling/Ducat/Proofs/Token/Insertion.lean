import Ducat.Proofs.Token.Layout

/-! Blanks and comments that are inserted directly in front of a token of a text, or at its end.
Main statement: apart from comments the tokens of the text stay as they are. -/

namespace Ducat

inductive IsFiller : List Char → Prop where
  | blanks {characters : List Char} (blank : characters.all isBlank) : IsFiller characters
  | comment {content : List Char} (oneLine : '\n' ∉ content) :
      IsFiller ('#' :: (content ++ ['\n']))

namespace IsFiller

variable {filler : List Char}

theorem separates (isFiller : IsFiller filler) :
    ∀ character ∈ filler.head?, isBlank character ∨ character = '#' := by
  cases isFiller with
  | blanks blank =>
      intro character member
      exact .inl (List.all_eq_true.mp blank character (List.mem_of_mem_head? member))
  | comment =>
      intro character member
      cases member
      exact .inr rfl

theorem exists_line (isFiller : IsFiller filler) :
    ∃ line rest, filler = line ++ rest ∧ '\n' ∉ line ∧ rest.all isBlank ∧
      ∀ character ∈ rest.head?, character = '\n' := by
  cases isFiller with
  | blanks blank =>
      refine ⟨filler.takeWhile (· != '\n'), filler.dropWhile (· != '\n'),
        List.takeWhile_append_dropWhile.symm, lineBreak_not_mem_takeWhile filler, ?_, ?_⟩
      · rw [List.all_eq_true] at blank ⊢
        intro character member
        exact blank character ((List.dropWhile_suffix _).subset member)
      · intro character next
        simpa using not_of_mem_head?_dropWhile next
  | @comment content oneLine =>
      refine ⟨'#' :: content, ['\n'], rfl, ?_, rfl, ?_⟩
      · simpa using oneLine
      · intro character next
        cases next
        rfl

end IsFiller

namespace Token

variable {currencies : List String} {tokens : List Token} {front behind filler : List Char}

def meant (tokens : List Token) : List Token :=
  tokens.filter fun token => token.kind != .comment

theorem meant_cons_congr (token : Token) {tokens others : List Token}
    (same : meant others = meant tokens) : meant (token :: others) = meant (token :: tokens) := by
  unfold meant at *
  rw [List.filter_cons, List.filter_cons, same]

theorem LaidOut.behind_filler {characters : List Char}
    (laidOut : LaidOut currencies tokens characters) (isFiller : IsFiller filler) :
    ∃ others, LaidOut currencies others (filler ++ characters) ∧ meant others = meant tokens := by
  cases isFiller with
  | blanks blank => exact ⟨tokens, laidOut.behind_blanks blank, rfl⟩
  | @comment content oneLine =>
      have ends : (comment (String.ofList content)).EndsBefore ('\n' :: characters).head? := by
        intro character next
        cases next
        rfl
      have noBlanks : ([] : List Char).all isBlank := rfl
      have lineBreak : ['\n'].all isBlank := by decide
      refine ⟨comment (String.ofList content) :: tokens, ?_, rfl⟩
      rw [List.cons_append, List.append_assoc]
      exact .cons noBlanks ⟨writtenAs_comment oneLine, ends⟩ (laidOut.behind_blanks lineBreak)

/-- The tokens are laid out in a text that is cut in two directly in front of one of them, or at
its end. -/
inductive LaidOutAround (currencies : List String) :
    List Token → List Char → List Char → Prop where
  | here {tokens : List Token} {blanks behind : List Char} (blank : blanks.all isBlank)
      (begins : ∀ character ∈ behind.head?, ¬ isBlank character)
      (laidOut : LaidOut currencies tokens behind) : LaidOutAround currencies tokens blanks behind
  | further {token : Token} {tokens : List Token} {blanks lexeme front behind : List Char}
      (blank : blanks.all isBlank) (cut : token.CutFrom currencies lexeme (front ++ behind))
      (around : LaidOutAround currencies tokens front behind) :
      LaidOutAround currencies (token :: tokens) (blanks ++ lexeme ++ front) behind

namespace LaidOutAround

theorem of_nil (around : LaidOutAround currencies tokens [] behind) :
    (∀ character ∈ behind.head?, ¬ isBlank character) ∧ LaidOut currencies tokens behind := by
  generalize nothing : ([] : List Char) = front at around
  cases around with
  | here _ begins laidOut => exact ⟨begins, laidOut⟩
  | further _ cut =>
      rcases cut.written.exists_cons with ⟨first, taken, rfl, _⟩
      simp at nothing

/-- Behind a comment without a line break the first line of a filler belongs to the comment. -/
theorem insert_behind_comment {content : String} {blanks : List Char} (blank : blanks.all isBlank)
    (oneLine : '\n' ∉ content.toList) (laidOut : LaidOut currencies tokens [])
    (isFiller : IsFiller filler) :
    ∃ others, LaidOut currencies others (blanks ++ '#' :: content.toList ++ filler) ∧
      meant others = meant (comment content :: tokens) := by
  rcases isFiller.exists_line with ⟨line, rest, rfl, noBreak, restBlank, ends⟩
  have joined : '\n' ∉ content.toList ++ line := by simp [oneLine, noBreak]
  have behind := laidOut.behind_blanks restBlank
  rw [List.append_nil] at behind
  refine ⟨comment (String.ofList (content.toList ++ line)) :: tokens, ?_, rfl⟩
  have placed := LaidOut.cons blank ⟨writtenAs_comment joined, ends⟩ behind
  simpa using placed

theorem endsBefore_filler {token : Token} (ends : token.EndsBefore (front ++ behind).head?)
    (isFiller : IsFiller filler) (apart : token.kind = .comment → front ≠ []) :
    token.EndsBefore (front ++ filler ++ behind).head? := by
  cases front with
  | cons => exact ends
  | nil =>
      cases filler with
      | nil => exact ends
      | cons first others =>
          exact endsBefore_of_separator isFiller.separates fun comment => apart comment rfl

theorem insert (around : LaidOutAround currencies tokens front behind)
    (isFiller : IsFiller filler) :
    ∃ others, LaidOut currencies others (front ++ filler ++ behind) ∧
      meant others = meant tokens := by
  -- The induction is on the tokens in front of the filler.
  induction around with
  | here blank _ laidOut =>
      rcases laidOut.behind_filler isFiller with ⟨others, filled, same⟩
      rw [List.append_assoc]
      exact ⟨others, filled.behind_blanks blank, same⟩
  | @further token tokens blanks lexeme front behind blank cut around induction =>
      by_cases joined : token.kind = .comment ∧ front = []
      · rcases joined with ⟨isComment, rfl⟩
        rcases around.of_nil with ⟨begins, laidOut⟩
        cases cut.written <;> cases isComment
        next content oneLine =>
          have nothing : behind = [] := by
            cases behind with
            | nil => rfl
            | cons first others =>
                cases cut.ends first rfl
                exact absurd (by decide) (begins '\n' rfl)
          subst nothing
          simpa using insert_behind_comment blank oneLine laidOut isFiller
      · have apart : token.kind = .comment → front ≠ [] := by simpa using joined
        rcases induction with ⟨others, laidOut, same⟩
        have ends := endsBefore_filler cut.ends isFiller apart
        refine ⟨token :: others, ?_, meant_cons_congr token same⟩
        rw [List.append_assoc, List.append_assoc, ← List.append_assoc front]
        exact .cons blank ⟨cut.written, ends⟩ laidOut

end LaidOutAround

end Token

namespace TokenList

variable {currencies : List String} {before rest : List Char} {list : TokenList}

theorem Divides.behind {earlier later : List Segment}
    (divides : list.Divides currencies before (earlier ++ later) rest) :
    Divides currencies (before ++ earlier.flatMap Segment.characters)
      ⟨later.map Segment.token, list.ending⟩ later rest := by
  refine ⟨rfl, ?_, ?_⟩
  · rintro others segment further rfl
    simpa using divides.stands (earlier ++ others) segment further (by simp)
  · simpa using divides.ending

theorem Divides.of_cons {segment : Segment} {segments : List Segment}
    (divides : list.Divides currencies before (segment :: segments) rest) :
    segment.Stands currencies before (segments.flatMap Segment.characters ++ rest) ∧
      Divides currencies (before ++ segment.characters)
        ⟨segments.map Segment.token, list.ending⟩ segments rest := by
  have stands := divides.stands [] segment segments rfl
  rw [← List.singleton_append] at divides
  have behind := divides.behind
  rw [List.flatMap_singleton] at behind
  exact ⟨by simpa using stands, behind⟩

theorem Divides.laidOut {segments : List Segment} {position : Position}
    (divides : list.Divides currencies before segments rest)
    (complete : list.ending = .ok position) :
    Token.LaidOut currencies (segments.map fun segment => segment.token.token)
      (segments.flatMap Segment.characters ++ rest) := by
  induction segments generalizing before list with
  | nil =>
      have ending := divides.ending
      rw [complete] at ending
      exact .nil ending.1
  | cons segment segments induction =>
      rcases divides.of_cons with ⟨stands, behind⟩
      rw [List.flatMap_cons, List.append_assoc]
      exact .cons stands.blank ⟨stands.written, stands.ends⟩ (induction behind complete)

theorem Divides.laidOutAround {earlier later : List Segment} {blanks behind : List Char}
    (divides : list.Divides currencies before (earlier ++ later) rest)
    (split : later.flatMap Segment.characters ++ rest = blanks ++ behind)
    (blank : blanks.all isBlank) (begins : ∀ character ∈ behind.head?, ¬ isBlank character)
    (laidOut : Token.LaidOut currencies (later.map fun segment => segment.token.token) behind) :
    Token.LaidOutAround currencies (list.tokens.map PlacedToken.token)
      (earlier.flatMap Segment.characters ++ blanks) behind := by
  rw [divides.tokens]
  induction earlier generalizing before list with
  | nil =>
      rw [List.nil_append, List.map_map]
      exact .here blank begins laidOut
  | cons segment earlier induction =>
      rw [List.cons_append] at divides ⊢
      rcases divides.of_cons with ⟨stands, others⟩
      rw [List.flatMap_append, List.append_assoc, split, ← List.append_assoc] at stands
      rw [List.flatMap_cons, List.append_assoc]
      exact .further stands.blank ⟨stands.written, stands.ends⟩ (induction others)

/-- The second text is the first with a filler directly in front of one of its tokens, or at its
end. -/
inductive AddsFiller (currencies : List String) (text other : String) : Prop where
  | inFront {front filler behind : List Char} {token : PlacedToken}
      (split : text.toList = front ++ behind)
      (filled : other.toList = front ++ filler ++ behind) (isFiller : IsFiller filler)
      (member : token ∈ (ofText currencies text).tokens)
      (place : token.position = Position.start.advanceOver front) : AddsFiller currencies text other
  | atEnd {filler : List Char} (filled : other.toList = text.toList ++ filler)
      (isFiller : IsFiller filler) : AddsFiller currencies text other

variable {text other : String} {tokens : List Token} {position : Position}

theorem laidOutAround_of_mem {front behind : List Char} {token : PlacedToken}
    (complete : (ofText currencies text).ending = .ok position)
    (split : text.toList = front ++ behind) (member : token ∈ (ofText currencies text).tokens)
    (place : token.position = Position.start.advanceOver front) :
    Token.LaidOutAround currencies ((ofText currencies text).tokens.map PlacedToken.token) front
      behind := by
  rcases exists_divides currencies text with ⟨segments, rest, same, divides⟩
  rw [divides.tokens] at member
  rcases List.mem_map.mp member with ⟨segment, inside, rfl⟩
  rcases List.append_of_mem inside with ⟨earlier, later, rfl⟩
  have stands := divides.stands earlier segment later rfl
  have parts : text.toList = earlier.flatMap Segment.characters ++ segment.blanks ++
      (segment.lexeme ++ (later.flatMap Segment.characters ++ rest)) := by
    simp [same, Segment.characters]
  have places : Position.start.advanceOver front = Position.start.advanceOver
      (earlier.flatMap Segment.characters ++ segment.blanks) := by
    rw [← place, stands.position, List.nil_append, Position.start_advanceOver]
  have fronts := Position.front_eq_of_advanceOver_eq (split.symm.trans parts) places
  subst fronts
  have rests := List.append_cancel_left (split.symm.trans parts)
  subst rests
  rcases divides.behind.of_cons with ⟨_, further⟩
  have noBlanks : ([] : List Char).all isBlank := rfl
  rcases stands.written.exists_cons with ⟨first, taken, lexeme, noBlank⟩
  apply divides.laidOutAround (by simp [Segment.characters]) stands.blank
  · rw [lexeme]
    rintro character ⟨⟩
    simp [noBlank]
  · exact .cons noBlanks ⟨stands.written, stands.ends⟩ (further.laidOut complete)

theorem laidOutAround_nil (complete : (ofText currencies text).ending = .ok position) :
    Token.LaidOutAround currencies ((ofText currencies text).tokens.map PlacedToken.token)
      text.toList [] := by
  rcases exists_divides currencies text with ⟨segments, rest, same, divides⟩
  have ending := divides.ending
  rw [complete] at ending
  rw [same]
  rw [← List.append_nil segments] at divides
  exact divides.laidOutAround (List.append_nil rest).symm ending.1 (by simp) (.nil rfl)

theorem meant_tokens (list : TokenList) :
    Token.meant (list.tokens.map PlacedToken.token) =
      list.significant.tokens.map PlacedToken.token :=
  List.filter_map ..

theorem Spells.of_addsFiller (spells : (ofText currencies text).Spells tokens)
    (adds : AddsFiller currencies text other) : (ofText currencies other).Spells tokens := by
  rcases spells with ⟨significant, position, complete⟩
  have parted : ∃ front filler behind, other.toList = front ++ filler ++ behind ∧
      IsFiller filler ∧ Token.LaidOutAround currencies
        ((ofText currencies text).tokens.map PlacedToken.token) front behind := by
    cases adds with
    | inFront split filled isFiller member place =>
        exact ⟨_, _, _, filled, isFiller, laidOutAround_of_mem complete split member place⟩
    | atEnd filled isFiller =>
        rw [← List.append_nil (text.toList ++ _)] at filled
        exact ⟨_, _, _, filled, isFiller, laidOutAround_nil complete⟩
  rcases parted with ⟨front, filler, behind, filled, isFiller, around⟩
  rcases around.insert isFiller with ⟨others, laidOut, same⟩
  rw [← filled] at laidOut
  rcases ofText_of_laidOut laidOut with ⟨read, otherComplete⟩
  refine ⟨?_, otherComplete⟩
  rw [← meant_tokens, read, same, meant_tokens, significant]

end TokenList

end Ducat
