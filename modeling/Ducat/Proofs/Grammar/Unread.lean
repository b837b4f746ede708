import Ducat.Proofs.Grammar.Succession

/-! Main statement: at every place of a lexer one list of tokens is left, and there are fewer of
them than the lexer reckons with. -/

namespace Ducat

namespace Grammar.Source

variable {σ : Type} [Source σ]

theorem Lists.unique {place : Except LexError σ} {list other : TokenList}
    (lists : Lists place list) (otherLists : Lists place other) : list = other := by
  induction lists generalizing other with
  | fault error => exact otherLists.of_error.symm
  | finished atEnd =>
      cases otherLists with
      | finished => rfl
      | further inside => exact absurd atEnd inside
  | further inside _ induction =>
      cases otherLists with
      | finished atEnd => exact absurd atEnd inside
      | further _ behind =>
          have same := TokenList.mk.inj (induction behind)
          rw [same.1, same.2]

theorem Passes.exists_lists {source last : σ} {taken : List Token} {list : TokenList}
    (passes : Passes source taken last) (lists : Lists (.ok source) list) :
    ∃ front rest, front.map PlacedToken.token = taken ∧ Lists (.ok last) rest ∧
      list = ⟨front ++ rest.tokens, rest.ending⟩ := by
  induction passes generalizing list with
  | stay => exact ⟨[], list, rfl, lists, rfl⟩
  | @step source next last taken inside advanced _ induction =>
      cases lists with
      | finished atEnd => exact absurd atEnd inside
      | further _ behind =>
          rw [advanced] at behind
          rcases induction behind with ⟨front, rest, rfl, left, split⟩
          have parts := TokenList.mk.inj split
          refine ⟨current source :: front, rest, rfl, left, ?_⟩
          rw [parts.1, parts.2]
          rfl

theorem Lists.within {source : σ} {list : TokenList} {limit : Nat}
    (lists : Lists (.ok source) list) (enough : list.tokens.length < limit) :
    Within limit source :=
  ⟨list.ending, _, lists.leaves, by rwa [List.length_map]⟩

end Grammar.Source

open Grammar.Source

namespace Lexer

def behind (lexer : Lexer) : TokenList := .collect lexer.currencies lexer.bound lexer.cursor

theorem following_yields {lexer : Lexer} (inside : lexer.current.kind ≠ .endOfText) :
    Yields lexer.following lexer.behind := by
  have enough : lexer.cursor.rest.length < lexer.bound := Nat.lt_add_of_pos_right (by decide)
  rw [following, behind]
  rcases read : lexer.cursor.nextToken lexer.currencies with ⟨_ | token, next⟩
  · rw [advance_of_error inside read]
    exact .of_error enough read
  · rw [advance_of_token inside read]
    exact .of_token enough read

def unread (lexer : Lexer) : TokenList :=
  if lexer.current.kind = .endOfText then ⟨[], .ok lexer.current.position⟩
  else ⟨lexer.current :: lexer.behind.significant.tokens, lexer.behind.ending⟩

theorem lists_unread (lexer : Lexer) : Lists (.ok lexer) lexer.unread := by
  rw [unread]
  split
  next atEnd => exact .finished atEnd
  next inside =>
    apply Lists.further inside
    rw [advance_eq]
    exact (following_yields inside).toSignificant_lists

theorem eq_unread {lexer : Lexer} {list : TokenList} (lists : Lists (.ok lexer) list) :
    list = lexer.unread :=
  lists.unique lexer.lists_unread

theorem unread_length_lt (lexer : Lexer) : lexer.unread.tokens.length < lexer.bound := by
  rw [unread]
  split
  next => exact Nat.zero_lt_succ _
  next inside =>
    have whole := (Yields.further inside (following_yields inside)).length_le
    have fewer : lexer.behind.significant.tokens.length ≤ lexer.behind.tokens.length :=
      List.length_filter_le ..
    exact Nat.lt_succ_of_le (Nat.le_trans (Nat.succ_le_succ fewer) whole)

theorem unread_of_start {currencies : List String} {text : String} {lexer : Lexer}
    (placed : start currencies text >>= toSignificant = .ok lexer) :
    lexer.unread = (TokenList.ofText currencies text).significant := by
  have lists := start_lists currencies text
  rw [placed] at lists
  exact (eq_unread lists).symm

end Lexer

end Ducat
