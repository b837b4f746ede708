import Ducat.Proofs.Token.Division

/-! More words may be currencies than those with which a text was read. Main statement: the tokens
stay the same if none of the names in the text is such a word. -/

namespace Ducat

variable {few many : List String}

/-- No name among the tokens is a currency of the second list alone. -/
def Token.Apart (few many : List String) (tokens : List Token) : Prop :=
  ∀ id ∈ many, id ∉ few → .name id ∉ tokens

namespace Lexeme

theorem wordToken_congr {word : String} (subset : few ⊆ many)
    (apart : word ∈ many → word ∉ few → wordToken few word ≠ .name word) :
    wordToken many word = wordToken few word := by
  rw [wordToken, wordToken] at *
  cases reserved : Keyword.ofSpelling? word with
  | some keyword => rfl
  | none =>
      simp only [reserved, List.contains_iff_mem] at apart ⊢
      by_cases listed : word ∈ few
      · rw [if_pos listed, if_pos (subset listed)]
      · rw [if_neg listed] at apart ⊢
        have unlisted : word ∉ many := fun member => apart member listed rfl
        rw [if_neg unlisted]

theorem take_congr {first : Char} {rest : List Char} (subset : few ⊆ many)
    (apart : ∀ id ∈ many, id ∉ few → (take few first rest).outcome ≠ .ok (.name id)) :
    take many first rest = take few first rest := by
  unfold take at *
  split
  · rfl
  split
  · rfl
  split
  next noQuote noMark start =>
    rw [if_neg noQuote, if_neg noMark, if_pos start] at apart
    have same := wordToken_congr subset fun member absent equal =>
      apart _ member absent (congrArg Except.ok equal)
    rw [ofWord, ofWord, same]
  · rfl

end Lexeme

namespace Cursor

theorem nextToken_congr {cursor : Cursor} (subset : few ⊆ many)
    (apart : ∀ id ∈ many, id ∉ few → ∀ position next,
      cursor.nextToken few ≠ (.ok ⟨.name id, position⟩, next)) :
    cursor.nextToken many = cursor.nextToken few := by
  unfold nextToken at *
  dsimp only at *
  split
  · rfl
  next first rest found =>
    rw [found] at apart
    rw [Lexeme.take_congr subset]
    intro id member absent outcome
    apply apart id member absent
    dsimp only
    rw [outcome]

end Cursor

namespace TokenList

theorem collect_congr {steps : Nat} {cursor : Cursor} (subset : few ⊆ many)
    (apart : Token.Apart few many ((collect few steps cursor).tokens.map PlacedToken.token)) :
    collect many steps cursor = collect few steps cursor := by
  induction steps generalizing cursor with
  | zero => rfl
  | succ steps induction =>
      rcases read : cursor.nextToken few with ⟨error | token, next⟩
      · have same : cursor.nextToken many = (.error error, next) := by
          rw [← read]
          exact Cursor.nextToken_congr subset (by simp [read])
        rw [collect_succ_of_error steps read, collect_succ_of_error steps same]
      · have same : cursor.nextToken many = (.ok token, next) := by
          rw [← read]
          apply Cursor.nextToken_congr subset
          intro id member absent position further found
          rw [read] at found
          cases found
          apply apart id member absent
          rw [collect_succ_of_token steps read nofun]
          exact List.mem_cons_self
        by_cases atEnd : token.kind = .endOfText
        · rw [collect_succ_of_end steps read atEnd, collect_succ_of_end steps same atEnd]
        · rw [collect_succ_of_token steps read atEnd] at apart ⊢
          rw [collect_succ_of_token steps same atEnd, induction]
          intro id member absent inside
          exact apart id member absent (List.mem_cons_of_mem _ inside)

theorem ofText_congr {text : String} (subset : few ⊆ many)
    (apart : Token.Apart few many ((ofText few text).tokens.map PlacedToken.token)) :
    ofText many text = ofText few text :=
  collect_congr subset apart

end TokenList

end Ducat
