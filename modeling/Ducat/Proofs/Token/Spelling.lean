import Ducat.Proofs.Grammar.Significance
import Ducat.Proofs.Token.Layout

/-! Every list of tokens that can be spelled one by one is the list of a text: main statement
`exists_text_of_spellable`. -/

namespace Ducat

namespace Token

def IsSpellable (currencies : List String) (token : Token) : Prop :=
  ∃ first rest, isBlank first = false ∧
    Lexeme.take currencies first rest = ⟨.ok token, first :: rest, []⟩

theorem isSpellable_of_isFixed {token : Token} (fixed : token.isFixed)
    (currencies : List String) : token.IsSpellable currencies := by
  cases token with
  | keyword word =>
      refine ⟨word.spelling.toList.headD ' ', word.spelling.toList.tail, ?_⟩
      cases word <;> exact ⟨by decide, rfl⟩
  | symbol mark =>
      refine ⟨mark.spelling.toList.headD ' ', mark.spelling.toList.tail, ?_⟩
      cases mark <;> exact ⟨by decide, rfl⟩
  | _ => cases fixed

variable {currencies : List String}

theorem IsSpellable.exists_writtenAs {token : Token} (spellable : token.IsSpellable currencies) :
    ∃ characters, token.WrittenAs currencies characters := by
  rcases spellable with ⟨first, rest, _, read⟩
  exact ⟨_, (Lexeme.take_cut (congrArg Lexeme.outcome read)).written⟩

theorem exists_laidOut {tokens : List Token}
    (forms : ∀ token ∈ tokens, ∃ characters, token.WrittenAs currencies characters) :
    ∃ characters, LaidOut currencies tokens characters ∧
      ∀ character ∈ characters.head?, character = '\n' := by
  induction tokens with
  | nil => exact ⟨[], .nil rfl, by simp⟩
  | cons token others induction =>
      rw [List.forall_mem_cons] at forms
      rcases induction forms.2 with ⟨behind, laidOut, onLine⟩
      rcases forms.1 with ⟨lexeme, written⟩
      have ends : token.EndsBefore behind.head? :=
        endsBefore_of_space (fun character next => .inr (onLine character next)) fun _ => onLine
      exact ⟨['\n'] ++ lexeme ++ behind, .cons (by decide) ⟨written, ends⟩ laidOut, by simp⟩

end Token

namespace TokenList

theorem significant_of_all_isWritten {list : TokenList}
    (written : (list.tokens.map PlacedToken.token).all Token.isWritten) :
    list.significant = list := by
  have kept : ∀ token ∈ list.tokens, (token.kind != .comment) = true := by
    intro token member
    have isWritten := List.all_eq_true.mp written _ (List.mem_map_of_mem member)
    rcases token with ⟨token, _⟩
    cases token <;> first | rfl | cases isWritten
  rw [significant, List.filter_eq_self.mpr kept]

theorem exists_text_of_writtenAs {currencies : List String} {tokens : List Token}
    (written : tokens.all Token.isWritten)
    (forms : ∀ token ∈ tokens, ∃ characters, token.WrittenAs currencies characters) :
    ∃ text, (ofText currencies text).Spells tokens := by
  rcases Token.exists_laidOut forms with ⟨characters, laidOut, _⟩
  rw [← String.toList_ofList (l := characters)] at laidOut
  rcases ofText_of_laidOut laidOut with ⟨same, complete⟩
  rw [← same] at written
  exact ⟨String.ofList characters, by rwa [significant_of_all_isWritten written], complete⟩

theorem exists_text_of_spellable {currencies : List String} {tokens : List Token}
    (written : tokens.all Token.isWritten)
    (spellable : ∀ token ∈ tokens, token.IsSpellable currencies) :
    ∃ text, (ofText currencies text).Spells tokens :=
  exists_text_of_writtenAs written fun token member => (spellable token member).exists_writtenAs

end TokenList

end Ducat
