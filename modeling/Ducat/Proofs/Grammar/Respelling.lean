import Mathlib.Logic.Relation
import Ducat.Proofs.Grammar.RoundTrip
import Ducat.Proofs.Token.Insertion

/-! Only the tokens of an accepted text matter. Main statement: blanks and comments that are put
between its tokens do not change the program that is read. -/

namespace Ducat

open Relation

namespace Program

variable {currencies : List String} {text other : String} {program : Program}

theorem ofText_of_respelled (accepted : ofText currencies text = .ok program)
    (respelled : ∀ tokens, (TokenList.ofText currencies text).Spells tokens →
      (TokenList.ofText currencies other).Spells tokens) :
    ofText currencies other = .ok program := by
  rcases exists_lexer_of_ofText accepted with ⟨lexer, read, leaves, fewer⟩
  rcases Grammar.listing_of_program leaves fewer read with
    ⟨definitions, listing, fits, written, complete⟩
  exact ofText_of_spells listing fits (respelled _ ⟨written, complete⟩)

/-- Layout has no meaning: an accepted text into which blanks and comments are put any number of
times, each directly in front of a token or at the end, is accepted as the same program. -/
theorem filled_text_is_read_alike (accepted : ofText currencies text = .ok program)
    (filled : ReflTransGen (TokenList.AddsFiller currencies) text other) :
    ofText currencies other = .ok program := by
  induction filled with
  | refl => exact accepted
  | tail _ adds induction =>
      exact ofText_of_respelled induction fun tokens spells => spells.of_addsFiller adds

theorem filled_text_is_read_alike_of_comments :
    ∃ program, ofText [] "void f()\x7b\x7d#a" = .ok program ∧
      ReflTransGen (TokenList.AddsFiller []) "void f()\x7b\x7d#a" "void f()#b\n\x7b\x7d#a#c\n" ∧
      ofText [] "void f()#b\n\x7b\x7d#a#c\n" = .ok program := by
  have isFiller : ∀ letter, letter ≠ '\n' → IsFiller ['#', letter, '\n'] := by
    intro letter plain
    have oneLine : '\n' ∉ [letter] := by simpa using plain.symm
    exact .comment oneLine
  have places : ((TokenList.ofText [] "void f()\x7b\x7d#a").tokens.map PlacedToken.position)[4]? =
      some (Position.start.advanceOver "void f()".toList) := by
    decide +kernel
  rw [List.getElem?_map, Option.map_eq_some_iff] at places
  rcases places with ⟨brace, found, place⟩
  have split : "void f()\x7b\x7d#a".toList = "void f()".toList ++ "\x7b\x7d#a".toList := by decide
  have inside : TokenList.AddsFiller [] "void f()\x7b\x7d#a" "void f()#b\n\x7b\x7d#a" :=
    .inFront split (by decide) (isFiller 'b' (by decide)) (List.mem_of_getElem? found) place
  have atEnd : TokenList.AddsFiller [] "void f()#b\n\x7b\x7d#a" "void f()#b\n\x7b\x7d#a#c\n" :=
    .atEnd (by decide) (isFiller 'c' (by decide))
  have filled := (ReflTransGen.single inside).tail atEnd
  cases accepted : ofText [] "void f()\x7b\x7d#a" with
  | error failure =>
      have isOk : (ofText [] "void f()\x7b\x7d#a").isOk := by decide +kernel
      rw [accepted] at isOk
      cases isOk
  | ok program => exact ⟨program, rfl, filled, filled_text_is_read_alike accepted filled⟩

end Program

end Ducat
