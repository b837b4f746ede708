import Ducat.Proofs.Configuration.Acceptance
import Ducat.Proofs.Token.Cutting

/-! Main statement: whatever a configuration lists as a currency is a word of a program, though a
word of a program may hold more characters than the name of a currency. -/

namespace Ducat

theorem toNat_lt_of_isAlpha {character : Char} (letter : character.isAlpha) :
    character.toNat < 0x80 := by
  have last : character.toNat ≤ 'z'.toNat := by
    rcases Bool.or_eq_true_iff.mp letter with upper | lower
    · exact Nat.le_trans (of_decide_eq_true upper).2 (by decide)
    · exact of_decide_eq_true (Bool.and_eq_true_iff.mp lower).2
  exact Nat.lt_of_le_of_lt last (by decide)

namespace Configuration

variable {character : Char}

theorem isWordStart_of_isNameStart (start : isNameStart character) : isWordStart character := by
  rw [isNameStart, Bool.or_eq_true] at start
  rw [isWordStart, Bool.or_eq_true]
  apply start.imp_left
  intro letter
  rw [isLetter, if_pos (toNat_lt_of_isAlpha letter)]
  exact letter

theorem isWordPart_of_isNamePart (part : isNamePart character) : isWordPart character := by
  rw [isNamePart, Char.isAlphanum, Bool.or_assoc, Bool.or_eq_true, Bool.or_eq_true] at part
  rcases part with letter | digit | underscore
  · apply isWordPart_of_isWordStart
    apply isWordStart_of_isNameStart
    rw [isNameStart, letter, Bool.true_or]
  · have ascii : character.toNat < 0x80 :=
      Nat.lt_of_le_of_lt (toNat_le_of_isDigit digit) (by decide)
    rw [isWordPart, isAlphanumeric, if_pos ascii, Char.isAlphanum, digit, Bool.or_true,
      Bool.true_or]
  · rw [isWordPart, underscore, Bool.or_true]

theorem isWord_of_takePiece {first : Char} {rest behind : List Char} {id : String}
    (read : takePiece first rest = (.token (.currency id), behind)) : IsWord id.toList := by
  unfold takePiece at read
  split at read
  · cases read
  split at read
  · cases read
  split at read
  · cases read
  split at read
  · cases read
  split at read
  next start =>
    cases read
    rw [String.toList_ofList]
    have part : isNamePart first := by
      rw [isNameStart, Bool.or_eq_true] at start
      rw [isNamePart, Char.isAlphanum, Bool.or_eq_true]
      exact start.imp_left fun letter => by rw [letter, Bool.true_or]
    constructor
    · rw [List.takeWhile_cons_of_pos part]
      exact isWordStart_of_isNameStart start
    · rw [List.all_eq_true]
      intro character member
      exact isWordPart_of_isNamePart (List.all_eq_true.mp List.all_takeWhile character member)
  split at read
  · cases read
  · cases read

theorem isWord_of_mem_tokensWithin {steps line : Nat} {text : List Char} {id : String}
    {placed : List PlacedToken} (read : tokensWithin steps line text = .ok placed)
    (member : .currency id ∈ placed.map PlacedToken.token) : IsWord id.toList := by
  fun_induction tokensWithin steps line text generalizing placed with
  | case1 =>
      cases read
      cases member
  | case2 =>
      cases read
      cases member
  | case3 steps line first rest token behind taken induction =>
      cases others : tokensWithin steps line behind with
      | error invalid =>
          rw [others] at read
          cases read
      | ok further =>
          rw [others] at read
          cases read
          rcases List.mem_cons.mp member with rfl | later
          · exact isWord_of_takePiece taken
          · exact induction others later
  | case4 _ _ _ _ _ _ induction => exact induction read member
  | case5 _ _ _ _ _ _ induction => exact induction read member
  | case6 => cases read

theorem isWord_of_mem_currencies {text : String} {configuration : Configuration} {id : String}
    (read : ofText text = .ok configuration) (listed : id ∈ configuration.currencies) :
    IsWord id.toList := by
  rcases ofText_eq_ok_iff.mp read with ⟨table, ⟨placed, divided, written⟩, rfl⟩
  apply isWord_of_mem_tokensWithin divided
  rw [written]
  exact List.mem_append_left _ (List.mem_map_of_mem listed)

end Configuration

end Ducat
