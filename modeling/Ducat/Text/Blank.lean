import Ducat.Text.CodePoints

/-! Blank characters: those with the Unicode property White_Space. -/

namespace Ducat

def wideBlanks : CodePoints := [
    (0x0085, 0x0085), (0x00A0, 0x00A0), (0x1680, 0x1680), (0x2000, 0x200A), (0x2028, 0x2029),
    (0x202F, 0x202F), (0x205F, 0x205F), (0x3000, 0x3000)
  ]

def isBlank (character : Char) : Bool :=
  if character.toNat < 0x80 then
    character == ' ' || (0x09 ≤ character.toNat && character.toNat ≤ 0x0D)
  else wideBlanks.contains character

theorem isBlank_of_isWhitespace {character : Char} (blank : character.isWhitespace) :
    isBlank character := by
  simp only [Char.isWhitespace, Bool.or_eq_true, decide_eq_true_eq] at blank
  rcases blank with ((equal | equal) | equal) | equal <;> subst equal <;> decide

end Ducat
