/-! Classes of characters that are given by ranges of code points. -/

namespace Ducat

/-- Inclusive ranges of code points, in ascending order. -/
abbrev CodePoints := List (Nat × Nat)

namespace CodePoints

def contains (ranges : CodePoints) (character : Char) : Bool :=
  ranges.any fun range => range.1 ≤ character.toNat && character.toNat ≤ range.2

end CodePoints

end Ducat
