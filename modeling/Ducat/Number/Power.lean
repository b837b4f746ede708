/-! Powers of the two bases in which numbers are kept and written. -/

namespace Ducat

def powerOfTwo (exponent : Nat) : Nat := Nat.pow 2 exponent

def powerOfTen (exponent : Nat) : Nat := Nat.pow 10 exponent

theorem powerOfTwo_pos (exponent : Nat) : 0 < powerOfTwo exponent :=
  Nat.pow_pos (by decide)

theorem powerOfTen_pos (exponent : Nat) : 0 < powerOfTen exponent :=
  Nat.pow_pos (by decide)

theorem powerOfTen_le_powerOfTen {first second : Nat} (ordered : first ≤ second) :
    powerOfTen first ≤ powerOfTen second :=
  Nat.pow_le_pow_right (by decide) ordered

theorem powerOfTen_succ (exponent : Nat) :
    powerOfTen (exponent + 1) = 10 * powerOfTen exponent :=
  Nat.mul_comm _ _

end Ducat
