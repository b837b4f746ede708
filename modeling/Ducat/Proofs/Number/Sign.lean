import Mathlib
import Ducat.Number.Nearest

/-! A number that is read from digits alone has no sign, not even if it is zero. -/

namespace Ducat

namespace Double

open Float.Model (Format UnpackedFloat)
open Float.Model.UnpackedFloat (Sign pack packComponents unpack roundWithAccuracy)

def IsUnsigned : UnpackedFloat → Prop
  | .infinity sign => sign = .positive
  | .zero sign => sign = .positive
  | .finite sign .. => sign = .positive
  | .notANumber => True

theorem roundWithAccuracy_isUnsigned (format : Format) (mantissa : Nat) (exponent : Int)
    (accuracy : UnpackedFloat.Accuracy) :
    IsUnsigned (roundWithAccuracy format .positive mantissa exponent accuracy) := by
  unfold roundWithAccuracy
  dsimp only
  split <;> rfl

namespace IsUnsigned

variable {left right : UnpackedFloat}

theorem mul (format : Format) (first : IsUnsigned left) (second : IsUnsigned right) :
    IsUnsigned (UnpackedFloat.mul format left right) := by
  cases left <;> cases right <;> cases first <;> cases second <;>
    first | trivial | rfl | exact roundWithAccuracy_isUnsigned ..

theorem div (format : Format) (first : IsUnsigned left) (second : IsUnsigned right) :
    IsUnsigned (UnpackedFloat.div format left right) := by
  cases left <;> cases right <;> cases first <;> cases second <;>
    first | trivial | rfl | exact roundWithAccuracy_isUnsigned ..

theorem ofScientific (format : Format) (digits : Nat) (exponent : Int) :
    IsUnsigned (UnpackedFloat.ofScientific format digits exponent) := by
  unfold UnpackedFloat.ofScientific
  split_ifs
  · rfl
  · rfl
  · rfl
  · exact mul format rfl rfl
  · exact div format rfl rfl

theorem packComponents_lt (exponent : BitVec 11) (mantissa : BitVec 52) :
    (packComponents .binary64 .positive exponent mantissa).toNat < powerOfTwo 63 := by
  have whole : (packComponents .binary64 .positive exponent mantissa).toNat =
      (exponent ++ mantissa).toNat := by
    change (0#1 ++ exponent ++ mantissa).toNat = _
    rw [BitVec.toNat_append, BitVec.toNat_append, BitVec.toNat_append, BitVec.toNat_zero,
      Nat.zero_shiftLeft, Nat.zero_or]
  rw [whole]
  exact (exponent ++ mantissa).isLt

theorem pack_lt {number : UnpackedFloat} (unsigned : IsUnsigned number) :
    (pack .binary64 number).toNat < powerOfTwo 63 := by
  fun_cases pack with
  | case1 => exact packComponents_lt ..
  | _ =>
      cases unsigned
      exact packComponents_lt ..

theorem of_bits_lt {bits : BitVec 64} (small : bits.toNat < powerOfTwo 63) :
    IsUnsigned (unpack .binary64 bits) := by
  have noSign : Sign.ofBitVec (@UnpackedFloat.unpackSign .binary64 bits) = .positive := by
    have zero : @UnpackedFloat.unpackSign .binary64 bits = 0#1 := by
      apply BitVec.eq_of_toNat_eq
      change (bits.extractLsb 63 63).toNat = 0
      have quotient : bits.toNat / 2 ^ 63 = 0 := Nat.div_eq_of_lt small
      rw [BitVec.extractLsb_toNat, Nat.shiftRight_eq_div_pow, quotient, Nat.zero_mod]
    rw [zero]
    rfl
  unfold unpack
  dsimp only
  split_ifs
  · exact noSign
  · trivial
  · exact noSign
  · exact noSign
  · exact noSign

end IsUnsigned

def SignClear (number : Float) : Prop := number.toBits.toNat < powerOfTwo 63

namespace SignClear

theorem of_isUnsigned {number : UnpackedFloat} (unsigned : IsUnsigned number) :
    SignClear ⟨Float.Model.pack number⟩ := unsigned.pack_lt

theorem isUnsigned {number : Float} (clear : SignClear number) :
    IsUnsigned number.toModel.unpack := .of_bits_lt clear

theorem mul {left right : Float} (first : SignClear left) (second : SignClear right) :
    SignClear (left * right) := of_isUnsigned (first.isUnsigned.mul _ second.isUnsigned)

theorem div {left right : Float} (first : SignClear left) (second : SignClear right) :
    SignClear (left / right) := of_isUnsigned (first.isUnsigned.div _ second.isUnsigned)

theorem toFloat (number : UInt64) : SignClear number.toFloat := by
  apply of_isUnsigned
  change IsUnsigned (UnpackedFloat.normalize .binary64 (number.toNat : Int) 0 .positive)
  unfold UnpackedFloat.normalize
  split
  next negative =>
    rw [Int.compare_eq_lt] at negative
    omega
  · rfl
  · exact roundWithAccuracy_isUnsigned ..

theorem exactPower : ∀ exponent (small : exponent < Float.exactlyRepresentablePowersOfTen.size),
    SignClear Float.exactlyRepresentablePowersOfTen[exponent] := by
  unfold SignClear
  decide +kernel

theorem ofScientific (digits : Nat) (negative : Bool) (exponent : Nat) :
    SignClear (Float.ofScientific digits negative exponent) := by
  unfold Float.ofScientific
  split
  · cases negative with
    | false => exact (toFloat _).mul (exactPower ..)
    | true => exact (toFloat _).div (exactPower ..)
  · cases negative with
    | false => exact of_isUnsigned (.ofScientific ..)
    | true => exact of_isUnsigned (.ofScientific ..)

end SignClear

theorem nearest_signClear (digits : Nat) (exponent : Int) :
    SignClear (nearest digits exponent) := by
  unfold nearest
  dsimp only
  split_ifs
  · exact .ofScientific ..
  · exact .div (.ofScientific ..) (.ofScientific ..)
  · exact .ofScientific ..
  · exact .ofScientific ..

theorem exists_of_nearest_isFinite {digits : Nat} {exponent : Int}
    (finite : (ofFloat (nearest digits exponent)).isFinite) :
    ∃ mantissa binaryExponent,
      ofFloat (nearest digits exponent) = .finite false mantissa binaryExponent := by
  have clear := nearest_signClear digits exponent
  generalize nearest digits exponent = number at clear finite ⊢
  have positive : decide (powerOfTwo 63 ≤ number.toBits.toNat) = false :=
    decide_eq_false (Nat.not_le.mpr clear)
  unfold ofFloat at finite ⊢
  dsimp only at finite ⊢
  rw [positive] at finite ⊢
  split_ifs at finite ⊢
  · cases finite
  · cases finite
  · exact ⟨_, _, rfl⟩
  · exact ⟨_, _, rfl⟩

end Double

end Ducat
