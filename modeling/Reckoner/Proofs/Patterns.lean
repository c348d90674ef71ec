import Mathlib
import Reckoner.Real.Exact

/-!
# Patterns of bits

Comparison and negation are defined on floating numbers that are unpacked into
sign, significand and exponent, `Exact` on the fields of their patterns.  Both
views agree (`Exact.ofFloat_eq_ofUnpacked`), and a number made from a pattern
has the exact value of the pattern, whichever pattern of no number it keeps
(`Exact.ofFloat_ofBits`).
-/

namespace Reckoner

open Float.Model (Format UnpackedFloat)
open Float.Model.UnpackedFloat (Sign pack_unpack unpack unpackExponent
  unpackMantissa unpackSign unpack_packedNaN)

namespace Exact

/-- Whether a sign is the negative one. -/
def isNegative : Sign → Bool
  | .negative => true
  | .positive => false

/-- The exact value of an unpacked number. -/
def ofUnpacked : UnpackedFloat → Exact
  | .notANumber => .notANumber
  | .infinity sign => .infinite (isNegative sign)
  | .zero sign => .finite (isNegative sign) 0 BinaryFormat.double.least
  | .finite sign significand exponent _ =>
      .finite (isNegative sign) significand exponent

/-- The exact value of a pattern, by its three fields. -/
theorem decode_double (bits : Nat) :
    BinaryFormat.double.decode bits =
      if bits / 2 ^ 52 % 2 ^ 11 = 2047 then
        if bits % 2 ^ 52 = 0 then .infinite (decide (bits / 2 ^ 63 % 2 = 1))
        else .notANumber
      else if bits / 2 ^ 52 % 2 ^ 11 = 0 then
        .finite (decide (bits / 2 ^ 63 % 2 = 1)) (bits % 2 ^ 52) (-1074)
      else
        .finite (decide (bits / 2 ^ 63 % 2 = 1)) (2 ^ 52 + bits % 2 ^ 52)
          (-1074 + (bits / 2 ^ 52 % 2 ^ 11 - 1 : Nat)) :=
  rfl

variable (bits : BitVec Format.binary64.numBits)

theorem toNat_unpackMantissa :
    (unpackMantissa bits).toNat = bits.toNat % 2 ^ 52 := by
  rw [unpackMantissa, BitVec.toNat_cast, BitVec.extractLsb_toNat,
    Nat.shiftRight_zero]
  rfl

theorem toNat_unpackExponent :
    (unpackExponent bits).toNat = bits.toNat / 2 ^ 52 % 2 ^ 11 := by
  rw [unpackExponent, BitVec.toNat_cast, BitVec.extractLsb_toNat,
    Nat.shiftRight_eq_div_pow]
  rfl

theorem isNegative_unpackSign :
    isNegative (Sign.ofBitVec (unpackSign bits)) =
      decide (bits.toNat / 2 ^ 63 % 2 = 1) := by
  have ofBit (bit : BitVec 1) :
      isNegative (Sign.ofBitVec bit) = decide (bit.toNat = 1) := by
    revert bit
    decide
  rw [ofBit, unpackSign, BitVec.toNat_cast, BitVec.extractLsb_toNat,
    Nat.shiftRight_eq_div_pow]
  rfl

theorem toNat_one_append_unpackMantissa :
    (1#1 ++ unpackMantissa bits).toNat = 2 ^ 52 + bits.toNat % 2 ^ 52 := by
  rw [BitVec.toNat_append, toNat_unpackMantissa]
  exact (Nat.two_pow_add_eq_or_of_lt (i := 52)
    (Nat.mod_lt _ (Nat.two_pow_pos 52)) 1).symm

/-- Both views read the same number off a pattern. -/
theorem decode_eq_ofUnpacked :
    BinaryFormat.double.decode bits.toNat =
      ofUnpacked (unpack Format.binary64 bits) := by
  have top : unpackExponent bits = -1#11 ↔
      bits.toNat / 2 ^ 52 % 2 ^ 11 = 2047 := by
    rw [← toNat_unpackExponent, ← BitVec.toNat_inj]
    rfl
  have bottom : unpackExponent bits = 0#11 ↔
      bits.toNat / 2 ^ 52 % 2 ^ 11 = 0 := by
    rw [← toNat_unpackExponent, ← BitVec.toNat_inj]
    rfl
  have none : unpackMantissa bits = 0#52 ↔ bits.toNat % 2 ^ 52 = 0 := by
    rw [← toNat_unpackMantissa, ← BitVec.toNat_inj]
    rfl
  have bias : Format.binary64.exponentBias = 1023 := rfl
  rw [decode_double, unpack]
  simp only [top, bottom, none, bias, toNat_unpackExponent,
    toNat_unpackMantissa]
  by_cases atTop : bits.toNat / 2 ^ 52 % 2 ^ 11 = 2047
  · rw [if_pos atTop, if_pos atTop]
    by_cases noFraction : bits.toNat % 2 ^ 52 = 0
    · rw [if_pos noFraction, if_pos noFraction, ofUnpacked,
        isNegative_unpackSign]
    · rw [if_neg noFraction, if_neg noFraction, ofUnpacked]
  · rw [if_neg atTop, if_neg atTop]
    by_cases atBottom : bits.toNat / 2 ^ 52 % 2 ^ 11 = 0
    · rw [if_pos atBottom, if_pos atBottom]
      by_cases noFraction : bits.toNat % 2 ^ 52 = 0
      · rw [dif_pos noFraction, ofUnpacked, isNegative_unpackSign, noFraction]
        rfl
      · rw [dif_neg noFraction, ofUnpacked, isNegative_unpackSign, atBottom]
        rfl
    · rw [if_neg atBottom, if_neg atBottom, ofUnpacked, isNegative_unpackSign,
        toNat_one_append_unpackMantissa]
      congr 1
      omega

/-- The exact value of a floating number, from its unpacked form. -/
theorem ofFloat_eq_ofUnpacked (value : Float) :
    ofFloat value = ofUnpacked value.toModel.unpack :=
  decode_eq_ofUnpacked value.toModel.toBits.toBitVec

/-- A number has the exact value of the pattern that it is made from. -/
theorem ofFloat_ofBits (pattern : UInt64) :
    ofFloat (Float.ofBits pattern) =
      BinaryFormat.double.decode pattern.toNat := by
  have kept : ofFloat (Float.ofBits pattern) =
      BinaryFormat.double.decode ((unpack Format.binary64
        pattern.toBitVec).pack Format.binary64).toNat := rfl
  rw [kept, pack_unpack]
  split
  · rename_i isNaN
    obtain ⟨top, fraction⟩ := of_decide_eq_true isNaN
    have none : unpack Format.binary64 pattern.toBitVec = .notANumber := by
      simp only [unpack, if_pos top, if_neg fraction]
    have same := decode_eq_ofUnpacked pattern.toBitVec
    rw [decode_eq_ofUnpacked, unpack_packedNaN, ← none]
    exact same.symm
  · rfl

end Exact

end Reckoner
