import Reckoner.Real.Exact

/-!
# Whole numbers from floating numbers

Truncation clears the bits of a number that stand behind the binary point, and
gives a floating number again: the sign stays, also that of zero, and so do the
infinities.  A floating number becomes a whole number within two bounds by
saturation, which gives the nearer bound for everything beyond.
-/

namespace Reckoner

/-- How many of the low bits of a pattern stand behind the binary point.  In a
number below one these are all bits but the sign. -/
def BinaryFormat.bitsBehindPoint (format : BinaryFormat) (bits : Nat) : Nat :=
  let field := bits / Nat.pow 2 format.fraction % Nat.pow 2 format.exponent
  let fieldOfOne := Nat.pow 2 (format.exponent - 1) - 1
  if field < fieldOfOne then format.fraction + format.exponent
  else fieldOfOne + format.fraction - field

namespace Real

/-- A number without its fraction. -/
def truncate (value : Float) : Float :=
  let bits := value.toBits.toNat
  let behind := BinaryFormat.double.bitsBehindPoint bits
  Float.ofBits (UInt64.ofNat (bits - bits % Nat.pow 2 behind))

/-- The whole number of a floating one, or the nearer of two bounds.  What is no
number counts as zero. -/
def saturate (least greatest : Int) (value : Float) : Int :=
  match Exact.ofFloat value with
  | .infinite negative => if negative then least else greatest
  | exact => max least (min greatest (exact.truncate?.getD 0))

end Real

end Reckoner
