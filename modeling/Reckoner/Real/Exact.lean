/-!
# Exact values of binary floating numbers

A finite binary floating number is a whole significand times a power of two.
`Exact` makes that value visible, so that truncation, remainders and decimal
texts are computed on whole numbers and without rounding.
-/

namespace Reckoner

/-- What a binary floating number stands for: `± significand * 2 ^ exponent`,
an infinity, or no number at all. -/
inductive Exact where
  | finite (negative : Bool) (significand : Nat) (exponent : Int)
  | infinite (negative : Bool)
  | notANumber
  deriving Repr, DecidableEq

/-- The widths in bits of the fields of a binary floating number. -/
structure BinaryFormat where
  fraction : Nat
  exponent : Nat
  deriving Repr, DecidableEq

namespace BinaryFormat

/-- Numbers of 64 bits. -/
def double : BinaryFormat := ⟨52, 11⟩

/-- Numbers of 32 bits. -/
def single : BinaryFormat := ⟨23, 8⟩

/-- The exponent of the least positive number. -/
def least (format : BinaryFormat) : Int :=
  2 - (Nat.pow 2 (format.exponent - 1) : Int) - format.fraction

/-- The value that a pattern of bits stands for.  The lowest exponent field
holds the numbers without a hidden leading bit, the highest one the infinities
and the patterns that are no number. -/
def decode (format : BinaryFormat) (bits : Nat) : Exact :=
  let hidden := Nat.pow 2 format.fraction
  let fields := Nat.pow 2 format.exponent
  let fraction := bits % hidden
  let field := bits / hidden % fields
  let negative := bits / (hidden * fields) % 2 = 1
  if field = fields - 1 then
    if fraction = 0 then .infinite negative else .notANumber
  else if field = 0 then
    .finite negative fraction format.least
  else
    .finite negative (hidden + fraction)
      (format.least + (field - 1 : Nat))

end BinaryFormat

namespace Exact

/-- The exact value of a number of 64 bits. -/
def ofFloat (value : Float) : Exact :=
  BinaryFormat.double.decode value.toBits.toNat

/-- The exact value of a number of 32 bits. -/
def ofFloat32 (value : Float32) : Exact :=
  BinaryFormat.single.decode value.toBits.toNat

/-- The magnitude `significand * 2 ^ exponent` without its fraction. -/
def wholePart (significand : Nat) : Int → Nat
  | .ofNat exponent => significand * Nat.pow 2 exponent
  | .negSucc exponent => significand / Nat.pow 2 (exponent + 1)

/-- The value truncated toward zero, if it is finite. -/
def truncate? : Exact → Option Int
  | .finite negative significand exponent =>
      let whole : Int := wholePart significand exponent
      some (if negative then -whole else whole)
  | .infinite _ => none
  | .notANumber => none

end Exact

end Reckoner
