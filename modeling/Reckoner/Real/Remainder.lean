import Reckoner.Real.Exact

/-!
# Remainders, least and greatest values

Operations on floating numbers beyond elementary arithmetic.  The remainder is
exact: both numbers are whole multiples of one power of two, and so is what
division leaves over.
-/

namespace Reckoner.Real

/-- The number `significand * 2 ^ exponent`, rounded to the nearest one.  It is
read from its decimal form, because `2 ^ (-k) = 5 ^ k * 10 ^ (-k)`. -/
def ofBinary (significand : Nat) : Int → Float
  | .ofNat exponent =>
      Float.ofScientific (significand * Nat.pow 2 exponent) false 0
  | .negSucc exponent =>
      Float.ofScientific (significand * Nat.pow 5 (exponent + 1)) true
        (exponent + 1)

/-- The value that is no number. -/
def notANumber : Float := 0.0 / 0.0

/-- What is left of the first number after taking away a whole multiple of the
second.  It has the sign of the first number and is smaller than the second. -/
def remainder (dividend divisor : Float) : Float :=
  match Exact.ofFloat dividend, Exact.ofFloat divisor with
  | .finite negative first firstExponent, .finite _ second secondExponent =>
      if second = 0 then notANumber
      else
        let exponent := min firstExponent secondExponent
        let rest :=
          first * Nat.pow 2 (firstExponent - exponent).toNat %
            (second * Nat.pow 2 (secondExponent - exponent).toNat)
        let magnitude := ofBinary rest exponent
        if negative then -magnitude else magnitude
  | .finite _ _ _, .infinite _ => dividend
  | _, _ => notANumber

/-- The lesser of two numbers, or the other one if one is no number. -/
def lesser (first second : Float) : Float :=
  if first.isNaN then second
  else if second.isNaN then first
  else if second < first then second else first

/-- The greater of two numbers, or the other one if one is no number. -/
def greater (first second : Float) : Float :=
  if first.isNaN then second
  else if second.isNaN then first
  else if first < second then second else first

end Reckoner.Real
