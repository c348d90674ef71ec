import Reckoner.Real.Exact

/-!
# Shortest decimals

The decimal with the fewest digits that still reads back as a given binary
floating number, and among those the one nearest to it.

The reals that round to a number `significand * 2 ^ exponent` lie between the
midpoints to its two neighbours; the midpoints themselves round to it exactly
when the significand is even.  For one digit, two digits and so on the search
looks at the two points of the decimal grid around the number, and takes the
first grid on which one of them lies between the midpoints.
-/

namespace Reckoner

/-- The decimal number `digits * 10 ^ exponent`. -/
structure Decimal where
  digits : Nat
  exponent : Int
  deriving Repr, DecidableEq

namespace Decimal

/-- How many decimal digits a positive number has. -/
def digitCount (number : Nat) : Nat :=
  (Nat.toDigits 10 number).length

/-- The power of ten that a positive fraction reaches:
`10 ^ k * denominator ≤ numerator < 10 ^ (k + 1) * denominator`. -/
def leadingExponent (numerator denominator : Nat) : Int :=
  if denominator ≤ numerator then
    (digitCount (numerator / denominator) : Int) - 1
  else
    -(digitCount ((denominator - 1) / numerator) : Int)

/-- A positive floating number and its surroundings.  In units of a quarter of
the last binary place, `center` is the number, and `below` and `above` are the
distances to the midpoints toward its neighbours; a unit is
`numerator / denominator`. -/
structure Surroundings where
  center : Nat
  below : Nat
  above : Nat
  closed : Bool
  numerator : Nat
  denominator : Nat

/-- The surroundings of `significand * 2 ^ exponent`.  The neighbour below a
power of two is only half as far away as the one above. -/
def surroundings (format : BinaryFormat) (significand : Nat)
    (exponent : Int) : Surroundings where
  center := 4 * significand
  below := if significand = Nat.pow 2 format.fraction then 1 else 2
  above := 2
  closed := significand % 2 = 0
  numerator := Nat.pow 2 (exponent - 2).toNat
  denominator := Nat.pow 2 (2 - exponent).toNat

/-- The point of the grid of multiples of `10 ^ place` that is nearest to the
number among the two around it that read back as the number.  Of two equally
near points the greater one is taken. -/
def onGrid? (around : Surroundings) (place : Int) : Option Nat :=
  let scale := around.numerator * Nat.pow 10 (-place).toNat
  let unit := around.denominator * Nat.pow 10 place.toNat
  let value := around.center * scale
  let lower := value / unit
  let reads (point : Nat) : Bool :=
    let low := (around.center - around.below) * scale
    let high := (around.center + around.above) * scale
    if around.closed then low ≤ point * unit && point * unit ≤ high
    else low < point * unit && point * unit < high
  let nearerAbove := unit ≤ 2 * (value % unit)
  if reads (lower + 1) && (!reads lower || nearerAbove) then some (lower + 1)
  else if reads lower then some lower
  else none

/-- No double has a shortest decimal of more digits. -/
def digitLimit : Nat := 17

/-- The shortest decimal that reads back as `significand * 2 ^ exponent`. -/
def shortest (format : BinaryFormat) (significand : Nat)
    (exponent : Int) : Decimal :=
  let around := surroundings format significand exponent
  let leading := leadingExponent (around.center * around.numerator)
    around.denominator
  let search (count : Nat) : Option Decimal :=
    let place := leading - count
    (onGrid? around place).map fun point =>
      if point = Nat.pow 10 (count + 1) then ⟨1, leading + 1⟩
      else ⟨point, place⟩
  ((List.range digitLimit).findSome? search).getD ⟨0, 0⟩

end Decimal

end Reckoner
