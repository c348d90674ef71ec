/-!
# Decimal literals

The texts that denote a floating number: an optional sign, digits with at most
one point and at least one digit, and an optional power of ten; or a sign and
the name of an infinity or of no number, in letters of either case.
-/

namespace Reckoner.Decimal

/-- The number that a list of decimal digits denotes. -/
def ofDigits (digits : List Char) : Nat :=
  digits.foldl (fun number digit => 10 * number + (digit.toNat - 48)) 0

/-- Every decimal of this many digits before the point is beyond the greatest
floating number, and every one of as many zeros behind it is nearest to zero. -/
def magnitudeLimit : Int := 400

/-- The floating number nearest to `0.digits * 10 ^ point`. -/
def nearest (digits : List Char) (point : Int) : Float :=
  let significant := digits.dropWhile (· = '0')
  let leading := point - (digits.length - significant.length : Nat)
  let exponent := point - digits.length
  if significant = [] ∨ leading < -magnitudeLimit then 0.0
  else if magnitudeLimit < leading then 1.0 / 0.0
  else Float.ofScientific (ofDigits significant) (exponent < 0) exponent.natAbs

/-- The power of ten behind the digits of a literal, if it is well formed. -/
def readExponent? (text : List Char) : Option Int :=
  let magnitude? (digits : List Char) : Option Nat :=
    if digits ≠ [] ∧ digits.all Char.isDigit then some (ofDigits digits)
    else none
  match text with
  | [] => some 0
  | mark :: rest =>
      if mark = 'e' ∨ mark = 'E' then
        match rest with
        | '-' :: digits => (magnitude? digits).map fun size => -(size : Int)
        | '+' :: digits => (magnitude? digits).map Int.ofNat
        | digits => (magnitude? digits).map Int.ofNat
      else none

/-- The number that an unsigned literal written in digits denotes. -/
def readDigits? (text : List Char) : Option Float :=
  let whole := text.takeWhile Char.isDigit
  let behind := text.dropWhile Char.isDigit
  let (fraction, rest) := match behind with
    | '.' :: rest => (rest.takeWhile Char.isDigit, rest.dropWhile Char.isDigit)
    | rest => ([], rest)
  if whole = [] ∧ fraction = [] then none
  else (readExponent? rest).map fun exponent =>
    nearest (whole ++ fraction) (whole.length + exponent)

/-- The value that a name stands for. -/
def readName? (text : List Char) : Option Float :=
  let name := String.ofList (text.map Char.toLower)
  if name = "inf" ∨ name = "infinity" then some (1.0 / 0.0)
  else if name = "nan" then some (0.0 / 0.0)
  else none

/-- The number that an unsigned literal denotes. -/
def readUnsigned? (text : List Char) : Option Float :=
  (readDigits? text).or (readName? text)

/-- The number that a literal denotes, if it is well formed. -/
def read? (text : String) : Option Float :=
  match text.toList with
  | '-' :: rest => (readUnsigned? rest).map fun value => -value
  | '+' :: rest => readUnsigned? rest
  | rest => readUnsigned? rest

end Reckoner.Decimal
