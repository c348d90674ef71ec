import Reckoner.Decimal.Shortest

/-!
# Layouts of decimal texts

How a floating number is written once its digits are chosen: whether a whole
number carries a fraction, and between which magnitudes it is written without
an exponent.
-/

namespace Reckoner.Decimal

/-- The choices that a decimal text leaves open. -/
structure Layout where
  /-- The fraction of a whole number. -/
  wholeFraction : List Char
  /-- The least and the greatest leading exponent written without a power of
  ten; with none given, no number is written with a power of ten. -/
  positional : Option (Int × Int)

/-- The text of a number by its digits alone, the decimal point `point` places
behind the start of them. -/
def positionalText (layout : Layout) (digits : List Char) :
    (point : Int) → List Char
  | .ofNat point =>
      if digits.length ≤ point then
        digits ++ List.replicate (point - digits.length) '0' ++
          layout.wholeFraction
      else if point = 0 then '0' :: '.' :: digits
      else digits.take point ++ '.' :: digits.drop point
  | .negSucc missing =>
      '0' :: '.' :: List.replicate (missing + 1) '0' ++ digits

/-- The text of a number with one digit before the point and a power of ten. -/
def scientificText (digits : List Char) (leading : Int) : List Char :=
  let mantissa := match digits with
    | first :: second :: rest => first :: '.' :: second :: rest
    | short => short
  mantissa ++ 'e' :: (toString leading).toList

/-- The text of a positive decimal. -/
def Layout.unsigned (layout : Layout) (decimal : Decimal) : List Char :=
  let digits := Nat.toDigits 10 decimal.digits
  let point := decimal.exponent + digits.length
  let plain := match layout.positional with
    | none => true
    | some (least, greatest) => least ≤ point - 1 && point - 1 ≤ greatest
  if plain then positionalText layout digits point
  else scientificText digits (point - 1)

/-- The text of a floating number of the given format. -/
def Layout.text (layout : Layout) (format : BinaryFormat) (value : Exact) :
    String :=
  let signed (negative : Bool) (magnitude : List Char) : String :=
    String.ofList (if negative then '-' :: magnitude else magnitude)
  match value with
  | .notANumber => "NaN"
  | .infinite negative => signed negative ['i', 'n', 'f']
  | .finite negative significand exponent =>
      signed negative
        (if significand = 0 then '0' :: layout.wholeFraction
         else layout.unsigned (shortest format significand exponent))

end Reckoner.Decimal
