import Reckoner.Expression.EvalError
import Reckoner.Real.Whole

/-!
# Kinds of results

A calculator evaluates in floating numbers of 64 bits and converts the final
value once into the kind of number that is asked for.  Whole kinds take the
exact value without its fraction, and refuse a value that is out of range.
-/

namespace Reckoner

/-- A kind of number that the value of an expression can be given as. -/
class Number (α : Type) where
  /-- The name of the kind. -/
  name : String
  /-- The number that a value is given as. -/
  ofReal : Float → Except EvalError α
  /-- The number as log records show it. -/
  text : α → String

namespace Number

/-- Records keep the fraction of whole numbers, and write very great and very
small ones with a power of ten. -/
def layout : Decimal.Layout := ⟨['.', '0'], some (-4, 15)⟩

/-- The value without its fraction, between a negative bound and the number
below its opposite.  The test above is against the opposite of the bound, which
is a floating number as the bound itself; the greatest number need not be one. -/
def truncateWithin (name : String) (least greatest : Int) (value : Float) :
    Except EvalError Int :=
  let truncated := Real.truncate value
  if !truncated.isFinite || truncated < Float.ofInt least ||
      -Float.ofInt least ≤ truncated then
    .error (.notRepresentable value name)
  else .ok (Real.saturate least greatest truncated)

instance : Number Float where
  name := "f64"
  ofReal value := .ok value
  text value := layout.text .double (Exact.ofFloat value)

instance : Number Float32 where
  name := "f32"
  ofReal value := .ok value.toFloat32
  text value := layout.text .single (Exact.ofFloat32 value)

instance : Number Int64 where
  name := "i64"
  ofReal value :=
    (truncateWithin "i64" Int64.minValue.toInt Int64.maxValue.toInt value).map
      Int64.ofInt
  text value := toString value.toInt

instance : Number Int32 where
  name := "i32"
  ofReal value :=
    (truncateWithin "i32" Int32.minValue.toInt Int32.maxValue.toInt value).map
      Int32.ofInt
  text value := toString value.toInt

end Number

end Reckoner
