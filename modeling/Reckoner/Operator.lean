/-!
# Operators

What a calculator knows about one infix operator: how tightly it binds, how
a chain of operators that bind equally tightly is grouped, and what it computes.
-/

namespace Reckoner

/-- How a chain of operators of one precedence is grouped: from the left, from
the right, or not at all without parentheses. -/
inductive Associativity where
  | left
  | right
  | neither
  deriving Repr, DecidableEq

instance : Inhabited Associativity := ⟨.left⟩

/-- An operator and the operation behind it, which may be undefined for some
operands. -/
structure Operator where
  precedence : Int32
  associativity : Associativity
  apply : Float → Float → Option Float

namespace Operator

/-- The precedence that an operator has to exceed to belong to the right operand
of this one.  An operator that is grouped from the right lets operators of its
own precedence in. -/
def floor (operator : Operator) : Int32 :=
  match operator.associativity with
  | .left => operator.precedence
  | .neither => operator.precedence
  | .right =>
      if operator.precedence = Int32.minValue then operator.precedence
      else operator.precedence - 1

/-- Whether two operators in one chain leave open how they are grouped. -/
def conflicts (first second : Operator) : Bool :=
  first.precedence = second.precedence &&
    (first.associativity = .neither || second.associativity = .neither)

end Operator

end Reckoner
