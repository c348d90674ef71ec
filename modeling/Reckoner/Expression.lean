/-!
# Expressions

The tree behind a written expression.  Literals and symbols are kept as they
were written; what they mean is decided when the tree is evaluated.
-/

namespace Reckoner

/-- A literal, an operator before its operand, or an operator between two. -/
inductive Expression where
  | literal (text : String)
  | unary (symbol : String) (operand : Expression)
  | binary (symbol : String) (left right : Expression)
  deriving Repr, DecidableEq

/-- How many operands an operator is applied to. -/
inductive Fixity where
  | unary
  | binary
  deriving Repr, DecidableEq

/-- The word for a number of operands. -/
def Fixity.name : Fixity → String
  | .unary => "unary"
  | .binary => "binary"

namespace Expression

/-- An expression with parentheses around every application. -/
def render : Expression → String
  | .literal text => text
  | .unary symbol operand => "(" ++ symbol ++ operand.render ++ ")"
  | .binary symbol left right =>
      "(" ++ left.render ++ " " ++ symbol ++ " " ++ right.render ++ ")"

/-- The number of levels of an expression. -/
def depth : Expression → Nat
  | .literal _ => 1
  | .unary _ operand => 1 + operand.depth
  | .binary _ left right => 1 + max left.depth right.depth

/-- The operands of the outermost operator. -/
def children : Expression → List Expression
  | .literal _ => []
  | .unary _ operand => [operand]
  | .binary _ left right => [left, right]

/-- The number of operands of the outermost operator. -/
def arity (expression : Expression) : Nat := expression.children.length

/-- The literal or the symbol at the root. -/
def label : Expression → String
  | .literal text => text
  | .unary symbol _ => symbol
  | .binary symbol _ _ => symbol

end Expression

end Reckoner
