import Reckoner.Expression
import Reckoner.Operator.Table
import Reckoner.Proofs.Grouping
import Reckoner.Token.Cursor

/-!
# Written expressions

An expression as it stands in a text, with the parentheses that it was written
with.  `erase` forgets the parentheses and `tokens` writes the expression out
again.

`Canonical` says that the operators of a table group the tokens in the way of
the written expression: where two applications touch without parentheses, the
outer operator accepts the inner one.
-/

namespace Reckoner

/-- An expression with its parentheses. -/
inductive Written where
  | literal (text : String)
  | unary (symbol : String) (operand : Written)
  | binary (symbol : String) (left right : Written)
  | parens (inner : Written)
  deriving Repr, DecidableEq

namespace Written

/-- The expression without its parentheses. -/
def erase : Written → Expression
  | .literal text => .literal text
  | .unary symbol operand => .unary symbol operand.erase
  | .binary symbol left right => .binary symbol left.erase right.erase
  | .parens inner => inner.erase

/-- The tokens that the expression is written with. -/
def tokens : Written → List Token
  | .literal text => [.number text]
  | .unary symbol operand => .operator symbol :: operand.tokens
  | .binary symbol left right =>
      left.tokens ++ .operator symbol :: right.tokens
  | .parens inner => .leftParen :: (inner.tokens ++ [.rightParen])

/-- Whether the outermost operator stands between its operands, with no
parentheses around them. -/
def isBinary : Written → Bool
  | .binary _ _ _ => true
  | _ => false

/-- The operator of a binary application without parentheses around it. -/
def root? (table : Table) : Written → Option Operator
  | .binary symbol _ _ => table.get? symbol
  | _ => none

/-- The operators of a table group the tokens of the expression in its way. -/
inductive Canonical (table : Table) : Written → Prop where
  | literal (text : String) : Canonical table (.literal text)
  | unary {symbol : String} {operand : Written} :
      operand.isBinary = false →
      Canonical table operand →
      Canonical table (.unary symbol operand)
  | binary {symbol : String} {operator : Operator} {left right : Written} :
      table.get? symbol = some operator →
      0 < operator.precedence →
      (∀ inner ∈ left.root? table, operator.AcceptsLeft inner) →
      (∀ inner ∈ right.root? table, operator.AcceptsRight inner) →
      Canonical table left →
      Canonical table right →
      Canonical table (.binary symbol left right)
  | parens {inner : Written} :
      Canonical table inner →
      Canonical table (.parens inner)

/-- The number of routines that are active at one time while the expression is
read: one for the chain and one for its operand, one more for every operator in
front of an operand, and two more for every pair of parentheses.  A right
operand is read inside the chain of its operator; a left one is read before. -/
def cost : Written → Nat
  | .literal _ => 2
  | .unary _ operand => 1 + operand.cost
  | .binary _ left right => max left.cost (1 + right.cost)
  | .parens inner => 2 + inner.cost

theorem two_le_cost (written : Written) : 2 ≤ written.cost := by
  induction written with
  | literal => exact Nat.le_refl 2
  | unary symbol operand bound => exact Nat.le_trans bound (Nat.le_add_left _ 1)
  | binary symbol left right leftBound _ =>
      exact Nat.le_trans leftBound (Nat.le_max_left _ _)
  | parens inner => exact Nat.le_add_right 2 _

theorem root?_of_not_isBinary {table : Table} {written : Written}
    (operand : written.isBinary = false) : written.root? table = none := by
  cases written with
  | binary symbol left right => simp [isBinary] at operand
  | literal | unary | parens => rfl

theorem Canonical.root?_positive {table : Table} {written : Written}
    (canonical : Canonical table written) :
    ∀ operator ∈ written.root? table, 0 < operator.precedence := by
  intro operator member
  cases canonical with
  | literal | unary | parens => simp [root?] at member
  | binary registered positive =>
      rw [root?, registered, Option.mem_some] at member
      exact member ▸ positive

theorem isLast_eq_false_of_mem_tokens {written : Written} {token : Token}
    (member : token ∈ written.tokens) : token.isLast = false := by
  induction written with
  | literal text =>
      cases List.mem_singleton.mp member
      rfl
  | unary symbol operand inOperand =>
      rcases List.mem_cons.mp member with rfl | tail
      · rfl
      · exact inOperand tail
  | binary symbol left right inLeft inRight =>
      rcases List.mem_append.mp member with front | back
      · exact inLeft front
      · rcases List.mem_cons.mp back with rfl | tail
        · rfl
        · exact inRight tail
  | parens inner inInner =>
      rcases List.mem_cons.mp member with rfl | tail
      · rfl
      · rcases List.mem_append.mp tail with front | back
        · exact inInner front
        · cases List.mem_singleton.mp back
          rfl

theorem cost_le_length_tokens (written : Written) :
    written.cost ≤ written.tokens.length + 1 := by
  induction written with
  | literal => exact Nat.le_refl 2
  | unary symbol operand bound =>
      simp only [cost, tokens, List.length_cons]
      omega
  | binary symbol left right leftBound rightBound =>
      simp only [cost, tokens, List.length_append, List.length_cons]
      omega
  | parens inner bound =>
      simp only [cost, tokens, List.length_cons, List.length_append,
        List.length_nil]
      omega

end Written

end Reckoner
