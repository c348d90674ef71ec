import Reckoner.Proofs.Grammar

/-!
# The limit and the depth of the tree

The limit counts the routines that are active at one time, and a chain of
applications is read by one routine however long it is.  Its tree has one level
for every operator of the chain, so the limit does not bound the depth of the
tree.  It bounds the levels that are left when the steps down the left side of
a chain are not counted.
-/

namespace Reckoner

namespace Written

/-- The levels of the tree without the steps from an application to the chain
that it continues. -/
def levels : Written → Nat
  | .literal _ => 1
  | .unary _ operand => 1 + operand.levels
  | .binary _ left right =>
      if left.isBinary then max left.levels (1 + right.levels)
      else 1 + max left.levels right.levels
  | .parens inner => inner.levels

/-- The largest number of steps, on one path into the tree, from an application
to the chain that it continues. -/
def chainSteps : Written → Nat
  | .literal _ => 0
  | .unary _ operand => operand.chainSteps
  | .binary _ left right =>
      if left.isBinary then max (1 + left.chainSteps) right.chainSteps
      else max left.chainSteps right.chainSteps
  | .parens inner => inner.chainSteps

theorem depth_erase_le (written : Written) :
    written.erase.depth ≤ written.levels + written.chainSteps := by
  induction written with
  | literal => exact Nat.le_refl 1
  | unary symbol operand bound =>
      simp only [erase, Expression.depth, levels, chainSteps]
      omega
  | binary symbol left right leftBound rightBound =>
      simp only [erase, Expression.depth, levels, chainSteps]
      split <;> omega
  | parens inner bound => exact bound

theorem depth_erase_le_length_tokens (written : Written) :
    written.erase.depth ≤ written.tokens.length := by
  induction written with
  | literal => exact Nat.le_refl 1
  | unary symbol operand bound =>
      simp only [erase, Expression.depth, tokens, List.length_cons]
      omega
  | binary symbol left right leftBound rightBound =>
      simp only [erase, Expression.depth, tokens, List.length_append,
        List.length_cons]
      omega
  | parens inner bound =>
      simp only [erase, tokens, List.length_cons, List.length_append]
      omega

/-- An operand that is not an application leaves one routine to spare, which
pays for the level of the application that it starts. -/
theorem Canonical.levels_le_cost {table : Table} {written : Written}
    (canonical : written.Canonical table) :
    written.levels ≤ written.cost ∧
      (written.isBinary = false → written.levels + 1 ≤ written.cost) := by
  induction canonical with
  | literal text => exact ⟨Nat.le_succ 1, fun _ => Nat.le_refl 2⟩
  | unary operandOnly _ bound =>
      have spare := bound.2 operandOnly
      simp only [levels, cost]
      omega
  | @binary symbol operator left right _ _ _ _ _ _ leftBound rightBound =>
      refine ⟨?_, fun isOperand => absurd isOperand (by simp [isBinary])⟩
      rw [levels, cost]
      split
      · omega
      · rename_i notChain
        have spare := leftBound.2 (Bool.not_eq_true _ ▸ notChain)
        omega
  | parens _ bound =>
      simp only [levels, cost]
      omega

end Written

namespace Expression

/-- The limit bounds the levels of the tree that is handed on when the steps
from an application to the chain that it continues are not counted; with these
steps, the depth is still bounded by the length of the text. -/
theorem depth_of_parse_eq_ok {table : Table} {limit : Nat} {text : String}
    {expression : Expression}
    (success : parse table limit text = .ok expression) :
    ∃ written : Written, written.Canonical table ∧
      written.Spells table text ∧ written.erase = expression ∧
      written.levels ≤ limit ∧
      expression.depth ≤ written.levels + written.chainSteps ∧
      expression.depth ≤ text.length := by
  obtain ⟨written, canonical, spells, rfl, enough⟩ :=
    exists_of_parse_eq_ok success
  exact ⟨written, canonical, spells, rfl,
    Nat.le_trans canonical.levels_le_cost.1 enough,
    written.depth_erase_le,
    Nat.le_trans written.depth_erase_le_length_tokens
      spells.length_tokens_le⟩

theorem parse_sum_of_four :
    parse .standard 3 "1+2+3+4" =
      .ok (.binary "+" (.binary "+" (.binary "+" (.literal "1")
        (.literal "2")) (.literal "3")) (.literal "4")) := by
  have read : Lexeme.ofText .standard "1+2+3+4" =
      [⟨.number "1", 0⟩, ⟨.operator "+", 1⟩, ⟨.number "2", 2⟩,
       ⟨.operator "+", 3⟩, ⟨.number "3", 4⟩, ⟨.operator "+", 5⟩,
       ⟨.number "4", 6⟩, ⟨.endOfText, 7⟩] := by
    decide +kernel
  rw [parse, read]
  rfl

/-- The chain `1+2+3+4` has four levels and is read with a limit of three. -/
theorem limit_lt_depth_of_chain :
    ∃ expression, parse .standard 3 "1+2+3+4" = .ok expression ∧
      ¬ expression.depth ≤ 3 :=
  ⟨_, parse_sum_of_four, by decide⟩

theorem depth_of_chain :
    parse .standard 3 "1+2+3+4" =
        .ok (.binary "+" (.binary "+" (.binary "+" (.literal "1")
          (.literal "2")) (.literal "3")) (.literal "4")) ∧
      ∃ written : Written, written.Canonical .standard ∧
        written.Spells .standard "1+2+3+4" ∧ written.levels ≤ 3 ∧
        4 ≤ written.levels + written.chainSteps := by
  obtain ⟨written, canonical, spells, _, levels, depth, _⟩ :=
    depth_of_parse_eq_ok parse_sum_of_four
  exact ⟨parse_sum_of_four, written, canonical, spells, levels, depth⟩

end Expression

end Reckoner
