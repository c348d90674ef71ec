import Reckoner.Proofs.Written

/-!
# Grouping to the left where there is none

A table can be relaxed: its operators without a grouping then group to the left.
What is canonical for a table stays so when it is relaxed.
-/

namespace Reckoner

namespace Operator

/-- The operator with a grouping to the left in place of none. -/
def relaxed (operator : Operator) : Operator :=
  { operator with associativity :=
      if operator.associativity = .neither then .left
      else operator.associativity }

variable {outer inner : Operator}

theorem relaxed_precedence (operator : Operator) :
    operator.relaxed.precedence = operator.precedence := rfl

theorem relaxed_associativity_eq_right_iff {operator : Operator} :
    operator.relaxed.associativity = .right ↔
      operator.associativity = .right := by
  cases grouping : operator.associativity <;> simp [relaxed, grouping]

theorem relaxed_acceptsRight_iff :
    outer.relaxed.AcceptsRight inner.relaxed ↔ outer.AcceptsRight inner := by
  simp only [AcceptsRight, relaxed_precedence,
    relaxed_associativity_eq_right_iff]

theorem acceptsLeft_iff_relaxed :
    outer.AcceptsLeft inner ↔
      outer.relaxed.AcceptsLeft inner.relaxed ∧
        inner.conflicts outer = false := by
  constructor
  · intro accepts
    refine ⟨?_, accepts.conflicts_eq_false⟩
    rcases accepts with tighter | ⟨equal, leftward, grouped⟩
    · exact .inl tighter
    · exact .inr ⟨equal, by simp [relaxed, leftward],
        by simp [relaxed, grouped]⟩
  · intro both
    obtain ⟨tighter | ⟨equal, leftward, _⟩, clear⟩ := both
    · exact .inl tighter
    · rw [relaxed_precedence, relaxed_precedence] at equal
      simp only [conflicts, equal, decide_true, Bool.true_and,
        Bool.or_eq_false_iff, decide_eq_false_iff_not] at clear
      obtain ⟨innerGrouped, outerGrouped⟩ := clear
      rw [relaxed] at leftward
      exact .inr ⟨equal, by simpa [innerGrouped] using leftward, outerGrouped⟩

end Operator

namespace Table

/-- The table with a grouping to the left for every operator without one. -/
def relaxed (table : Table) : Table where
  entries := table.entries.map fun entry =>
    ⟨entry.symbol, entry.operator.relaxed⟩
  ordered := List.pairwise_map.mpr table.ordered

theorem symbols_relaxed (table : Table) :
    table.relaxed.symbols = table.symbols := by
  simp [symbols, relaxed]

theorem get?_relaxed (table : Table) (symbol : String) :
    table.relaxed.get? symbol = (table.get? symbol).map Operator.relaxed := by
  simp only [get?, relaxed, List.find?_map, Option.map_map]
  rfl

end Table

namespace Written

variable {table : Table} {written : Written}

theorem root?_relaxed (table : Table) (written : Written) :
    written.root? table.relaxed =
      (written.root? table).map Operator.relaxed := by
  cases written with
  | binary symbol left right => exact table.get?_relaxed symbol
  | literal | unary | parens => rfl

theorem Canonical.relaxed (canonical : written.Canonical table) :
    written.Canonical table.relaxed := by
  induction canonical with
  | literal text => exact .literal text
  | unary operandOnly _ relaxedOperand =>
      exact .unary operandOnly relaxedOperand
  | parens _ relaxedInner => exact .parens relaxedInner
  | @binary symbol outer left right registered positive acceptsLeft acceptsRight
      _ _ relaxedLeft relaxedRight =>
      have found : table.relaxed.get? symbol = some outer.relaxed := by
        rw [table.get?_relaxed, registered, Option.map_some]
      refine .binary found positive ?_ ?_ relaxedLeft relaxedRight
      · intro inner member
        rw [root?_relaxed] at member
        obtain ⟨root, isRoot, rfl⟩ := Option.map_eq_some_iff.mp member
        exact (Operator.acceptsLeft_iff_relaxed.mp
          (acceptsLeft root isRoot)).1
      · intro inner member
        rw [root?_relaxed] at member
        obtain ⟨root, isRoot, rfl⟩ := Option.map_eq_some_iff.mp member
        exact Operator.relaxed_acceptsRight_iff.mpr (acceptsRight root isRoot)

end Written

end Reckoner
