import Reckoner.Operator

/-!
# Grouping of neighbouring operators

When two operators stand next to each other without parentheses between them,
their precedences and associativities say which of them is applied first.
`AcceptsLeft` and `AcceptsRight` say this for one pair of operators; the
theorems below relate them to the floors that a right operand is read from.
-/

namespace Reckoner.Operator

/-- An application of `inner` needs no parentheses as the left operand of
`outer`. -/
def AcceptsLeft (outer inner : Operator) : Prop :=
  outer.precedence < inner.precedence ∨
    (inner.precedence = outer.precedence ∧ inner.associativity = .left ∧
      outer.associativity ≠ .neither)

/-- An application of `inner` needs no parentheses as the right operand of
`outer`. -/
def AcceptsRight (outer inner : Operator) : Prop :=
  outer.precedence < inner.precedence ∨
    (inner.precedence = outer.precedence ∧ outer.associativity = .right)

theorem AcceptsLeft.precedence_le {outer inner : Operator}
    (accepts : outer.AcceptsLeft inner) :
    outer.precedence ≤ inner.precedence := by
  rcases accepts with tighter | ⟨equal, _⟩
  · exact Int32.le_of_lt tighter
  · exact Int32.le_of_eq equal.symm

theorem AcceptsRight.precedence_le {outer inner : Operator}
    (accepts : outer.AcceptsRight inner) :
    outer.precedence ≤ inner.precedence := by
  rcases accepts with tighter | ⟨equal, _⟩
  · exact Int32.le_of_lt tighter
  · exact Int32.le_of_eq equal.symm

theorem AcceptsLeft.conflicts_eq_false {outer inner : Operator}
    (accepts : outer.AcceptsLeft inner) : inner.conflicts outer = false := by
  rcases accepts with tighter | ⟨_, leftward, grouped⟩
  · have apart : inner.precedence ≠ outer.precedence := by
      intro equal
      rw [equal] at tighter
      exact Int32.lt_irrefl tighter
    simp [conflicts, apart]
  · simp [conflicts, leftward, grouped]

theorem precedence_eq_of_conflicts {first second : Operator}
    (conflict : first.conflicts second = true) :
    first.precedence = second.precedence := by
  simp only [conflicts, Bool.and_eq_true, decide_eq_true_eq] at conflict
  exact conflict.1

theorem AcceptsLeft.not_right {outer inner : Operator}
    (accepts : outer.AcceptsLeft inner)
    (equal : inner.precedence = outer.precedence) :
    inner.associativity ≠ .right := by
  rcases accepts with tighter | ⟨_, leftward, _⟩
  · rw [equal] at tighter
    exact absurd tighter Int32.lt_irrefl
  · simp [leftward]

theorem AcceptsRight.right {outer inner : Operator}
    (accepts : outer.AcceptsRight inner)
    (looser : inner.precedence ≤ outer.precedence) :
    outer.associativity = .right := by
  rcases accepts with tighter | ⟨_, right⟩
  · exact absurd tighter (Int32.not_lt.mpr looser)
  · exact right

theorem floor_toInt {operator : Operator} (positive : 0 < operator.precedence) :
    operator.floor.toInt =
      if operator.associativity = .right then operator.precedence.toInt - 1
      else operator.precedence.toInt := by
  have bound : 0 < operator.precedence.toInt := by
    simpa using Int32.lt_iff_toInt_lt.mp positive
  cases grouping : operator.associativity with
  | left => simp [floor, grouping]
  | neither => simp [floor, grouping]
  | right =>
      have notLeast : operator.precedence ≠ Int32.minValue := by
        intro least
        rw [least] at bound
        exact absurd bound (by decide)
      have one : 1 ≤ operator.precedence :=
        Int32.le_iff_toInt_le.mpr (by simp only [Int32.toInt_one]; omega)
      simp only [floor, grouping, notLeast, if_false, if_true]
      exact Int32.toInt_sub_of_le _ _ (by decide) one

/-- A right operand is read from the floor that lets exactly the acceptable
operators in. -/
theorem floor_lt_iff_acceptsRight {outer inner : Operator}
    (positive : 0 < outer.precedence) :
    outer.floor < inner.precedence ↔ outer.AcceptsRight inner := by
  simp only [AcceptsRight, Int32.lt_iff_toInt_lt, floor_toInt positive,
    ← Int32.toInt_inj]
  by_cases right : outer.associativity = .right
  · simp only [right, if_true, and_true]
    omega
  · simp [right]

/-- The operator behind a right operand accepts the application in front of it
exactly if it does not bind tighter than the floor of that operand and leaves
the grouping clear. -/
theorem acceptsLeft_iff_floor {outer inner : Operator}
    (positive : 0 < inner.precedence) :
    outer.AcceptsLeft inner ↔
      ¬ inner.floor < outer.precedence ∧ inner.conflicts outer = false := by
  simp only [AcceptsLeft, conflicts, Int32.lt_iff_toInt_lt,
    floor_toInt positive, ← Int32.toInt_inj]
  cases inner.associativity <;> cases outer.associativity <;>
    simp <;> omega

theorem not_floor_lt {operator : Operator} {minimum : Int32}
    (positive : 0 < operator.precedence)
    (above : minimum < operator.precedence) :
    ¬ operator.floor < minimum := by
  rw [Int32.lt_iff_toInt_lt] at above ⊢
  rw [floor_toInt positive]
  split <;> omega

theorem floor_nonneg {operator : Operator}
    (positive : 0 < operator.precedence) : 0 ≤ operator.floor :=
  Int32.not_lt.mp (not_floor_lt positive positive)

end Reckoner.Operator
