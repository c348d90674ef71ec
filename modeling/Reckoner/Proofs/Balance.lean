import Reckoner.Proofs.Written

/-!
# Parentheses and operators between operands

Which operators of a token list stand between operands, and at which nesting,
can be told without reading the list as an expression: such an operator follows
the end of an operand, and the nesting counts the parentheses that are open.
-/

namespace Reckoner

namespace Token

/-- What a token adds to the number of open parentheses. -/
def opening : Token → Int
  | .leftParen => 1
  | .rightParen => -1
  | _ => 0

/-- The number of parentheses that are opened and not closed. -/
def nesting : List Token → Int
  | [] => 0
  | token :: rest => token.opening + nesting rest

/-- Every parenthesis that is opened is closed, and no other. -/
def Balanced (tokens : List Token) : Prop :=
  nesting tokens = 0 ∧
    ∀ front back, tokens = front ++ back → 0 ≤ nesting front

/-- Whether an operand can end with a token. -/
def isOperandEnd : Token → Bool
  | .number _ => true
  | .rightParen => true
  | _ => false

def EndsOperand (tokens : List Token) : Prop :=
  ∃ token ∈ tokens.getLast?, token.isOperandEnd = true

/-- A symbol stands between two operands, outside of all parentheses. -/
def Divides (tokens : List Token) (symbol : String) : Prop :=
  ∃ front back, tokens = front ++ .operator symbol :: back ∧
    EndsOperand front ∧ nesting front = 0

variable {token : Token} {tokens front back : List Token} {symbol : String}

@[simp] theorem nesting_cons (token : Token) (tokens : List Token) :
    nesting (token :: tokens) = token.opening + nesting tokens := rfl

@[simp] theorem nesting_append (front back : List Token) :
    nesting (front ++ back) = nesting front + nesting back := by
  induction front with
  | nil => exact (Int.zero_add (nesting back)).symm
  | cons token front total =>
      rw [List.cons_append, nesting_cons, nesting_cons, total]
      omega

theorem balanced_nil : Balanced [] := by
  refine ⟨rfl, ?_⟩
  intro front back equality
  rw [(List.append_eq_nil_iff.mp equality.symm).1]
  exact Int.le_refl 0

theorem Balanced.cons (flat : token.opening = 0) (balanced : Balanced tokens) :
    Balanced (token :: tokens) := by
  refine ⟨by rw [nesting_cons, flat, balanced.1]; rfl, ?_⟩
  intro front back equality
  rcases List.cons_eq_append_iff.mp equality with ⟨rfl, _⟩ | ⟨front, rfl, rest⟩
  · exact Int.le_refl 0
  · have bound := balanced.2 front back rest
    rw [nesting_cons, flat]
    omega

theorem Balanced.append (frontBalanced : Balanced front)
    (backBalanced : Balanced back) : Balanced (front ++ back) := by
  refine ⟨by rw [nesting_append, frontBalanced.1, backBalanced.1]; rfl, ?_⟩
  intro first second equality
  rcases List.append_eq_append_iff.mp equality with
    ⟨middle, rfl, rest⟩ | ⟨middle, rest, _⟩
  · have bound := backBalanced.2 middle second rest
    rw [nesting_append, frontBalanced.1]
    omega
  · exact frontBalanced.2 first middle rest

theorem Balanced.parens (balanced : Balanced tokens) :
    Balanced (.leftParen :: (tokens ++ [.rightParen])) := by
  refine ⟨by simp [balanced.1, opening, nesting], ?_⟩
  intro front back equality
  rcases List.cons_eq_append_iff.mp equality with ⟨rfl, _⟩ | ⟨front, rfl, rest⟩
  · exact Int.le_refl 0
  · rw [nesting_cons]
    rcases List.append_eq_append_iff.mp rest with
      ⟨middle, rfl, final⟩ | ⟨middle, inside, _⟩
    · have small : middle = [] ∨ middle = [.rightParen] := by
        rcases List.cons_eq_append_iff.mp final with
          ⟨empty, _⟩ | ⟨middle, rfl, none⟩
        · exact .inl empty
        · rw [(List.append_eq_nil_iff.mp none.symm).1]
          exact .inr rfl
      rcases small with rfl | rfl
      · simp [balanced.1, opening]
      · simp [balanced.1, opening, nesting]
    · have bound := balanced.2 front middle inside
      simp only [opening]
      omega

theorem EndsOperand.append (ends : EndsOperand back) :
    EndsOperand (front ++ back) := by
  obtain ⟨token, last, isEnd⟩ := ends
  refine ⟨token, ?_, isEnd⟩
  rw [List.getLast?_append, Option.mem_def.mp last]
  rfl

theorem EndsOperand.cons (ends : EndsOperand tokens) :
    EndsOperand (token :: tokens) := by
  rw [← List.singleton_append]
  exact ends.append

theorem not_endsOperand_nil : ¬ EndsOperand [] := by
  intro ends
  obtain ⟨token, last, _⟩ := ends
  cases last

/-- No operand ends with an operator or an opening parenthesis. -/
theorem EndsOperand.of_append_cons (notEnd : token.isOperandEnd = false)
    (ends : EndsOperand (front ++ token :: back)) : EndsOperand back := by
  obtain ⟨last, member, isEnd⟩ := ends
  rw [List.getLast?_append] at member
  cases back with
  | nil =>
      rw [List.getLast?_singleton, Option.some_or, Option.mem_some] at member
      rw [member, isEnd] at notEnd
      cases notEnd
  | cons next back =>
      rw [List.getLast?_cons_cons, List.getLast?_cons] at member
      exact ⟨last, by rwa [List.getLast?_cons], isEnd⟩

theorem EndsOperand.of_cons (notEnd : token.isOperandEnd = false)
    (ends : EndsOperand (token :: tokens)) : EndsOperand tokens := by
  rw [← List.nil_append (token :: tokens)] at ends
  exact ends.of_append_cons notEnd

/-- A token list is cut in two ways at once: the one cut is before the other,
at the same token, or behind it. -/
theorem append_cons_eq_append_cons_cases {first second : Token}
    {firstFront firstBack secondFront secondBack : List Token}
    (equality : firstFront ++ first :: firstBack =
      secondFront ++ second :: secondBack) :
    (∃ middle, secondFront = firstFront ++ first :: middle ∧
        firstBack = middle ++ second :: secondBack) ∨
      (firstFront = secondFront ∧ first = second ∧ firstBack = secondBack) ∨
      ∃ middle, firstFront = secondFront ++ second :: middle ∧
        secondBack = middle ++ first :: firstBack := by
  rcases List.append_eq_append_iff.mp equality with
    ⟨middle, rfl, rest⟩ | ⟨middle, rfl, rest⟩
  · rcases List.cons_eq_append_iff.mp rest with
      ⟨rfl, same⟩ | ⟨middle, rfl, tail⟩
    · cases same
      exact .inr (.inl ⟨(List.append_nil _).symm, rfl, rfl⟩)
    · exact .inl ⟨middle, rfl, tail⟩
  · rcases List.cons_eq_append_iff.mp rest with
      ⟨rfl, same⟩ | ⟨middle, rfl, tail⟩
    · cases same
      exact .inr (.inl ⟨List.append_nil _, rfl, rfl⟩)
    · exact .inr (.inr ⟨middle, rfl, tail⟩)

end Token

namespace Written

open Token

theorem balanced_tokens (written : Written) : Balanced written.tokens := by
  induction written with
  | literal text => exact balanced_nil.cons rfl
  | unary symbol operand balanced => exact balanced.cons rfl
  | binary symbol left right leftBalanced rightBalanced =>
      exact leftBalanced.append (rightBalanced.cons rfl)
  | parens inner balanced => exact balanced.parens

theorem endsOperand_tokens (written : Written) :
    EndsOperand written.tokens := by
  induction written with
  | literal text => exact ⟨.number text, rfl, rfl⟩
  | unary symbol operand ends => exact ends.cons
  | binary symbol left right _ ends => exact ends.cons.append
  | parens inner _ =>
      apply EndsOperand.cons
      apply EndsOperand.append
      exact ⟨.rightParen, rfl, rfl⟩

variable {symbol other text : String} {operand left right inner : Written}

theorem not_divides_literal : ¬ Divides (literal text).tokens symbol := by
  intro divides
  obtain ⟨front, back, equality, ends, _⟩ := divides
  rcases List.cons_eq_append_iff.mp equality with ⟨rfl, _⟩ | ⟨front, _, rest⟩
  · exact not_endsOperand_nil ends
  · exact absurd rest.symm (by simp)

theorem divides_of_unary
    (divides : Divides (unary other operand).tokens symbol) :
    Divides operand.tokens symbol := by
  obtain ⟨front, back, equality, ends, level⟩ := divides
  rcases List.cons_eq_append_iff.mp equality with
    ⟨rfl, _⟩ | ⟨front, rfl, rest⟩
  · exact absurd ends not_endsOperand_nil
  · refine ⟨front, back, rest, ends.of_cons rfl, ?_⟩
    simpa [opening] using level

theorem not_divides_parens : ¬ Divides (parens inner).tokens symbol := by
  intro divides
  obtain ⟨front, back, equality, ends, level⟩ := divides
  rcases List.cons_eq_append_iff.mp equality with
    ⟨rfl, _⟩ | ⟨front, rfl, rest⟩
  · exact not_endsOperand_nil ends
  · rcases append_cons_eq_append_cons_cases rest with
      ⟨middle, _, impossible⟩ | ⟨_, impossible, _⟩ | ⟨middle, inside, _⟩
    · simp at impossible
    · cases impossible
    · have bound := inner.balanced_tokens.2 _ _ inside
      rw [nesting_cons, opening] at level
      omega

theorem divides_of_binary
    (divides : Divides (binary other left right).tokens symbol) :
    Divides left.tokens symbol ∨ symbol = other ∨
      Divides right.tokens symbol := by
  obtain ⟨front, back, equality, ends, level⟩ := divides
  rcases append_cons_eq_append_cons_cases equality with
    ⟨middle, rfl, rest⟩ | ⟨_, same, _⟩ | ⟨middle, inside, _⟩
  · refine .inr (.inr ⟨middle, back, rest, ends.of_append_cons rfl, ?_⟩)
    simpa [opening, left.balanced_tokens.1] using level
  · cases same
    exact .inr (.inl rfl)
  · exact .inl ⟨front, middle, inside, ends, level⟩

/-- An operator that divides a canonical expression binds no looser than the
outermost one. -/
theorem Canonical.exists_root?_of_divides {table : Table} {written : Written}
    (canonical : written.Canonical table)
    (divides : Divides written.tokens symbol) :
    ∃ root operator, written.root? table = some root ∧
      table.get? symbol = some operator ∧
      root.precedence ≤ operator.precedence := by
  induction canonical with
  | literal text => exact absurd divides not_divides_literal
  | unary operandOnly _ inOperand =>
      obtain ⟨root, _, isRoot, _⟩ := inOperand (divides_of_unary divides)
      rw [root?_of_not_isBinary operandOnly] at isRoot
      cases isRoot
  | @binary binarySymbol outer left right registered _ acceptsLeft acceptsRight _ _
      inLeft inRight =>
      rcases divides_of_binary divides with leftward | rfl | rightward
      · obtain ⟨root, operator, isRoot, found, looser⟩ := inLeft leftward
        have tighter := (acceptsLeft root isRoot).precedence_le
        exact ⟨outer, operator, registered, found,
          Int32.le_trans tighter looser⟩
      · exact ⟨outer, outer, registered, registered, Int32.le_refl _⟩
      · obtain ⟨root, operator, isRoot, found, looser⟩ := inRight rightward
        have tighter := (acceptsRight root isRoot).precedence_le
        exact ⟨outer, operator, registered, found,
          Int32.le_trans tighter looser⟩
  | parens _ _ => exact absurd divides not_divides_parens

end Written

end Reckoner
