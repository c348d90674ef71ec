import Reckoner.Proofs.Balance
import Reckoner.Proofs.Grammar
import Reckoner.Proofs.Relaxing

/-!
# Operators that must not be chained

Two operators of one precedence leave the grouping open when one of them does
not group.  The parser compares an operator with the one before it in the same
chain only.  Where the first groups to the right it has handed the second on to
the chain of its right operand, and the two are not compared: this is the one
case in which such operators are accepted next to each other.
-/

namespace Reckoner

namespace Token

/-- The operators that divide the tokens bind tighter than a given one. -/
def Tighter (table : Table) (first : Operator) (tokens : List Token) : Prop :=
  ∀ symbol operator, Divides tokens symbol →
    table.get? symbol = some operator →
    first.precedence < operator.precedence

/-- Two operators stand between operands at one nesting, and those between them
at that nesting bind tighter. -/
def Chained (table : Table) (tokens : List Token) (first second : Operator) :
    Prop :=
  ∃ before firstSymbol between secondSymbol after,
    tokens = before ++ .operator firstSymbol ::
      (between ++ .operator secondSymbol :: after) ∧
    EndsOperand before ∧ EndsOperand between ∧ Balanced between ∧
    table.get? firstSymbol = some first ∧
    table.get? secondSymbol = some second ∧
    Tighter table first between

/-- An operator stands between operands with only tighter ones behind it at its
nesting. -/
def Trails (table : Table) (tokens : List Token) (first : Operator) : Prop :=
  ∃ before symbol behind, tokens = before ++ .operator symbol :: behind ∧
    EndsOperand before ∧ Balanced behind ∧
    table.get? symbol = some first ∧ Tighter table first behind

variable {table : Table} {tokens front middle back : List Token}
  {first second : Operator} {symbol : String}

theorem Divides.append (divides : Divides tokens symbol) :
    Divides (tokens ++ back) symbol := by
  obtain ⟨before, after, rfl, ends, level⟩ := divides
  exact ⟨before, after ++ back, by simp, ends, level⟩

theorem Tighter.of_append (tighter : Tighter table first (tokens ++ back)) :
    Tighter table first tokens := by
  intro symbol operator divides registered
  exact tighter symbol operator divides.append registered

theorem Chained.append_left (chained : Chained table tokens first second) :
    Chained table (front ++ tokens) first second := by
  obtain ⟨before, firstSymbol, between, secondSymbol, after, rfl, ends, rest⟩ :=
    chained
  exact ⟨front ++ before, firstSymbol, between, secondSymbol, after, by simp,
    ends.append, rest⟩

theorem Chained.append_right (chained : Chained table tokens first second) :
    Chained table (tokens ++ back) first second := by
  obtain ⟨before, firstSymbol, between, secondSymbol, after, rfl, rest⟩ :=
    chained
  exact ⟨before, firstSymbol, between, secondSymbol, after ++ back, by simp,
    rest⟩

theorem Chained.cons {token : Token}
    (chained : Chained table tokens first second) :
    Chained table (token :: tokens) first second := by
  rw [← List.singleton_append]
  exact chained.append_left

/-- What follows an operator of balanced tokens is balanced, if it closes no
parenthesis that it has not opened. -/
theorem Balanced.of_append_cons
    (balanced : Balanced (front ++ .operator symbol :: middle))
    (above : ∀ start rest, middle = start ++ rest → 0 ≤ nesting start) :
    nesting front = 0 ∧ Balanced middle := by
  have total := balanced.1
  have frontAbove := balanced.2 front _ rfl
  have middleAbove := above middle [] (List.append_nil _).symm
  simp only [nesting_append, nesting_cons, opening] at total
  exact ⟨by omega, by omega, above⟩

theorem Chained.of_append_singleton {token : Token}
    (plain : ∀ symbol, token ≠ .operator symbol)
    (chained : Chained table (tokens ++ [token]) first second) :
    Chained table tokens first second := by
  obtain ⟨before, firstSymbol, between, secondSymbol, after, equality, rest⟩ :=
    chained
  rw [← List.cons_append, ← List.append_assoc] at equality
  rcases append_cons_eq_append_cons_cases equality with
    ⟨middle, _, impossible⟩ | ⟨_, same, _⟩ | ⟨middle, inside, _⟩
  · simp at impossible
  · exact absurd same (plain _)
  · exact ⟨before, firstSymbol, between, secondSymbol, middle,
      by simp [inside], rest⟩

theorem Chained.of_cons {token : Token}
    (notEnd : token.isOperandEnd = false)
    (chained : Chained table (token :: tokens) first second) :
    Chained table tokens first second := by
  obtain ⟨before, firstSymbol, between, secondSymbol, after, equality, ends,
    rest⟩ := chained
  rcases List.cons_eq_append_iff.mp equality with
    ⟨rfl, _⟩ | ⟨before, rfl, tail⟩
  · exact absurd ends not_endsOperand_nil
  · exact ⟨before, firstSymbol, between, secondSymbol, after, tail,
      ends.of_cons notEnd, rest⟩

end Token

namespace Written

open Token

variable {table : Table} {symbol text : String}
  {operand left right inner written : Written} {first second outer : Operator}

theorem not_chained_literal :
    ¬ Chained table (literal text).tokens first second := by
  intro chained
  obtain ⟨_, _, _, _, _, equality, _⟩ := chained
  have lengths := congrArg List.length equality
  simp only [tokens, List.length_append, List.length_cons, List.length_nil]
    at lengths
  omega

/-- The operator behind a written expression divides the tokens that follow any
operator inside of it, if these are balanced. -/
theorem divides_behind {other : String} {before middle more : List Token}
    (inside : left.tokens = before ++ .operator other :: middle)
    (balanced : Balanced (middle ++ .operator symbol :: more)) :
    Balanced middle ∧ Divides (middle ++ .operator symbol :: more) symbol := by
  have ends := left.endsOperand_tokens
  have whole := left.balanced_tokens
  rw [inside] at ends whole
  have middleBalanced : Balanced middle := by
    refine (whole.of_append_cons ?_).2
    intro start rest split
    exact balanced.2 start (rest ++ .operator symbol :: more) (by simp [split])
  exact ⟨middleBalanced, middle, more, rfl, ends.of_append_cons rfl,
    middleBalanced.1⟩

/-- Where two operators of a binary application can meet. -/
theorem chained_of_binary (registered : table.get? symbol = some outer)
    (chained : Chained table (binary symbol left right).tokens first second) :
    Chained table left.tokens first second ∨
      Chained table right.tokens first second ∨
      (Trails table left.tokens first ∧
        (second = outer ∨ first.precedence < outer.precedence)) ∨
      (first = outer ∧ ∃ secondSymbol, Divides right.tokens secondSymbol ∧
        table.get? secondSymbol = some second) := by
  obtain ⟨before, firstSymbol, between, secondSymbol, after, equality, ends,
    betweenEnds, balanced, firstFound, secondFound, tighter⟩ := chained
  rcases append_cons_eq_append_cons_cases equality with
    ⟨middle, rfl, inside⟩ | ⟨_, same, inside⟩ | ⟨middle, inside, rest⟩
  · exact .inr (.inl ⟨middle, firstSymbol, between, secondSymbol, after, inside,
      ends.of_append_cons rfl, betweenEnds, balanced, firstFound, secondFound,
      tighter⟩)
  · cases same
    rw [registered, Option.some.injEq] at firstFound
    exact .inr (.inr (.inr ⟨firstFound.symm, secondSymbol,
      ⟨between, after, inside, betweenEnds, balanced.1⟩, secondFound⟩))
  · rcases append_cons_eq_append_cons_cases rest with
      ⟨more, rfl, _⟩ | ⟨rfl, same, _⟩ | ⟨more, rfl, _⟩
    · exact .inl ⟨before, firstSymbol, between, secondSymbol, more, inside,
        ends, betweenEnds, balanced, firstFound, secondFound, tighter⟩
    · cases same
      rw [registered, Option.some.injEq] at secondFound
      exact .inr (.inr (.inl ⟨⟨before, firstSymbol, between, inside, ends,
        balanced, firstFound, tighter⟩, .inl secondFound.symm⟩))
    · obtain ⟨middleBalanced, divides⟩ := divides_behind inside balanced
      have looser := tighter symbol outer divides registered
      exact .inr (.inr (.inl ⟨⟨before, firstSymbol, middle, inside, ends,
        middleBalanced, firstFound, tighter.of_append⟩, .inr looser⟩))

theorem chained_of_parens
    (chained : Chained table (parens inner).tokens first second) :
    Chained table inner.tokens first second :=
  (chained.of_cons rfl).of_append_singleton fun _ => Token.noConfusion

/-- An operator with only tighter ones behind it in a canonical expression binds
no tighter than the outermost one, and is the outermost one where both bind
equally tight and the outermost one does not group to the right: inside the right
operand it would bind tighter than the outermost one, and inside the left operand
the outermost one would stand behind it. -/
theorem Canonical.exists_root?_of_trails (canonical : written.Canonical table)
    (trails : Trails table written.tokens first) :
    ∃ root, written.root? table = some root ∧
      root.precedence ≤ first.precedence ∧
      (root.precedence = first.precedence →
        root.associativity ≠ .right → root = first) := by
  obtain ⟨before, symbol, behind, equality, ends, balanced, registered,
    tighter⟩ := trails
  have whole := written.balanced_tokens
  rw [equality] at whole
  obtain ⟨level, _⟩ := whole.of_append_cons balanced.2
  have divides : Divides written.tokens symbol :=
    ⟨before, behind, equality, ends, level⟩
  obtain ⟨root, operator, isRoot, found, looser⟩ :=
    canonical.exists_root?_of_divides divides
  rw [registered, Option.some.injEq] at found
  subst found
  refine ⟨root, isRoot, looser, ?_⟩
  intro equal notRight
  cases canonical with
  | literal | unary | parens => cases isRoot
  | @binary rootSymbol outer left right rootFound positive acceptsLeft acceptsRight
      leftCanonical rightCanonical =>
      rw [root?, rootFound, Option.some.injEq] at isRoot
      subst isRoot
      rcases append_cons_eq_append_cons_cases equality with
        ⟨middle, rfl, inside⟩ | ⟨_, same, _⟩ | ⟨middle, inside, rfl⟩
      · have rightDivides : Divides right.tokens symbol := by
          refine ⟨middle, behind, inside, ends.of_append_cons rfl, ?_⟩
          simpa [left.balanced_tokens.1, opening] using level
        obtain ⟨rightRoot, operator, isRoot, found, rightLooser⟩ :=
          rightCanonical.exists_root?_of_divides rightDivides
        rw [registered, Option.some.injEq] at found
        subst found
        exact absurd ((acceptsRight rightRoot isRoot).right
          (equal ▸ rightLooser)) notRight
      · cases same
        exact Option.some.inj (rootFound.symm.trans registered)
      · obtain ⟨_, rootDivides⟩ := divides_behind inside balanced
        have higher := tighter rootSymbol outer rootDivides rootFound
        rw [equal] at higher
        exact absurd higher Int32.lt_irrefl

/-- Of two operators that meet in a canonical expression and leave the grouping
open, the first groups to the right. -/
theorem Canonical.right_of_chained (canonical : written.Canonical table)
    (chained : Chained table written.tokens first second)
    (conflict : first.conflicts second = true) :
    first.associativity = .right := by
  have equal := Operator.precedence_eq_of_conflicts conflict
  induction canonical with
  | literal text => exact absurd chained not_chained_literal
  | unary _ _ inOperand => exact inOperand (chained.of_cons rfl)
  | parens _ inInner => exact inInner (chained_of_parens chained)
  | @binary symbol outer left right registered _ acceptsLeft acceptsRight
      leftCanonical rightCanonical inLeft inRight =>
      rcases chained_of_binary registered chained with
        leftward | rightward | ⟨trails, meets⟩ | ⟨rfl, _, divides, found⟩
      · exact inLeft leftward
      · exact inRight rightward
      · obtain ⟨root, isRoot, looser, isFirst⟩ :=
          leftCanonical.exists_root?_of_trails trails
        have accepts := acceptsLeft root isRoot
        rcases meets with rfl | higher
        · have level : root.precedence = first.precedence :=
            Int32.le_antisymm looser (equal ▸ accepts.precedence_le)
          have same : root = first :=
            isFirst level (accepts.not_right (level.trans equal))
          have clear := accepts.conflicts_eq_false
          rw [same, conflict] at clear
          cases clear
        · have tight := Int32.le_trans accepts.precedence_le looser
          exact absurd higher (Int32.not_lt.mpr tight)
      · obtain ⟨root, operator, isRoot, secondFound, looser⟩ :=
          rightCanonical.exists_root?_of_divides divides
        rw [found, Option.some.injEq] at secondFound
        subst secondFound
        exact (acceptsRight root isRoot).right (equal ▸ looser)

/-- Behind the root of a canonical expression stand only tighter operators, unless
the root groups to the right. -/
theorem Canonical.trails_of_root? (canonical : written.Canonical table)
    (isRoot : written.root? table = some first)
    (notRight : first.associativity ≠ .right) :
    Trails table written.tokens first := by
  cases canonical with
  | literal | unary | parens => cases isRoot
  | @binary rootSymbol root front back rootFound _ _ acceptsRight _
      backCanonical =>
      rw [root?, rootFound, Option.some.injEq] at isRoot
      subst isRoot
      refine ⟨front.tokens, rootSymbol, back.tokens, rfl,
        front.endsOperand_tokens, back.balanced_tokens, rootFound, ?_⟩
      intro between operator divides found
      obtain ⟨backRoot, _, isBackRoot, same, looser⟩ :=
        backCanonical.exists_root?_of_divides divides
      rw [found, Option.some.injEq] at same
      subst same
      rcases acceptsRight backRoot isBackRoot with tighter | ⟨_, rightward⟩
      · exact Int32.lt_of_lt_of_le tighter looser
      · exact absurd rightward notRight

/-- The root of a left operand meets the operator behind it, unless it groups to
the right. -/
theorem Canonical.chained_of_root? (canonical : left.Canonical table)
    (isRoot : left.root? table = some first)
    (notRight : first.associativity ≠ .right)
    (registered : table.get? symbol = some second) :
    Chained table (Written.binary symbol left right).tokens first second := by
  have ends := left.endsOperand_tokens
  obtain ⟨before, firstSymbol, between, tokens, frontEnds, balanced, found,
    tighter⟩ := canonical.trails_of_root? isRoot notRight
  rw [tokens] at ends
  refine ⟨before, firstSymbol, between, symbol, right.tokens, ?_, frontEnds,
    ends.of_append_cons rfl, balanced, found, registered, tighter⟩
  simp [Written.tokens, tokens]

/-- A canonical expression of the relaxed table is one of the table itself if
the operators that meet in it leave no grouping open. -/
theorem Canonical.of_relaxed (canonical : written.Canonical table.relaxed)
    (clear : ∀ first second, Chained table written.tokens first second →
      first.conflicts second = true → first.associativity = .right) :
    written.Canonical table := by
  induction canonical with
  | literal text => exact .literal text
  | unary operandOnly _ strictOperand =>
      refine .unary operandOnly (strictOperand ?_)
      intro first second chained
      exact clear first second chained.cons
  | parens _ strictInner =>
      refine .parens (strictInner ?_)
      intro first second chained
      exact clear first second chained.append_right.cons
  | @binary symbol relaxedOuter left right found positive acceptsLeft
      acceptsRight _ _ strictLeft strictRight =>
      rw [table.get?_relaxed] at found
      obtain ⟨outer, registered, rfl⟩ := Option.map_eq_some_iff.mp found
      have leftCanonical : left.Canonical table := by
        apply strictLeft
        intro first second chained
        exact clear first second chained.append_right
      have rightCanonical : right.Canonical table := by
        apply strictRight
        intro first second chained
        exact clear first second chained.cons.append_left
      refine .binary registered positive ?_ ?_ leftCanonical rightCanonical
      · intro root isRoot
        have accepts : outer.relaxed.AcceptsLeft root.relaxed := by
          apply acceptsLeft
          rw [root?_relaxed, isRoot]
          rfl
        refine Operator.acceptsLeft_iff_relaxed.mpr
          ⟨accepts, Bool.eq_false_iff.mpr ?_⟩
        intro conflict
        have equal := Operator.precedence_eq_of_conflicts conflict
        have notRight : root.associativity ≠ .right := by
          rw [ne_eq, ← Operator.relaxed_associativity_eq_right_iff]
          exact accepts.not_right equal
        exact notRight (clear root outer
          (leftCanonical.chained_of_root? isRoot notRight registered) conflict)
      · intro root isRoot
        apply Operator.relaxed_acceptsRight_iff.mp
        apply acceptsRight
        rw [root?_relaxed, isRoot]
        rfl

/-- Somewhere in a written expression an operator is applied to an application of
another one that has no parentheses around it. -/
inductive Meet (table : Table) : Written → Operator → Operator → Prop where
  | left {symbol : String} {left right : Written} {first second : Operator} :
      left.root? table = some first →
      table.get? symbol = some second →
      Meet table (.binary symbol left right) first second
  | right {symbol : String} {left right : Written} {first second : Operator} :
      table.get? symbol = some first →
      right.root? table = some second →
      Meet table (.binary symbol left right) first second
  | inLeft {symbol : String} {left right : Written} {first second : Operator} :
      Meet table left first second →
      Meet table (.binary symbol left right) first second
  | inRight {symbol : String} {left right : Written} {first second : Operator} :
      Meet table right first second →
      Meet table (.binary symbol left right) first second
  | inUnary {symbol : String} {operand : Written} {first second : Operator} :
      Meet table operand first second →
      Meet table (.unary symbol operand) first second
  | inParens {inner : Written} {first second : Operator} :
      Meet table inner first second →
      Meet table (.parens inner) first second

theorem Canonical.right_of_meet (canonical : written.Canonical table)
    (meet : Meet table written first second)
    (conflict : first.conflicts second = true) :
    first.associativity = .right := by
  induction meet with
  | left isRoot registered =>
      cases canonical with
      | binary found _ acceptsLeft =>
          cases registered.symm.trans found
          have clear := (acceptsLeft _ isRoot).conflicts_eq_false
          rw [conflict] at clear
          cases clear
  | right registered isRoot =>
      cases canonical with
      | binary found _ _ acceptsRight =>
          cases registered.symm.trans found
          have equal := Operator.precedence_eq_of_conflicts conflict
          exact (acceptsRight _ isRoot).right (Int32.le_of_eq equal.symm)
  | inLeft _ inLeft =>
      cases canonical with
      | binary _ _ _ _ leftCanonical _ => exact inLeft leftCanonical conflict
  | inRight _ inRight =>
      cases canonical with
      | binary _ _ _ _ _ rightCanonical => exact inRight rightCanonical conflict
  | inUnary _ inOperand =>
      cases canonical with
      | unary _ operandCanonical => exact inOperand operandCanonical conflict
  | inParens _ inInner =>
      cases canonical with
      | parens innerCanonical => exact inInner innerCanonical conflict

end Written

namespace Expression

open Token

variable {table : Table} {limit : Nat} {text : String}

theorem chained_of_spells {written : Written} {first second : Operator}
    (spells : written.Spells table text) :
    Chained table ((Lexeme.ofText table text).map Lexeme.token) first second ↔
      Chained table written.tokens first second := by
  rw [spells]
  exact ⟨fun chained => chained.of_append_singleton fun _ => Token.noConfusion,
    Chained.append_right⟩

/-- The parser accepts a text exactly if it accepts it with a grouping to the
left for every operator that has none, and of any two operators that meet in the
text and leave the grouping open the first groups to the right.  In the tree,
such operators meet only at a right operand. -/
theorem parse_eq_ok_iff_relaxed (table : Table) (limit : Nat) (text : String) :
    (∀ expression, parse table limit text = .ok expression ↔
      parse table.relaxed limit text = .ok expression ∧
        ∀ first second,
          Chained table ((Lexeme.ofText table text).map Lexeme.token)
            first second →
          first.conflicts second = true → first.associativity = .right) ∧
    (∀ expression, parse table limit text = .ok expression →
      ∃ written : Written, written.Canonical table ∧
        written.Spells table text ∧ written.erase = expression ∧
        ∀ first second, written.Meet table first second →
          first.conflicts second = true → first.associativity = .right) := by
  have sameLexemes : Lexeme.ofText table.relaxed text =
      Lexeme.ofText table text :=
    Cursor.lexemes_congr table.symbols_relaxed _
  refine ⟨?_, ?_⟩
  · intro expression
    constructor
    · intro success
      obtain ⟨written, canonical, spells, rfl, enough⟩ :=
        exists_of_parse_eq_ok success
      have relaxedSpells : written.Spells table.relaxed text := by
        rw [Written.Spells, sameLexemes, spells]
      constructor
      · rw [parse_of_canonical canonical.relaxed relaxedSpells, if_pos enough]
      · intro first second chained conflict
        exact canonical.right_of_chained
          ((chained_of_spells spells).mp chained) conflict
    · intro success
      obtain ⟨relaxedSuccess, clear⟩ := success
      obtain ⟨written, canonical, relaxedSpells, rfl, enough⟩ :=
        exists_of_parse_eq_ok relaxedSuccess
      have spells : written.Spells table text := by
        rw [Written.Spells, ← sameLexemes, relaxedSpells]
      have strict : written.Canonical table := by
        apply canonical.of_relaxed
        intro first second chained conflict
        exact clear first second ((chained_of_spells spells).mpr chained)
          conflict
      rw [parse_of_canonical strict spells, if_pos enough]
  · intro expression success
    obtain ⟨written, canonical, spells, erased, _⟩ :=
      exists_of_parse_eq_ok success
    exact ⟨written, canonical, spells, erased, fun first second =>
      canonical.right_of_meet⟩

/-- An operator that groups to the right and one that does not group, at one
precedence. -/
def mixedGrouping : Table :=
  Table.empty.insertAll
    [⟨"R", Arithmetic.power.operator 10 .right⟩,
     ⟨"N", Arithmetic.subtract.operator 10 .neither⟩]

theorem parse_right_then_neither :
    parse mixedGrouping 512 "1 R 2 N 3" =
      .ok (.binary "R" (.literal "1")
        (.binary "N" (.literal "2") (.literal "3"))) := by
  have read : Lexeme.ofText mixedGrouping "1 R 2 N 3" =
      [⟨.number "1", 0⟩, ⟨.operator "R", 2⟩, ⟨.number "2", 4⟩,
       ⟨.operator "N", 6⟩, ⟨.number "3", 8⟩, ⟨.endOfText, 9⟩] := by
    decide +kernel
  rw [parse, read]
  rfl

theorem parse_neither_then_right :
    parse mixedGrouping 512 "1 N 2 R 3" =
      .error (.nonAssociativeChain "R" 6) := by
  have read : Lexeme.ofText mixedGrouping "1 N 2 R 3" =
      [⟨.number "1", 0⟩, ⟨.operator "N", 2⟩, ⟨.number "2", 4⟩,
       ⟨.operator "R", 6⟩, ⟨.number "3", 8⟩, ⟨.endOfText, 9⟩] := by
    decide +kernel
  rw [parse, read]
  rfl

theorem parse_relaxed_mixedGrouping :
    parse mixedGrouping.relaxed 512 "1 R 2 N 3" =
        .ok (.binary "R" (.literal "1")
          (.binary "N" (.literal "2") (.literal "3"))) ∧
      ∃ written : Written, written.Canonical mixedGrouping ∧
        written.Spells mixedGrouping "1 R 2 N 3" ∧
        ∀ first second, written.Meet mixedGrouping first second →
          first.conflicts second = true → first.associativity = .right := by
  obtain ⟨accepted, inTree⟩ :=
    parse_eq_ok_iff_relaxed mixedGrouping 512 "1 R 2 N 3"
  obtain ⟨written, canonical, spells, _, meets⟩ :=
    inTree _ parse_right_then_neither
  exact ⟨((accepted _).mp parse_right_then_neither).1, written, canonical,
    spells, meets⟩

/-- With `R` to the right and `N` without a grouping at one precedence, the two
orders of the operators are not treated alike. -/
theorem parse_mixedGrouping :
    parse mixedGrouping 512 "1 R 2 N 3" =
        .ok (.binary "R" (.literal "1")
          (.binary "N" (.literal "2") (.literal "3"))) ∧
      parse mixedGrouping 512 "1 N 2 R 3" =
        .error (.nonAssociativeChain "R" 6) ∧
      ∃ first second, first.conflicts second = true ∧
        Chained mixedGrouping
          ((Lexeme.ofText mixedGrouping "1 R 2 N 3").map Lexeme.token)
          first second := by
  refine ⟨parse_right_then_neither, parse_neither_then_right,
    Arithmetic.power.operator 10 .right,
    Arithmetic.subtract.operator 10 .neither, by decide, ?_⟩
  have read : (Lexeme.ofText mixedGrouping "1 R 2 N 3").map Lexeme.token =
      [.number "1"] ++ .operator "R" ::
        ([.number "2"] ++ .operator "N" :: [.number "3", .endOfText]) := by
    decide +kernel
  refine ⟨_, _, _, _, _, read, ⟨_, rfl, rfl⟩, ⟨_, rfl, rfl⟩,
    (Written.literal "2").balanced_tokens, by rfl, by rfl, ?_⟩
  intro symbol operator divides
  exact absurd divides Written.not_divides_literal

end Expression

end Reckoner
