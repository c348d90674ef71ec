import Mathlib.Data.List.Infix
import Reckoner.Proofs.OnDemand

/-!
# Parsing under observation

A parser that keeps an account of every activation of the routine for chains:
what it was called with, which operators it took, how many routines were active
meanwhile, and how it ended.  It calls for the same tokens and comes to the same
result as the parser without an account (`Observing.observes_routines`,
`Parser.observe_fst`).
-/

namespace Reckoner

/-- An activation of the routine for chains, from the call to the return. -/
structure Activation where
  /-- The precedence that operators have to exceed. -/
  minimum : Int32
  /-- The parser at the call. -/
  entry : Parser
  /-- The operators whose right operands were called for, in this order.  If an
  expression is returned, all of them have been combined. -/
  operators : List Operator
  /-- The greatest number of active routines between call and return. -/
  deepest : Nat
  outcome : Except ParseError Expression
  /-- The parser at the return. -/
  exit : Parser

/-- A parser with the account of what it has done.  The operators and the
greatest number of routines are those of the innermost active chain. -/
structure Observed where
  parser : Parser
  operators : List Operator
  deepest : Nat
  activations : List Activation

namespace Observed

/-- A parser at the start of a text, with nothing done. -/
def ofText (text : String) : Observed := ⟨.ofText text, [], 0, []⟩

/-- A further routine is called. -/
def enter (observed : Observed) : Observed :=
  { observed with
    parser := observed.parser.enter
    deepest := max observed.deepest observed.parser.enter.depth }

/-- A routine has returned. -/
def leave (observed : Observed) : Observed :=
  { observed with parser := observed.parser.leave }

/-- The right operand of an operator is called for. -/
def take (observed : Observed) (operator : Operator) : Observed :=
  { observed with operators := observed.operators ++ [operator] }

@[simp] theorem getLast?_take (observed : Observed) (operator : Operator) :
    (observed.take operator).operators.getLast? = some operator :=
  List.getLast?_concat

/-- A chain is called, of which nothing is known yet. -/
def call (observed : Observed) : Observed :=
  { observed with operators := [], deepest := observed.parser.depth }

/-- A chain that was called in `before` has returned. -/
def resume (before ended : Observed) (minimum : Int32)
    (outcome : Except ParseError Expression) : Observed where
  parser := ended.parser
  operators := before.operators
  deepest := max before.deepest ended.deepest
  activations := ended.activations ++
    [⟨minimum, before.parser, ended.operators, ended.deepest, outcome,
      ended.parser⟩]

end Observed

/-- A routine of a parser that keeps an account. -/
abbrev Observing := ParsingOn Observed

open ParsingOn

namespace Observing

/-- A routine of which there is nothing to tell. -/
def silently {α : Type} (routine : Parsing α) : Observing α := fun observed =>
  let ended := routine.start observed.parser
  (ended.1, { observed with parser := ended.2 })

/-- Notes that the right operand of an operator is called for. -/
def note (operator : Operator) : Observing Unit :=
  modify fun observed => observed.take operator

/-- Runs a routine as an activation to tell about. -/
def watch (minimum : Int32) (routine : Observing Expression) :
    Observing Expression := fun before =>
  let ended := routine.start before.call
  (ended.1, before.resume ended.2 minimum ended.1)

/-- Runs a routine inside the active ones, unless these reach the limit. -/
def descend {α : Type} (limit : Nat) (routine : Observing α) : Observing α :=
  routine.within (fun observed => observed.parser.depth) Observed.enter
    Observed.leave limit

/-- Extends a chain behind its first operand, as `Parsing.tail` does. -/
def tail (table : Table) (operand : Int32 → Observing Expression)
    (minimum : Int32) (count : Nat) (left : Expression)
    (previous : Option Operator) : Observing Expression :=
  ParsingOn.tail table (silently (Parsing.next table))
    (fun token => silently (Parsing.pushBack token))
    (fun operator => do
      note operator
      operand operator.floor)
    minimum count left previous

/-- Extends a chain behind its first operand until no more operator belongs to
it. -/
def rounds (table : Table) (operand : Int32 → Observing Expression)
    (minimum : Int32) (left : Expression) : Observing Expression := do
  let characters := (← get).parser.lexer.remaining.length
  tail table operand minimum (characters + 1) left none

mutual

/-- Parses an operand, as `Parsing.operand` does. -/
def operand (table : Table) (limit : Nat) (room : Nat) :
    Observing Expression := do
  match room with
  | 0 => throw (.nestingTooDeep limit)
  | room + 1 =>
      descend limit do
        let ⟨token, position⟩ ← silently (Parsing.next table)
        match token with
        | .number text => return .literal text
        | .leftParen =>
            let inner ← chain table limit room 0
            silently (Parsing.closeParen table position inner)
        | .operator symbol =>
            return .unary symbol (← operand table limit room)
        | .rightParen =>
            throw (.unexpectedToken Token.rightParen.display position)
        | .endOfText => throw .unexpectedEnd
        | .illegal ch => throw (.unrecognizedCharacter ch position)

/-- Parses a chain as `Parsing.chain` does, and tells about it. -/
def chain (table : Table) (limit : Nat) (room : Nat) (minimum : Int32) :
    Observing Expression :=
  watch minimum do
    match room with
    | 0 => throw (.nestingTooDeep limit)
    | room + 1 =>
        descend limit do
          rounds table (fun floor => chain table limit room floor) minimum
            (← operand table limit room)

end

/-- Parses all that remains as one expression. -/
def whole (table : Table) (limit : Nat) : Observing Expression := do
  let expression ← chain table limit limit 0
  silently do
    Expression.complete expression [← Parsing.next table]

variable {α β : Type} {observed later : Observed} {limit : Nat}

theorem start_silently (routine : Parsing α) :
    (silently routine).start observed =
      ((routine.start observed.parser).1,
        { observed with parser := (routine.start observed.parser).2 }) := rfl

theorem start_watch (minimum : Int32) (routine : Observing Expression) :
    (watch minimum routine).start observed =
      let ended := routine.start observed.call
      (ended.1, observed.resume ended.2 minimum ended.1) := rfl

theorem start_descend (routine : Observing α)
    (inside : observed.parser.depth < limit) :
    (descend limit routine).start observed =
      let ended := routine.start observed.enter
      (ended.1, ended.2.leave) :=
  start_within routine inside

/-- A routine with an account runs as one without, and only adds to the
account. -/
structure Observes (routine : Observing α) (plain : Parsing α) : Prop where
  same : ∀ observed,
    ((routine.start observed).1, (routine.start observed).2.parser) =
      plain.start observed.parser
  adds : ∀ observed,
    observed.activations <+: (routine.start observed).2.activations

theorem observes_silently (routine : Parsing α) :
    Observes (silently routine) routine where
  same _ := rfl
  adds _ := List.prefix_refl _

theorem observes_pure (value : α) : Observes (pure value) (pure value) where
  same _ := rfl
  adds _ := List.prefix_refl _

theorem observes_throw (fault : ParseError) :
    Observes (throw fault : Observing α) (throw fault) where
  same _ := rfl
  adds _ := List.prefix_refl _

/-- What a routine goes on with adds to the account of its beginning. -/
theorem prefix_bind {first : Observing α} {rest : α → Observing β}
    {plainRest : α → Parsing β}
    (next : ∀ value, Observes (rest value) (plainRest value))
    (observed : Observed) :
    (first.start observed).2.activations <+:
      ((first >>= rest).start observed).2.activations := by
  rcases started : first.start observed with ⟨outcome, later⟩
  cases outcome with
  | ok value =>
      rw [start_bind_ok started]
      exact (next value).adds later
  | error fault => rw [start_bind_error started]

theorem Observes.bind {first : Observing α} {plain : Parsing α}
    {rest : α → Observing β} {plainRest : α → Parsing β}
    (observes : Observes first plain)
    (next : ∀ value, Observes (rest value) (plainRest value)) :
    Observes (first >>= rest) (plain >>= plainRest) where
  same observed := by
    have same := observes.same observed
    rcases started : first.start observed with ⟨outcome, later⟩
    rw [started] at same
    cases outcome with
    | ok value =>
        rw [start_bind_ok started, start_bind_ok same.symm]
        exact (next value).same later
    | error fault =>
        rw [start_bind_error started, start_bind_error same.symm]
  adds observed := (observes.adds observed).trans (prefix_bind next observed)

theorem Observes.note {routine : Observing α} {plain : Parsing α}
    (observes : Observes routine plain) (operator : Operator) :
    Observes (Observing.note operator >>= fun _ => routine) plain where
  same observed := observes.same (observed.take operator)
  adds observed := observes.adds (observed.take operator)

theorem Observes.watch {routine : Observing Expression}
    {plain : Parsing Expression} (observes : Observes routine plain)
    (minimum : Int32) : Observes (Observing.watch minimum routine) plain where
  same observed := observes.same observed.call
  adds observed :=
    (observes.adds observed.call).trans (List.prefix_append _ _)

theorem Observes.descend {routine : Observing α} {plain : Parsing α}
    (observes : Observes routine plain) (limit : Nat) :
    Observes (Observing.descend limit routine)
      (Parsing.descend limit plain) where
  same observed := by
    by_cases inside : observed.parser.depth < limit
    · rw [start_descend routine inside, Parsing.descend,
        start_within plain inside]
      have same := observes.same observed.enter
      exact congrArg (fun ended => (ended.1, ended.2.leave)) same
    · have full := Nat.le_of_not_lt inside
      rw [Observing.descend, Parsing.descend,
        start_within_of_full routine full, start_within_of_full plain full]
  adds observed := by
    by_cases inside : observed.parser.depth < limit
    · rw [start_descend routine inside]
      exact observes.adds observed.enter
    · rw [Observing.descend,
        start_within_of_full routine (Nat.le_of_not_lt inside)]

variable {table : Table}

theorem observes_tail {operand : Int32 → Observing Expression}
    {plain : Int32 → Parsing Expression}
    (operandObserves : ∀ floor, Observes (operand floor) (plain floor))
    (minimum : Int32) (count : Nat) (left : Expression)
    (previous : Option Operator) :
    Observes (tail table operand minimum count left previous)
      (Parsing.tail table plain minimum count left previous) := by
  induction count generalizing left previous with
  | zero => exact observes_pure left
  | succ count next =>
      rw [tail, Parsing.tail, ParsingOn.tail, ParsingOn.tail]
      apply (observes_silently _).bind
      rintro ⟨token, position⟩
      dsimp only
      cases (token.operator? table).filter fun found =>
        minimum < found.precedence with
      | none => exact (observes_silently _).bind fun _ => observes_pure left
      | some operator =>
          dsimp only
          split
          · exact ⟨fun _ => rfl, fun _ => List.prefix_refl _⟩
          · apply ((operandObserves operator.floor).note operator).bind
            intro right
            exact next _ _

theorem start_rounds (operand : Int32 → Observing Expression)
    (minimum : Int32) (left : Expression) :
    (rounds table operand minimum left).start observed =
      (tail table operand minimum (observed.parser.lexer.remaining.length + 1)
        left none).start observed := rfl

theorem observes_rounds {operand : Int32 → Observing Expression}
    {plain : Int32 → Parsing Expression}
    (operandObserves : ∀ floor, Observes (operand floor) (plain floor))
    (minimum : Int32) (left : Expression) :
    Observes (rounds table operand minimum left) (do
      let characters := (← get).lexer.remaining.length
      Parsing.tail table plain minimum (characters + 1) left none) where
  same observed :=
    (observes_tail operandObserves minimum _ left none).same observed
  adds observed :=
    (observes_tail operandObserves minimum _ left none).adds observed

/-- The routines are those of the parser on demand, with an account. -/
theorem observes_routines (table : Table) (limit room : Nat) :
    Observes (operand table limit room) (Parsing.operand table limit room) ∧
    ∀ minimum, Observes (chain table limit room minimum)
      (Parsing.chain table limit room minimum) := by
  induction room with
  | zero =>
      constructor
      · rw [operand, Parsing.operand]
        exact observes_throw _
      · intro minimum
        rw [chain, Parsing.chain]
        exact (observes_throw _).watch minimum
  | succ room inner =>
      obtain ⟨operandObserves, chainObserves⟩ := inner
      constructor
      · rw [operand, Parsing.operand]
        apply Observes.descend
        apply (observes_silently _).bind
        rintro ⟨token, position⟩
        cases token with
        | number text => exact observes_pure _
        | leftParen =>
            exact (chainObserves 0).bind fun inner => observes_silently _
        | operator symbol =>
            exact operandObserves.bind fun operand => observes_pure _
        | rightParen | endOfText | illegal => exact observes_throw _
      · intro minimum
        rw [chain, Parsing.chain]
        apply Observes.watch
        apply Observes.descend
        apply operandObserves.bind
        exact observes_rounds chainObserves minimum

theorem ran_operand {room : Nat} {outcome : Except ParseError Expression}
    (ran : (operand table limit room).start observed = (outcome, later)) :
    (Parsing.operand table limit room).start observed.parser =
      (outcome, later.parser) := by
  have same := (observes_routines table limit room).1.same observed
  rw [ran] at same
  exact same.symm

theorem ran_chain {room : Nat} {minimum : Int32}
    {outcome : Except ParseError Expression}
    (ran : (chain table limit room minimum).start observed =
      (outcome, later)) :
    (Parsing.chain table limit room minimum).start observed.parser =
      (outcome, later.parser) := by
  have same := ((observes_routines table limit room).2 minimum).same observed
  rw [ran] at same
  exact same.symm

/-- A round that takes an operator notes it before the right operand is
called for. -/
theorem start_tail_take {operand : Int32 → Observing Expression} {count : Nat}
    {left : Expression} {previous : Option Operator} {token : Token}
    {position : Nat} {operator : Operator} {minimum : Int32}
    (started : (silently (Parsing.next table)).start observed =
      (.ok ⟨token, position⟩, later))
    (found : ((token.operator? table).filter fun found =>
      minimum < found.precedence) = some operator)
    (clear : (previous.any fun earlier => earlier.conflicts operator) =
      false) :
    (tail table operand minimum (count + 1) left previous).start observed =
      (operand operator.floor >>= fun right =>
        tail table operand minimum count (.binary token.display left right)
          (some operator)).start (later.take operator) := by
  rw [tail, start_tail_of_clear started found clear]
  rfl

end Observing

/-- The outcome of parsing a text, and the activations in the order of their
returns. -/
def Parser.observe (table : Table) (limit : Nat) (text : String) :
    Except ParseError Expression × List Activation :=
  let ended := (Observing.whole table limit).start (Observed.ofText text)
  (ended.1, ended.2.activations)

theorem Parser.observe_fst (table : Table) (limit : Nat) (text : String) :
    (observe table limit text).1 = parse table limit text := by
  have observes : Observing.Observes (Observing.whole table limit)
      (Parsing.whole table limit) :=
    ((Observing.observes_routines table limit limit).2 0).bind
      fun expression => Observing.observes_silently _
  exact congrArg Prod.fst (observes.same (Observed.ofText text))

end Reckoner
