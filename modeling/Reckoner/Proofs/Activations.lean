import Mathlib.Data.List.Chain
import Reckoner.Proofs.Canonical
import Reckoner.Proofs.Reaching

/-!
# The contract of the routine for chains

Whatever a text is and however its parsing ends, every activation of the routine
for chains that is reached has kept `Activation.Contract`
(`Parser.activations_keep_contract`): it was called with a minimum that is
not negative, has left as many routines active as it found, and has taken
operators above the minimum only, none of which binds tighter than the one
before.  If it has returned an expression, it has made it from its first operand
with these operators, has read precisely the tokens of it, and no operator above
the minimum follows.

The operators of one activation are an invariant of the loop along the chain:
where the right operand of the last one has ended, nothing above its floor can
follow (`Observing.climbs_tail`).
-/

namespace Reckoner

/-- Whether a token is a parenthesis. -/
def Token.isParen : Token → Bool
  | .leftParen => true
  | .rightParen => true
  | _ => false

/-- The literals and symbols of an expression from left to right. -/
def Expression.inOrder : Expression → List Token
  | .literal text => [.number text]
  | .unary symbol operand => .operator symbol :: operand.inOrder
  | .binary symbol left right =>
      left.inOrder ++ .operator symbol :: right.inOrder

theorem Expression.inOrder_ne_nil (expression : Expression) :
    expression.inOrder ≠ [] := by
  cases expression with
  | literal | unary => exact List.cons_ne_nil _ _
  | binary symbol left right =>
      exact List.append_ne_nil_of_right_ne_nil _ (List.cons_ne_nil _ _)

/-- Without its parentheses an expression is written in order. -/
theorem Written.filter_tokens (written : Written) :
    written.tokens.filter (fun token => !token.isParen) =
      written.erase.inOrder := by
  induction written with
  | literal text => rfl
  | unary symbol operand inOperand =>
      exact congrArg (Token.operator symbol :: ·) inOperand
  | binary symbol left right inLeft inRight =>
      rw [tokens, erase, Expression.inOrder, List.filter_append, inLeft,
        List.filter_cons_of_pos rfl, inRight]
  | parens inner inInner =>
      rw [tokens, erase, List.filter_cons_of_neg (by decide),
        List.filter_append, inInner]
      exact List.append_nil _

/-- Only a registered symbol stands for an operator. -/
theorem Token.exists_of_operator?_eq_some {table : Table} {token : Token}
    {operator : Operator} (standsFor : token.operator? table = some operator) :
    ∃ symbol, token = .operator symbol ∧ table.get? symbol = some operator := by
  cases token with
  | operator symbol => exact ⟨symbol, rfl, standsFor⟩
  | number | leftParen | rightParen | endOfText | illegal => cases standsFor

theorem Stops.not_lt_of_operator? {table : Table} {minimum : Int32}
    {lexeme : Lexeme} {rest : List Lexeme} {operator : Operator}
    (stops : Stops table minimum (lexeme :: rest))
    (standsFor : lexeme.token.operator? table = some operator) :
    ¬ minimum < operator.precedence := by
  intro above
  exact Option.filter_eq_none_iff.mp stops.filter_operator?_eq_none operator
    standsFor (decide_eq_true above)

/-- Combining `first` with right operands, one operator after the other, makes
the expression. -/
inductive Expression.GrowsTo (table : Table) (first : Expression) :
    List Operator → Expression → Prop where
  | first : GrowsTo table first [] first
  | binary {operators : List Operator} {symbol : String} {operator : Operator}
      {left right : Expression} :
      GrowsTo table first operators left →
      table.get? symbol = some operator →
      GrowsTo table first (operators ++ [operator]) (.binary symbol left right)

/-- The operand that is read first in a chain grows to the expression. -/
def Parser.Assembles (table : Table) (limit : Nat) (entry : Parser)
    (operators : List Operator) (expression : Expression) : Prop :=
  ∃ first behind,
    entry.enter.readOperand table limit = (.ok first, behind) ∧
      first.GrowsTo table operators expression

namespace Operator

/-- `second` may be taken behind `first`: it does not bind tighter, and it binds
less tightly if `first` is grouped from the right. -/
def Descends (first second : Operator) : Prop :=
  second.precedence ≤ first.precedence ∧
    (first.associativity = .right → second.precedence < first.precedence)

theorem descends_of_not_floor_lt {first second : Operator}
    (positive : 0 < first.precedence)
    (outside : ¬ first.floor < second.precedence) :
    first.Descends second := by
  rw [Int32.lt_iff_toInt_lt, floor_toInt positive] at outside
  rw [Descends, Int32.le_iff_toInt_le, Int32.lt_iff_toInt_lt]
  constructor
  · split at outside <;> omega
  · intro right
    rw [if_pos right] at outside
    omega

end Operator

/-- What an activation has done that has returned an expression. -/
structure Activation.Returns (table : Table) (limit : Nat)
    (activation : Activation) (expression : Expression) : Prop where
  text_eq : activation.exit.lexer.text = activation.entry.lexer.text
  advanced :
    activation.entry.lexer.position < activation.exit.lexer.position
  /-- The operators have all been combined. -/
  combined :
    activation.entry.Assembles table limit activation.operators expression
  /-- What was read are the tokens of the expression and parentheses. -/
  taken : ∃ taken,
    activation.entry.ahead table = taken ++ activation.exit.ahead table ∧
      (taken.map Lexeme.token).filter (fun token => !token.isParen) =
        expression.inOrder
  /-- No operator that follows belongs to the chain. -/
  stops : ∀ operator ∈
    (activation.exit.lexer.next table).1.operator? table,
      ¬ activation.minimum < operator.precedence

/-- What every activation keeps to. -/
structure Activation.Contract (table : Table) (limit : Nat)
    (activation : Activation) : Prop where
  ran : activation.entry.readChain table limit activation.minimum =
    (activation.outcome, activation.exit)
  minimum_nonneg : 0 ≤ activation.minimum
  /-- No floor is cut off at the least number. -/
  floors : ∀ operator ∈ activation.operators,
    1 ≤ operator.precedence ∧ 0 ≤ operator.floor ∧
      operator.floor.toInt =
        if operator.associativity = .right then
          operator.precedence.toInt - 1
        else operator.precedence.toInt
  depth_eq : activation.exit.depth = activation.entry.depth
  deepest_le : activation.deepest ≤ limit
  above : ∀ operator ∈ activation.operators,
    activation.minimum < operator.precedence
  descending : activation.operators.IsChain Operator.Descends
  returned : ∀ expression, activation.outcome = .ok expression →
    activation.Returns table limit expression

namespace Parser

variable {table : Table} {limit room : Nat} {tokens : List Lexeme}
  {parser later : Parser} {minimum : Int32} {expression : Expression}

/-- Behind a chain no operator follows that belongs to it. -/
theorem Ready.stops_chain (ready : parser.Ready table limit room tokens)
    (ran : (Parsing.chain table limit room minimum).start parser =
      (.ok expression, later)) : Stops table minimum (later.ahead table) := by
  obtain ⟨outcome, reads, ends⟩ := ready.exists_ends_chain minimum
  rw [ran] at ends
  obtain ⟨written, rest, rfl, _, _, ahead_eq⟩ := ends.exists_read
  exact ahead_eq ▸ reads.ends written rest rfl

/-- A chain that returns an expression has taken its tokens and parentheses. -/
theorem Ready.exists_taken (ready : parser.Ready table limit room tokens)
    (ran : (Parsing.chain table limit room minimum).start parser =
      (.ok expression, later)) :
    later.Follows parser ∧ ∃ taken,
      parser.ahead table = taken ++ later.ahead table ∧
        (taken.map Lexeme.token).filter (fun token => !token.isParen) =
          expression.inOrder := by
  obtain ⟨outcome, reads, ends⟩ := ready.exists_ends_chain minimum
  rw [ran] at ends
  obtain ⟨written, rest, rfl, rfl, follows, ahead_eq⟩ := ends.exists_read
  obtain ⟨taken, input_eq, tokens_eq⟩ := reads.exists_taken written rest rfl
  refine ⟨follows, taken, ?_, ?_⟩
  · rw [ready.ahead_eq, ahead_eq]
    exact input_eq
  · rw [← written.filter_tokens, tokens_eq]
    rfl

/-- A parser that has taken a token has moved. -/
theorem Follows.position_lt (follows : later.Follows parser)
    {taken : List Lexeme} (nonempty : taken ≠ [])
    (ahead_eq : parser.ahead table = taken ++ later.ahead table) :
    parser.lexer.position < later.lexer.position := by
  apply Nat.lt_of_le_of_ne follows.position_le
  intro unmoved
  have lexer_eq : later.lexer = parser.lexer :=
    congrArg₂ Lexer.mk follows.text_eq unmoved.symm
  rw [ahead, ahead, lexer_eq] at ahead_eq
  exact nonempty (List.self_eq_append_left.mp ahead_eq)

theorem Ready.operator?_next (ready : parser.Ready table limit room tokens)
    (stops : Stops table minimum tokens) :
    ∀ operator ∈ (parser.lexer.next table).1.operator? table,
      ¬ minimum < operator.precedence := by
  intro operator standsFor
  obtain ⟨lexeme, rest, rfl⟩ := ready.exists_eq_cons
  obtain ⟨rfl, _⟩ := Cursor.lexemes_eq_cons ready.ahead_eq
  exact stops.not_lt_of_operator? standsFor

end Parser

namespace Observed

/-- What has been done so far is in order. -/
structure Sound (table : Table) (limit : Nat) (observed : Observed) :
    Prop where
  deepest_le : observed.deepest ≤ limit
  contracts : ∀ activation ∈ observed.activations,
    activation.Contract table limit

/-- The innermost active chain has taken operators above `minimum` only, in
descending order. -/
structure Climbs (table : Table) (limit : Nat) (minimum : Int32)
    (observed : Observed) : Prop extends Sound table limit observed where
  above : ∀ operator ∈ observed.operators, minimum < operator.precedence
  descending : observed.operators.IsChain Operator.Descends

/-- Routines inside the innermost active chain have been run, and have left its
operators alone. -/
structure LeadsTo (table : Table) (limit : Nat) (observed later : Observed) :
    Prop extends Sound table limit later where
  operators_eq : later.operators = observed.operators

variable {table : Table} {limit room : Nat} {minimum : Int32}
  {observed later : Observed} {tokens : List Lexeme}

theorem Sound.enter (sound : observed.Sound table limit)
    (ready : observed.parser.Ready table limit (room + 1) tokens) :
    observed.enter.Sound table limit where
  deepest_le := Nat.max_le.mpr ⟨sound.deepest_le, ready.enter.depth_le⟩
  contracts := sound.contracts

/-- A chain that is called has taken no operators. -/
theorem Sound.call (sound : observed.Sound table limit)
    (ready : observed.parser.Ready table limit room tokens)
    (minimum : Int32) : observed.call.Climbs table limit minimum where
  deepest_le := ready.depth_le
  contracts := sound.contracts
  above := fun _ member => nomatch member
  descending := List.isChain_nil

theorem Climbs.of_leadsTo (climbs : observed.Climbs table limit minimum)
    (leads : observed.LeadsTo table limit later) :
    later.Climbs table limit minimum where
  toSound := leads.toSound
  above := leads.operators_eq ▸ climbs.above
  descending := leads.operators_eq ▸ climbs.descending

theorem Climbs.leave (climbs : observed.Climbs table limit minimum) :
    observed.leave.Climbs table limit minimum where
  toSound := ⟨climbs.deepest_le, climbs.contracts⟩
  above := climbs.above
  descending := climbs.descending

theorem LeadsTo.leave (leads : observed.enter.LeadsTo table limit later) :
    observed.LeadsTo table limit later.leave where
  toSound := ⟨leads.deepest_le, leads.contracts⟩
  operators_eq := leads.operators_eq

theorem LeadsTo.trans {last : Observed}
    (first : observed.LeadsTo table limit later)
    (second : later.LeadsTo table limit last) :
    observed.LeadsTo table limit last where
  toSound := second.toSound
  operators_eq := second.operators_eq.trans first.operators_eq

/-- The operator behind the right operand of the last one may be taken, if it is
above the minimum. -/
theorem Climbs.take (climbs : observed.Climbs table limit minimum)
    (nonnegative : 0 ≤ minimum) {operator : Operator}
    (above : minimum < operator.precedence)
    (outside : ∀ last ∈ observed.operators.getLast?,
      ¬ last.floor < operator.precedence) :
    (observed.take operator).Climbs table limit minimum where
  toSound := ⟨climbs.deepest_le, climbs.contracts⟩
  above := by
    intro taken member
    rcases List.mem_append.mp member with before | last
    · exact climbs.above taken before
    · rw [List.mem_singleton.mp last]
      exact above
  descending := by
    refine List.isChain_append.mpr
      ⟨climbs.descending, List.isChain_singleton _, ?_⟩
    intro last atLast next atNext
    cases atNext
    apply Operator.descends_of_not_floor_lt _ (outside last atLast)
    exact Int32.lt_of_le_of_lt nonnegative
      (climbs.above last (List.mem_of_getLast? atLast))

/-- A chain that has climbed above a minimum keeps the contract. -/
theorem Climbs.contract (climbs : later.Climbs table limit minimum)
    (nonnegative : 0 ≤ minimum) {entry : Parser}
    (ready : entry.Ready table limit room tokens)
    {outcome : Except ParseError Expression}
    (ran : (Parsing.chain table limit room minimum).start entry =
      (outcome, later.parser))
    (combined : ∀ expression, outcome = .ok expression →
      entry.Assembles table limit later.operators expression) :
    Activation.Contract table limit
      ⟨minimum, entry, later.operators, later.deepest, outcome,
        later.parser⟩ where
  ran := (ready.readChain_eq minimum).trans ran
  minimum_nonneg := nonnegative
  floors := by
    intro operator member
    have positive := Int32.lt_of_le_of_lt nonnegative
      (climbs.above operator member)
    refine ⟨?_, Operator.floor_nonneg positive, Operator.floor_toInt positive⟩
    rw [Int32.lt_iff_toInt_lt] at positive
    exact Int32.le_iff_toInt_le.mpr positive
  depth_eq := by
    obtain ⟨_, _, ends⟩ := ready.exists_ends_chain minimum
    have depth_eq := ends.depth_eq
    rw [ran] at depth_eq
    exact depth_eq
  deepest_le := climbs.deepest_le
  above := climbs.above
  descending := climbs.descending
  returned := by
    rintro expression rfl
    obtain ⟨follows, taken, ahead_eq, inOrder⟩ := ready.exists_taken ran
    have laterReady := follows.ready ready rfl
    have nonempty : taken ≠ [] := by
      rintro rfl
      exact expression.inOrder_ne_nil inOrder.symm
    exact ⟨follows.text_eq, follows.position_lt nonempty ahead_eq,
      combined expression rfl, ⟨taken, ahead_eq, inOrder⟩,
      laterReady.operator?_next (ready.stops_chain ran)⟩

end Observed

open ParsingOn

namespace Observing

variable {table : Table} {limit room : Nat} {minimum : Int32}
  {observed : Observed} {tokens : List Lexeme} {α β : Type}

/-- In front of tokens the routine leaves what has been done in order, and the
operators of the active chain as they were. -/
def Safe (table : Table) (limit room : Nat) (routine : Observing α) : Prop :=
  ∀ (observed : Observed) (tokens : List Lexeme),
    observed.parser.Ready table limit room tokens →
    observed.Sound table limit →
    observed.LeadsTo table limit (routine.start observed).2

theorem leadsTo_silently (sound : observed.Sound table limit)
    (routine : Parsing α) :
    observed.LeadsTo table limit ((silently routine).start observed).2 where
  toSound := ⟨sound.deepest_le, sound.contracts⟩
  operators_eq := rfl

theorem leadsTo_bind {before : Observed} {first : Observing α}
    {rest : α → Observing β}
    (leads : before.LeadsTo table limit (first.start observed).2)
    (next : ∀ value later, before.LeadsTo table limit later →
      before.LeadsTo table limit ((rest value).start later).2) :
    before.LeadsTo table limit ((first >>= rest).start observed).2 := by
  rcases started : first.start observed with ⟨outcome, later⟩
  rw [started] at leads
  cases outcome with
  | ok value =>
      rw [start_bind_ok started]
      exact next value later leads
  | error fault =>
      rw [start_bind_error started]
      exact leads

/-- Reading takes the first token away that lies ahead, and nothing is to be told
about it. -/
theorem exists_start_next {lexeme : Lexeme} {rest : List Lexeme}
    (sound : observed.Sound table limit)
    (ready : observed.parser.Ready table limit room (lexeme :: rest)) :
    ∃ later, (silently (Parsing.next table)).start observed =
        (.ok lexeme, later) ∧
      observed.LeadsTo table limit later ∧
      (lexeme.token.isLast = false →
        later.parser.Ready table limit room rest) := by
  obtain ⟨parser, read, _, behind⟩ := ready.exists_start_next
  exact ⟨_, start_next_of_read observed read,
    ⟨⟨sound.deepest_le, sound.contracts⟩, rfl⟩, fun more => (behind more).1⟩

/-- A chain that climbs above its minimum is told about with its contract
kept. -/
theorem leadsTo_watch {routine : Observing Expression}
    {outcome : Except ParseError Expression} {later : Observed}
    (nonnegative : 0 ≤ minimum)
    (ready : observed.parser.Ready table limit room tokens)
    (sound : observed.Sound table limit)
    (observes : (watch minimum routine).Observes
      (Parsing.chain table limit room minimum))
    (ran : routine.start observed.call = (outcome, later))
    (climbs : later.Climbs table limit minimum)
    (combined : ∀ expression, outcome = .ok expression →
      observed.parser.Assembles table limit later.operators expression) :
    observed.LeadsTo table limit
      ((watch minimum routine).start observed).2 := by
  have same := observes.same observed
  rw [start_watch, ran] at same ⊢
  refine ⟨⟨Nat.max_le.mpr ⟨sound.deepest_le, climbs.deepest_le⟩, ?_⟩, rfl⟩
  intro activation member
  rcases List.mem_append.mp member with before | last
  · exact climbs.contracts activation before
  · rw [List.mem_singleton.mp last]
    exact climbs.contract nonnegative ready same.symm combined

/-- The operators of a chain are those it had, however a chain inside it
ends. -/
theorem restores_chain (table : Table) (limit room : Nat) (floor : Int32)
    (observed : Observed) :
    ((chain table limit room floor).start observed).2.operators =
      observed.operators := by
  rw [chain.eq_def, start_watch]
  rfl

/-- The rounds of a chain keep its operators above the minimum and descending:
behind the right operand of the last operator stands nothing above its floor.
An operator that is taken is the last one of the next round, and its operand has
ended at its floor. -/
theorem climbs_tail
    (chainSafe : ∀ floor, 0 ≤ floor →
      (chain table limit room floor).Safe table limit room)
    (nonnegative : 0 ≤ minimum) (count : Nat) (left : Expression)
    (previous : Option Operator)
    (ready : observed.parser.Ready table limit room tokens)
    (climbs : observed.Climbs table limit minimum)
    (closed : ∀ last ∈ observed.operators.getLast?,
      Stops table last.floor tokens) :
    ((tail table (fun floor => chain table limit room floor) minimum count left
      previous).start observed).2.Climbs table limit minimum := by
  induction count generalizing left previous observed tokens with
  | zero => exact climbs
  | succ count next =>
      obtain ⟨⟨token, position⟩, rest, rfl⟩ := ready.exists_eq_cons
      obtain ⟨later, started, unchanged, behind⟩ :=
        exists_start_next climbs.toSound ready
      have reading := climbs.of_leadsTo unchanged
      cases found : (token.operator? table).filter fun found =>
        minimum < found.precedence with
      | none =>
          rw [tail, start_tail_of_none started found]
          exact reading.of_leadsTo
            (leadsTo_silently reading.toSound (Parsing.pushBack token))
      | some operator =>
          obtain ⟨standsFor, above⟩ := Option.filter_eq_some_iff.mp found
          have above := of_decide_eq_true above
          have outside : ∀ last ∈ later.operators.getLast?,
              ¬ last.floor < operator.precedence := by
            intro last atLast
            rw [unchanged.operators_eq] at atLast
            exact (closed last atLast).not_lt_of_operator? standsFor
          have taken := reading.take nonnegative above outside
          obtain ⟨symbol, rfl, _⟩ := Token.exists_of_operator?_eq_some standsFor
          have takenReady :
              (later.take operator).parser.Ready table limit room rest :=
            behind rfl
          have leads := chainSafe operator.floor
            (Operator.floor_nonneg (Int32.lt_of_le_of_lt nonnegative above))
            _ rest takenReady taken.toSound
          have goesOn := taken.of_leadsTo leads
          cases conflicts : previous.any fun earlier =>
            earlier.conflicts operator with
          | true =>
              rw [tail, start_tail_of_conflict started found conflicts]
              exact reading
          | false =>
              rw [start_tail_take started found conflicts]
              rcases ran : (chain table limit room operator.floor).start
                (later.take operator) with ⟨outcome, last⟩
              rw [ran] at leads goesOn
              cases outcome with
              | error fault =>
                  rw [start_bind_error ran]
                  exact goesOn
              | ok right =>
                  rw [start_bind_ok ran]
                  have plain := ran_chain ran
                  have lastReady :=
                    (takenReady.follows_chain plain).ready takenReady rfl
                  apply next _ _ lastReady goesOn
                  intro previous atLast
                  rw [leads.operators_eq, Observed.getLast?_take] at atLast
                  cases atLast
                  exact takenReady.stops_chain plain

/-- What a tail returns has grown from the expression in front of it by the
operators that were taken. -/
theorem growsTo_tail {operand : Int32 → Observing Expression}
    (restores : ∀ floor observed,
      ((operand floor).start observed).2.operators = observed.operators)
    {count : Nat} {first left expression : Expression}
    {previous : Option Operator} {later : Observed}
    (grows : first.GrowsTo table observed.operators left)
    (ran : (tail table operand minimum count left previous).start observed =
      (.ok expression, later)) :
    first.GrowsTo table later.operators expression := by
  induction count generalizing left previous observed with
  | zero =>
      cases ran
      exact grows
  | succ count next =>
      obtain ⟨⟨token, position⟩, reading, started, operators_eq⟩ :
          ∃ lexeme reading, (silently (Parsing.next table)).start observed =
            (.ok lexeme, reading) ∧ reading.operators = observed.operators := by
        rw [start_silently, Parsing.start_next]
        exact ⟨_, _, rfl, rfl⟩
      cases found : (token.operator? table).filter fun found =>
        minimum < found.precedence with
      | none =>
          rw [tail, start_tail_of_none started found] at ran
          cases ran
          exact operators_eq ▸ grows
      | some operator =>
          obtain ⟨standsFor, _⟩ := Option.filter_eq_some_iff.mp found
          obtain ⟨symbol, rfl, registered⟩ :=
            Token.exists_of_operator?_eq_some standsFor
          cases conflicts : previous.any fun earlier =>
            earlier.conflicts operator with
          | true =>
              rw [tail, start_tail_of_conflict started found conflicts] at ran
              cases ran
          | false =>
              rw [start_tail_take started found conflicts] at ran
              have restored := restores operator.floor (reading.take operator)
              rcases ranRight : (operand operator.floor).start
                (reading.take operator) with ⟨outcome, last⟩
              cases outcome with
              | error fault =>
                  rw [start_bind_error ranRight] at ran
                  cases ran
              | ok right =>
                  rw [start_bind_ok ranRight] at ran
                  apply next _ ran
                  rw [ranRight] at restored
                  rw [restored, Observed.take, operators_eq]
                  exact grows.binary registered

theorem safe_operand
    (operandSafe : (operand table limit room).Safe table limit room)
    (chainSafe : (chain table limit room 0).Safe table limit room) :
    (operand table limit (room + 1)).Safe table limit (room + 1) := by
  intro observed tokens ready sound
  obtain ⟨⟨token, position⟩, rest, rfl⟩ := ready.exists_eq_cons
  obtain ⟨later, started, reading, behind⟩ :=
    exists_start_next (sound.enter ready) ready.enter
  rw [operand, start_descend _ ready.inside]
  apply Observed.LeadsTo.leave
  rw [start_bind_ok started]
  cases token with
  | leftParen =>
      have inside := reading.trans
        (chainSafe _ rest (behind rfl) reading.toSound)
      apply leadsTo_bind inside
      intro inner last closing
      exact closing.trans (leadsTo_silently closing.toSound _)
  | operator symbol =>
      have inside := reading.trans
        (operandSafe _ rest (behind rfl) reading.toSound)
      exact leadsTo_bind inside fun operand last ended => ended
  | number | rightParen | endOfText | illegal => exact reading

/-- A chain that has taken no operators reads its first operand without taking
any.  What the rounds behind it return has grown from this operand. -/
theorem climbs_first
    (operandSafe : (operand table limit room).Safe table limit room)
    (chainSafe : ∀ floor, 0 ≤ floor →
      (chain table limit room floor).Safe table limit room)
    (nonnegative : 0 ≤ minimum)
    (ready : observed.parser.Ready table limit room tokens)
    (climbs : observed.Climbs table limit minimum)
    (untaken : observed.operators = []) :
    let ended := (operand table limit room >>= fun left =>
      rounds table (fun floor => chain table limit room floor) minimum
        left).start observed
    ended.2.Climbs table limit minimum ∧
      ∀ expression, ended.1 = .ok expression → ∃ first behind,
        (Parsing.operand table limit room).start observed.parser =
            (.ok first, behind) ∧
          first.GrowsTo table ended.2.operators expression := by
  intro ended
  have leads := operandSafe observed tokens ready climbs.toSound
  rcases ran : (operand table limit room).start observed with ⟨outcome, later⟩
  rw [ran] at leads
  have goesOn := climbs.of_leadsTo leads
  cases outcome with
  | error fault =>
      have ended_eq : ended = (.error fault, later) := start_bind_error ran
      rw [ended_eq]
      refine ⟨goesOn, ?_⟩
      intro expression success
      cases success
  | ok left =>
      have ended_eq : ended =
          (tail table (fun floor => chain table limit room floor) minimum
            (later.parser.lexer.remaining.length + 1) left none).start later :=
        (start_bind_ok ran).trans (start_rounds _ minimum left)
      have plain := ran_operand ran
      have later_untaken : later.operators = [] :=
        leads.operators_eq.trans untaken
      rw [ended_eq]
      constructor
      · have follows := ready.follows_operand plain
        apply climbs_tail chainSafe nonnegative _ left none
          (follows.ready ready rfl) goesOn
        intro last atLast
        rw [later_untaken] at atLast
        cases atLast
      · intro expression success
        have grows : left.GrowsTo table later.operators left := by
          rw [later_untaken]
          exact .first
        exact ⟨left, later.parser, plain,
          growsTo_tail (restores_chain table limit room) grows
            (Prod.ext success rfl)⟩

theorem safe_chain
    (operandSafe : (operand table limit room).Safe table limit room)
    (chainSafe : ∀ floor, 0 ≤ floor →
      (chain table limit room floor).Safe table limit room)
    (nonnegative : 0 ≤ minimum) :
    (chain table limit (room + 1) minimum).Safe table limit (room + 1) := by
  intro observed tokens ready sound
  have observes := (observes_routines table limit (room + 1)).2 minimum
  have called := sound.call ready minimum
  have inside : observed.call.parser.depth < limit := ready.inside
  have entered : observed.call.enter.Climbs table limit minimum :=
    ⟨called.toSound.enter ready, called.above, called.descending⟩
  obtain ⟨climbs, assembles⟩ :=
    climbs_first operandSafe chainSafe nonnegative ready.enter entered rfl
  rw [chain] at observes ⊢
  apply leadsTo_watch nonnegative ready sound observes
    (start_descend _ inside) climbs.leave
  intro expression success
  obtain ⟨first, behind, ran, grows⟩ := assembles expression success
  exact ⟨first, behind, ready.enter.readOperand_eq.trans ran, grows⟩

/-- The routines leave what has been done in order. -/
theorem safe_routines (table : Table) (limit room : Nat) :
    (operand table limit room).Safe table limit room ∧
      ∀ minimum, 0 ≤ minimum →
        (chain table limit room minimum).Safe table limit room := by
  induction room with
  | zero =>
      constructor
      · intro observed tokens ready sound
        rw [operand]
        exact ⟨sound, rfl⟩
      · intro minimum nonnegative observed tokens ready sound
        have observes := (observes_routines table limit 0).2 minimum
        rw [chain] at observes ⊢
        apply leadsTo_watch nonnegative ready sound observes rfl
          (sound.call ready minimum)
        intro expression success
        cases success
  | succ room inner =>
      obtain ⟨operandSafe, chainSafe⟩ := inner
      constructor
      · exact safe_operand operandSafe (chainSafe 0 (Int32.le_refl 0))
      · intro minimum nonnegative
        exact safe_chain operandSafe chainSafe nonnegative

end Observing

namespace Parser

/-- While a text is parsed, the account tells about every activation of the
routine for chains that is reached, and each one has kept the contract. -/
theorem activations_keep_contract (table : Table) (limit : Nat)
    (text : String) :
    (observe table limit text).1 = parse table limit text ∧
    (∀ minimum entry, Reaches table limit text (.chain minimum) entry →
      ∃ activation ∈ (observe table limit text).2,
        activation.minimum = minimum ∧ activation.entry = entry) ∧
    ∀ activation ∈ (observe table limit text).2,
      activation.Contract table limit := by
  refine ⟨observe_fst table limit text,
    fun minimum entry reaches => reaches.exists_activation, ?_⟩
  have ready := ready_ofText table limit text
  have sound : (Observed.ofText text).Sound table limit :=
    ⟨Nat.zero_le limit, fun _ member => nomatch member⟩
  have leads := (Observing.safe_routines table limit limit).2 0
    (Int32.le_refl 0) (Observed.ofText text) _ ready sound
  exact (Observing.leadsTo_bind leads fun expression later ended =>
    ended.trans (Observing.leadsTo_silently ended.toSound _)).contracts

/-- The chain behind `*` is reached. -/
theorem activation_of_powers_keeps_contract :
    Reaches .scientific 8 "2*(3+4)**5-6" (.chain 20)
        ⟨⟨"2*(3+4)**5-6".toList, 2⟩, 1⟩ ∧
      ∃ activation ∈ (observe .scientific 8 "2*(3+4)**5-6").2,
        activation.minimum = 20 ∧
          activation.entry = ⟨⟨"2*(3+4)**5-6".toList, 2⟩, 1⟩ ∧
          activation.Contract .scientific 8 := by
  have first : Reaches .scientific 8 "2*(3+4)**5-6"
      (.tail 0 (.literal "2") none) ⟨⟨"2*(3+4)**5-6".toList, 1⟩, 1⟩ :=
    .behindFirst .whole (by decide) rfl
  have reached : Reaches .scientific 8 "2*(3+4)**5-6" (.chain 20)
      ⟨⟨"2*(3+4)**5-6".toList, 2⟩, 1⟩ := by
    have read : (Parsing.next .scientific).start
        ⟨⟨"2*(3+4)**5-6".toList, 1⟩, 1⟩ = (.ok ⟨.operator "*", 1⟩,
          ⟨⟨"2*(3+4)**5-6".toList, 2⟩, 1⟩) := by
      rfl
    have registered : Table.scientific.get? "*" =
        some (Arithmetic.multiply.operator 20 .left) := by
      rfl
    exact .right first read registered (by decide) rfl
  obtain ⟨_, told, keep⟩ :=
    activations_keep_contract .scientific 8 "2*(3+4)**5-6"
  obtain ⟨activation, member, minimum_eq, entry_eq⟩ := told 20 _ reached
  exact ⟨reached, activation, member, minimum_eq, entry_eq,
    keep activation member⟩

end Parser

end Reckoner
