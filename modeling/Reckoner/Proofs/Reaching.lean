import Reckoner.Proofs.Observation

/-!
# The calls that are reached

`Parser.Reaches` follows the parser on demand through a text, with one rule for
every call of a routine and no regard to any account.  The account of an observed
parser tells about every chain that is reached (`Parser.Reaches.exists_told`).
-/

namespace Reckoner

/-- A routine that is called, or a chain behind some of its operands. -/
inductive Stage where
  | operand
  | chain (minimum : Int32)
  | tail (minimum : Int32) (left : Expression) (previous : Option Operator)

namespace Parser

/-- Runs the routine for operands with what the active routines leave of the
limit. -/
def readOperand (table : Table) (limit : Nat) (parser : Parser) :
    Except ParseError Expression × Parser :=
  (Parsing.operand table limit (limit - parser.depth)).start parser

/-- Runs the routine for chains with what the active routines leave of the
limit. -/
def readChain (table : Table) (limit : Nat) (minimum : Int32)
    (parser : Parser) : Except ParseError Expression × Parser :=
  (Parsing.chain table limit (limit - parser.depth) minimum).start parser

/-- Parsing the text comes to a call, with the parser in this state. -/
inductive Reaches (table : Table) (limit : Nat) (text : String) :
    Stage → Parser → Prop where
  | whole : Reaches table limit text (.chain 0) (ofText text)
  | first {minimum : Int32} {parser : Parser} :
      Reaches table limit text (.chain minimum) parser →
      parser.depth < limit →
      Reaches table limit text .operand parser.enter
  | behindFirst {minimum : Int32} {parser later : Parser}
      {left : Expression} :
      Reaches table limit text (.chain minimum) parser →
      parser.depth < limit →
      parser.enter.readOperand table limit = (.ok left, later) →
      Reaches table limit text (.tail minimum left none) later
  | parens {parser later : Parser} {position : Nat} :
      Reaches table limit text .operand parser →
      parser.depth < limit →
      (Parsing.next table).start parser.enter =
        (.ok ⟨.leftParen, position⟩, later) →
      Reaches table limit text (.chain 0) later
  | unary {parser later : Parser} {symbol : String} {position : Nat} :
      Reaches table limit text .operand parser →
      parser.depth < limit →
      (Parsing.next table).start parser.enter =
        (.ok ⟨.operator symbol, position⟩, later) →
      Reaches table limit text .operand later
  | right {minimum : Int32} {left : Expression} {previous : Option Operator}
      {parser later : Parser} {symbol : String} {position : Nat}
      {operator : Operator} :
      Reaches table limit text (.tail minimum left previous) parser →
      (Parsing.next table).start parser =
        (.ok ⟨.operator symbol, position⟩, later) →
      table.get? symbol = some operator →
      minimum < operator.precedence →
      (previous.any fun earlier => earlier.conflicts operator) = false →
      Reaches table limit text (.chain operator.floor) later
  | behindRight {minimum : Int32} {left right : Expression}
      {previous : Option Operator} {parser later last : Parser}
      {symbol : String} {position : Nat} {operator : Operator} :
      Reaches table limit text (.tail minimum left previous) parser →
      (Parsing.next table).start parser =
        (.ok ⟨.operator symbol, position⟩, later) →
      table.get? symbol = some operator →
      minimum < operator.precedence →
      (previous.any fun earlier => earlier.conflicts operator) = false →
      later.readChain table limit operator.floor = (.ok right, last) →
      Reaches table limit text
        (.tail minimum (.binary symbol left right) (some operator)) last

variable {table : Table} {limit room : Nat} {tokens : List Lexeme}
  {parser later : Parser} {lexeme : Lexeme}

theorem Ready.readOperand_eq (ready : parser.Ready table limit room tokens) :
    parser.readOperand table limit =
      (Parsing.operand table limit room).start parser := by
  rw [readOperand, ready.room_eq]

theorem Ready.readChain_eq (ready : parser.Ready table limit room tokens)
    (minimum : Int32) :
    parser.readChain table limit minimum =
      (Parsing.chain table limit room minimum).start parser := by
  rw [readChain, ready.room_eq]

theorem Ready.exists_room (ready : parser.Ready table limit room tokens)
    (inside : parser.depth < limit) : ∃ less, room = less + 1 := by
  apply Nat.exists_eq_add_one.mpr
  have depth_eq := ready.depth_eq
  omega

/-- Behind a token that is not the last one the parser is ready for more. -/
theorem Ready.behind_next (ready : parser.Ready table limit room tokens)
    (read : (Parsing.next table).start parser = (.ok lexeme, later))
    (more : lexeme.token.isLast = false) :
    later.Ready table limit room (later.ahead table) ∧
      later.lexer.remaining.length < parser.lexer.remaining.length := by
  obtain ⟨first, rest, rfl⟩ := ready.exists_eq_cons
  obtain ⟨behind, started, follows, shorter⟩ := ready.exists_start_next
  rw [read] at started
  cases started
  exact ⟨follows.ready ready rfl, (shorter more).2⟩

end Parser

open ParsingOn

namespace Observing

variable {table : Table} {limit room count : Nat} {minimum : Int32}
  {observed later : Observed} {position : Nat} {symbol : String}
  {left : Expression} {previous : Option Operator} {operator : Operator}

theorem start_next_of_read (observed : Observed) {parser : Parser}
    {lexeme : Lexeme}
    (read : (Parsing.next table).start observed.parser =
      (.ok lexeme, parser)) :
    (silently (Parsing.next table)).start observed =
      (.ok lexeme, { observed with parser := parser }) := by
  rw [start_silently, read]

/-- A chain tells what its first operand tells. -/
theorem prefix_first (inside : observed.parser.depth < limit) :
    ((operand table limit room).start observed.call.enter).2.activations <+:
      ((chain table limit (room + 1) minimum).start observed).2.activations := by
  have chainObserves := (observes_routines table limit room).2
  have inside : observed.call.parser.depth < limit := inside
  rw [chain, start_watch, start_descend _ inside]
  exact (prefix_bind (observes_rounds chainObserves minimum) _).trans
    (List.prefix_append _ _)

/-- A chain tells what the rounds behind its first operand tell. -/
theorem prefix_rounds (inside : observed.parser.depth < limit)
    (ran : (operand table limit room).start observed.call.enter =
      (.ok left, later)) :
    ((rounds table (fun floor => chain table limit room floor) minimum
        left).start later).2.activations <+:
      ((chain table limit (room + 1) minimum).start observed).2.activations := by
  have inside : observed.call.parser.depth < limit := inside
  rw [chain, start_watch, start_descend _ inside, start_bind_ok ran]
  exact List.prefix_append _ _

/-- An operand tells what the chain between its parentheses tells. -/
theorem prefix_parens (inside : observed.parser.depth < limit)
    (started : (silently (Parsing.next table)).start observed.enter =
      (.ok ⟨.leftParen, position⟩, later)) :
    ((chain table limit room 0).start later).2.activations <+:
      ((operand table limit (room + 1)).start observed).2.activations := by
  rw [operand, start_descend _ inside, start_bind_ok started]
  exact prefix_bind
    (fun inner => observes_silently (Parsing.closeParen table position inner))
    later

/-- An operand tells what the operand behind its operator tells. -/
theorem prefix_unary (inside : observed.parser.depth < limit)
    (started : (silently (Parsing.next table)).start observed.enter =
      (.ok ⟨.operator symbol, position⟩, later)) :
    ((operand table limit room).start later).2.activations <+:
      ((operand table limit (room + 1)).start observed).2.activations := by
  rw [operand, start_descend _ inside, start_bind_ok started]
  exact prefix_bind
    (fun operand => observes_pure (Expression.unary symbol operand)) later

end Observing

/-- The routine with an account that a stage runs. -/
def Stage.observing (table : Table) (limit room count : Nat) :
    Stage → Observing Expression
  | .operand => Observing.operand table limit room
  | .chain minimum => Observing.chain table limit room minimum
  | .tail minimum left previous =>
      Observing.tail table (fun floor => Observing.chain table limit room floor)
        minimum count left previous

/-- The observed parser comes to a stage in this state, and what it does from
there on is told in `activations`. -/
def Stage.Told (table : Table) (limit : Nat) (activations : List Activation)
    (stage : Stage) (parser : Parser) : Prop :=
  ∃ room count observed, observed.parser = parser ∧
    parser.Ready table limit room (parser.ahead table) ∧
    parser.lexer.remaining.length < count ∧
    ((stage.observing table limit room count).start observed).2.activations <+:
      activations

namespace Stage.Told

variable {table : Table} {limit : Nat} {activations : List Activation}
  {minimum : Int32} {parser later last : Parser} {position : Nat}
  {symbol : String} {left : Expression} {previous : Option Operator}
  {operator : Operator}

theorem first (told : (chain minimum).Told table limit activations parser)
    (inside : parser.depth < limit) :
    operand.Told table limit activations parser.enter := by
  obtain ⟨room, count, observed, rfl, ready, enough, told⟩ := told
  obtain ⟨less, rfl⟩ := ready.exists_room inside
  exact ⟨less, count, observed.call.enter, rfl, ready.enter, enough,
    (Observing.prefix_first inside).trans told⟩

theorem behindFirst
    (told : (chain minimum).Told table limit activations parser)
    (inside : parser.depth < limit)
    (ran : parser.enter.readOperand table limit = (.ok left, later)) :
    (tail minimum left none).Told table limit activations later := by
  obtain ⟨room, count, observed, rfl, ready, _, told⟩ := told
  obtain ⟨less, rfl⟩ := ready.exists_room inside
  rw [ready.enter.readOperand_eq] at ran
  rcases started : (Observing.operand table limit less).start
    observed.call.enter with ⟨outcome, behind⟩
  obtain ⟨rfl, rfl⟩ :=
    Prod.mk.inj ((Observing.ran_operand started).symm.trans ran)
  have follows := ready.enter.follows_operand ran
  exact ⟨less, _, behind, rfl, follows.ready ready.enter rfl,
    Nat.lt_succ_self _, (Observing.prefix_rounds inside started).trans told⟩

theorem parens (told : operand.Told table limit activations parser)
    (inside : parser.depth < limit)
    (read : (Parsing.next table).start parser.enter =
      (.ok ⟨.leftParen, position⟩, later)) :
    (chain 0).Told table limit activations later := by
  obtain ⟨room, count, observed, rfl, ready, _, told⟩ := told
  obtain ⟨less, rfl⟩ := ready.exists_room inside
  have started := Observing.start_next_of_read observed.enter read
  obtain ⟨laterReady, _⟩ := ready.enter.behind_next read rfl
  exact ⟨less, _, { observed.enter with parser := later }, rfl, laterReady,
    Nat.lt_succ_self _, (Observing.prefix_parens inside started).trans told⟩

theorem unary (told : operand.Told table limit activations parser)
    (inside : parser.depth < limit)
    (read : (Parsing.next table).start parser.enter =
      (.ok ⟨.operator symbol, position⟩, later)) :
    operand.Told table limit activations later := by
  obtain ⟨room, count, observed, rfl, ready, _, told⟩ := told
  obtain ⟨less, rfl⟩ := ready.exists_room inside
  have started := Observing.start_next_of_read observed.enter read
  obtain ⟨laterReady, _⟩ := ready.enter.behind_next read rfl
  exact ⟨less, _, { observed.enter with parser := later }, rfl, laterReady,
    Nat.lt_succ_self _, (Observing.prefix_unary inside started).trans told⟩

theorem right
    (told : (tail minimum left previous).Told table limit activations parser)
    (read : (Parsing.next table).start parser =
      (.ok ⟨.operator symbol, position⟩, later))
    (registered : table.get? symbol = some operator)
    (above : minimum < operator.precedence)
    (clear : (previous.any fun earlier => earlier.conflicts operator) =
      false) :
    (chain operator.floor).Told table limit activations later := by
  obtain ⟨room, count, observed, rfl, ready, enough, told⟩ := told
  obtain ⟨more, rfl⟩ := Nat.exists_eq_add_of_lt enough
  have found := Token.filter_operator?_eq_some registered above
  obtain ⟨laterReady, _⟩ := ready.behind_next read rfl
  rw [Stage.observing, Observing.start_tail_take
    (Observing.start_next_of_read _ read) found clear] at told
  have chainObserves := (Observing.observes_routines table limit room).2
  exact ⟨room, _, _, rfl, laterReady, Nat.lt_succ_self _,
    (Observing.prefix_bind (fun right =>
      Observing.observes_tail chainObserves minimum _ _ _) _).trans told⟩

theorem behindRight {right : Expression}
    (told : (tail minimum left previous).Told table limit activations parser)
    (read : (Parsing.next table).start parser =
      (.ok ⟨.operator symbol, position⟩, later))
    (registered : table.get? symbol = some operator)
    (above : minimum < operator.precedence)
    (clear : (previous.any fun earlier => earlier.conflicts operator) = false)
    (ran : later.readChain table limit operator.floor = (.ok right, last)) :
    (tail minimum (.binary symbol left right) (some operator)).Told table limit
      activations last := by
  obtain ⟨room, count, observed, rfl, ready, enough, told⟩ := told
  obtain ⟨more, rfl⟩ := Nat.exists_eq_add_of_lt enough
  have found := Token.filter_operator?_eq_some registered above
  obtain ⟨laterReady, shorter⟩ := ready.behind_next read rfl
  rw [laterReady.readChain_eq] at ran
  rw [Stage.observing, Observing.start_tail_take
    (Observing.start_next_of_read _ read) found clear] at told
  rcases started : (Observing.chain table limit room operator.floor).start
    (Observed.take { observed with parser := later } operator) with
    ⟨outcome, behind⟩
  obtain ⟨rfl, rfl⟩ :=
    Prod.mk.inj ((Observing.ran_chain started).symm.trans ran)
  rw [start_bind_ok started] at told
  have follows := laterReady.follows_chain ran
  refine ⟨room, _, behind, rfl, follows.ready laterReady rfl, ?_, told⟩
  have := follows.length_le
  omega

end Stage.Told

namespace Parser.Reaches

variable {table : Table} {limit : Nat} {text : String} {stage : Stage}
  {parser : Parser} {minimum : Int32}

/-- The observed parser comes to every stage that is reached. -/
theorem told (reaches : Reaches table limit text stage parser) :
    stage.Told table limit (observe table limit text).2 parser := by
  induction reaches with
  | whole =>
      have ready := ready_ofText table limit text
      exact ⟨limit, _, Observed.ofText text, rfl, ready.ahead_eq ▸ ready,
        Nat.lt_succ_self _, Observing.prefix_bind
          (fun expression => Observing.observes_silently _) _⟩
  | first _ inside told => exact told.first inside
  | behindFirst _ inside ran told => exact told.behindFirst inside ran
  | parens _ inside read told => exact told.parens inside read
  | unary _ inside read told => exact told.unary inside read
  | right _ read registered above clear told =>
      exact told.right read registered above clear
  | behindRight _ read registered above clear ran told =>
      exact told.behindRight read registered above clear ran

/-- The account tells about every chain that is reached. -/
theorem exists_activation
    (reaches : Reaches table limit text (.chain minimum) parser) :
    ∃ activation ∈ (observe table limit text).2,
      activation.minimum = minimum ∧ activation.entry = parser := by
  obtain ⟨room, _, observed, rfl, _, _, told⟩ := reaches.told
  rw [Stage.observing, Observing.chain.eq_def, Observing.start_watch] at told
  have member :=
    told.subset (List.mem_append_right _ (List.mem_singleton_self _))
  exact ⟨_, member, rfl, rfl⟩

end Parser.Reaches

end Reckoner
