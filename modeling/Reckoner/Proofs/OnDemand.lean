import Reckoner.Expression.OnDemand
import Reckoner.Proofs.Reading
import Reckoner.Proofs.Scanning

/-!
# Parsing on demand and parsing a list

A parser that asks for one token after the other follows the rules for parsing
routines on the tokens that lie ahead of it: a routine that takes a token back
skips the blanks before it again, and finds the same token.
-/

namespace Reckoner

namespace ParsingOn

variable {σ α β : Type} {state later : σ}

theorem start_lift (outcome : Except ParseError α) :
    (liftM outcome : ParsingOn σ α).start state = (outcome, state) := rfl

theorem start_bind_ok {first : ParsingOn σ α} {rest : α → ParsingOn σ β}
    {value : α} (started : first.start state = (.ok value, later)) :
    (first >>= rest).start state = (rest value).start later := by
  simp only [start, ExceptT.run_bind, StateT.run_bind] at started ⊢
  rw [started]
  rfl

theorem start_bind_error {first : ParsingOn σ α} {rest : α → ParsingOn σ β}
    {fault : ParseError}
    (started : first.start state = (.error fault, later)) :
    (first >>= rest).start state = (.error fault, later) := by
  simp only [start, ExceptT.run_bind, StateT.run_bind] at started ⊢
  rw [started]
  rfl

theorem start_get : (get : ParsingOn σ σ).start state = (.ok state, state) :=
  rfl

theorem start_modify (change : σ → σ) :
    (modify change : ParsingOn σ Unit).start state =
      (.ok (), change state) := rfl

theorem start_finally (routine : ParsingOn σ α) (change : σ → σ) :
    (tryFinally routine (modify change)).start state =
      ((routine.start state).1, change (routine.start state).2) := by
  rcases ended : routine.start state with ⟨outcome, later⟩
  have ran : routine state = (outcome, later) := ended
  simp only [start, tryFinally, tryFinally', Functor.map, ExceptT.map,
    ExceptT.mk, ExceptT.run, StateT.run, bind, StateT.bind, ran]
  cases outcome with
  | ok | error => rfl

section Within

variable {depth : σ → Nat} {enter leave : σ → σ} {limit : Nat}

/-- A routine runs one level deeper, and the level is left again however the
routine ends. -/
theorem start_within (routine : ParsingOn σ α) (room : depth state < limit) :
    (routine.within depth enter leave limit).start state =
      let ended := routine.start (enter state)
      (ended.1, leave ended.2) := by
  rw [within, start_bind_ok start_get, if_neg (Nat.not_le_of_lt room),
    start_bind_ok (start_modify _), start_finally]

theorem start_within_of_full (routine : ParsingOn σ α)
    (full : limit ≤ depth state) :
    (routine.within depth enter leave limit).start state =
      (.error (.nestingTooDeep limit), state) := by
  rw [within, start_bind_ok start_get, if_pos full]
  rfl

end Within

section Tail

variable {table : Table} {next : ParsingOn σ Lexeme}
  {pushBack : Token → ParsingOn σ Unit}
  {operand : Operator → ParsingOn σ Expression} {minimum : Int32} {count : Nat}
  {left : Expression} {previous : Option Operator} {token : Token}
  {position : Nat} {operator : Operator}

/-- A round without an operator above the minimum is the last one. -/
theorem start_tail_of_none
    (started : next.start state = (.ok ⟨token, position⟩, later))
    (found : ((token.operator? table).filter fun found =>
      minimum < found.precedence) = none) :
    (tail table next pushBack operand minimum (count + 1) left previous).start
        state = (pushBack token >>= fun _ => pure left).start later := by
  rw [tail, start_bind_ok started]
  simp only [found]

theorem start_tail_of_conflict
    (started : next.start state = (.ok ⟨token, position⟩, later))
    (found : ((token.operator? table).filter fun found =>
      minimum < found.precedence) = some operator)
    (conflicts : (previous.any fun earlier => earlier.conflicts operator) =
      true) :
    (tail table next pushBack operand minimum (count + 1) left previous).start
        state = (.error (.nonAssociativeChain token.display position), later) := by
  rw [tail, start_bind_ok started]
  simp only [found, conflicts]
  rfl

/-- A round that takes an operator. -/
theorem start_tail_of_clear
    (started : next.start state = (.ok ⟨token, position⟩, later))
    (found : ((token.operator? table).filter fun found =>
      minimum < found.precedence) = some operator)
    (clear : (previous.any fun earlier => earlier.conflicts operator) =
      false) :
    (tail table next pushBack operand minimum (count + 1) left previous).start
        state =
      (operand operator >>= fun right =>
        tail table next pushBack operand minimum count
          (.binary token.display left right) (some operator)).start later := by
  rw [tail, start_bind_ok started]
  simp only [found, clear]
  rfl

end Tail

end ParsingOn

open ParsingOn

namespace Parsing

variable {table : Table} {parser later : Parser} {limit : Nat}

/-- The next token is found where its text starts. -/
theorem start_next :
    (next table).start parser = (.ok (parser.lexer.cursor.next table).1,
      { parser with lexer := (parser.lexer.next table).2 }) := by
  have read : (next table).start parser =
      (.ok ⟨(parser.lexer.cursor.next table).1.token,
          (parser.lexer.next table).2.position -
            (parser.lexer.next table).1.byteLength⟩,
        { parser with lexer := (parser.lexer.next table).2 }) := rfl
  have place : (parser.lexer.next table).2.position -
      (parser.lexer.next table).1.byteLength =
        (parser.lexer.cursor.next table).1.position :=
    Nat.add_sub_cancel _ _
  rw [read, place]

theorem start_pushBack (token : Token) :
    (pushBack token).start parser =
      (.ok (), { parser with lexer := parser.lexer.pushBack token }) := rfl

end Parsing

namespace Parser

variable {table : Table} {parser later : Parser} {lexeme : Lexeme}
  {back : List Lexeme}

/-- The tokens that lie ahead. -/
def ahead (table : Table) (parser : Parser) : List Lexeme :=
  parser.lexer.cursor.lexemes table

/-- The parser has come from another one by calls for tokens, and as many
routines are active as before. -/
structure Follows (later parser : Parser) : Prop where
  boundary : later.lexer.AtBoundary
  text_eq : later.lexer.text = parser.lexer.text
  position_le : parser.lexer.position ≤ later.lexer.position
  depth_eq : later.depth = parser.depth
  length_le : later.lexer.remaining.length ≤ parser.lexer.remaining.length

theorem Follows.trans {last : Parser} (second : last.Follows later)
    (first : later.Follows parser) : last.Follows parser where
  boundary := second.boundary
  text_eq := second.text_eq.trans first.text_eq
  position_le := Nat.le_trans first.position_le second.position_le
  depth_eq := second.depth_eq.trans first.depth_eq
  length_le := Nat.le_trans second.length_le first.length_le

/-- The parser stands in front of `tokens`, and its active routines leave `room`
of the limit. -/
structure Ready (table : Table) (limit room : Nat) (tokens : List Lexeme)
    (parser : Parser) : Prop where
  boundary : parser.lexer.AtBoundary
  ahead_eq : parser.ahead table = tokens
  depth_eq : parser.depth + room = limit

variable {limit room : Nat} {tokens : List Lexeme}

theorem Follows.refl (boundary : parser.lexer.AtBoundary) :
    parser.Follows parser :=
  ⟨boundary, rfl, Nat.le_refl _, rfl, Nat.le_refl _⟩

theorem Follows.ready (follows : later.Follows parser)
    (ready : parser.Ready table limit room tokens)
    (ahead_eq : later.ahead table = back) :
    later.Ready table limit room back where
  boundary := follows.boundary
  ahead_eq := ahead_eq
  depth_eq := by rw [follows.depth_eq, ready.depth_eq]

theorem Ready.depth_le (ready : parser.Ready table limit room tokens) :
    parser.depth ≤ limit :=
  Nat.le_of_add_right_le (Nat.le_of_eq ready.depth_eq)

theorem Ready.inside (ready : parser.Ready table limit (room + 1) tokens) :
    parser.depth < limit := by
  rw [← ready.depth_eq]
  omega

theorem Ready.room_eq (ready : parser.Ready table limit room tokens) :
    limit - parser.depth = room := by
  rw [← ready.depth_eq, Nat.add_sub_cancel_left]

theorem Ready.exists_eq_cons (ready : parser.Ready table limit room tokens) :
    ∃ lexeme back, tokens = lexeme :: back := by
  apply List.exists_cons_of_ne_nil
  obtain ⟨front, last, lexed, _⟩ :=
    Cursor.exists_lexemes_eq table parser.lexer.cursor
  rw [← ready.ahead_eq, ahead, lexed]
  exact List.append_ne_nil_of_right_ne_nil front (List.cons_ne_nil last [])

/-- Reading takes the first token away that lies ahead. -/
theorem Ready.exists_start_next
    (ready : parser.Ready table limit room (lexeme :: back)) :
    ∃ later, (Parsing.next table).start parser = (.ok lexeme, later) ∧
      later.Follows parser ∧
      (lexeme.token.isLast = false → later.Ready table limit room back ∧
        later.lexer.remaining.length < parser.lexer.remaining.length) := by
  obtain ⟨rfl, _, behind⟩ := Cursor.lexemes_eq_cons ready.ahead_eq
  obtain ⟨boundary, remaining_eq⟩ := ready.boundary.next_spec table
  refine ⟨_, Parsing.start_next, ⟨boundary, rfl, ?_, rfl, ?_⟩, ?_⟩
  · rw [Lexer.position_next]
    exact Nat.le_add_right _ _
  · rw [remaining_eq, parser.lexer.remaining_eq_append table]
    simp only [List.length_append]
    omega
  · intro more
    refine ⟨⟨boundary, ?_, ready.depth_eq⟩, ?_⟩
    · rw [ahead, ready.boundary.cursor_next]
      exact behind more
    · rw [remaining_eq]
      exact Cursor.next_rest_length_lt more

/-- A token that is taken back lies ahead again. -/
theorem Ready.exists_start_pushBack
    (ready : parser.Ready table limit room tokens)
    (read : (Parsing.next table).start parser = (.ok lexeme, later)) :
    ∃ again, (Parsing.pushBack lexeme.token).start later = (.ok (), again) ∧
      again.Follows parser ∧ again.ahead table = tokens := by
  rw [Parsing.start_next] at read
  cases read
  obtain ⟨boundary, cursor_eq⟩ := ready.boundary.pushBack_next table
  refine ⟨_, Parsing.start_pushBack _, ⟨boundary, rfl, ?_, rfl, ?_⟩, ?_⟩
  · have position_eq := congrArg Cursor.position cursor_eq
    exact Nat.le_trans (Nat.le_add_right _ _) (Nat.le_of_eq position_eq.symm)
  · have remaining_eq := congrArg Cursor.rest cursor_eq
    exact Nat.le_trans (Nat.le_of_eq (congrArg List.length remaining_eq))
      parser.lexer.cursor.skipBlanks_rest_length_le
  · rw [← ready.ahead_eq]
    apply Cursor.lexemes_congr_skipBlanks
    exact (congrArg Cursor.skipBlanks cursor_eq).trans
      (Cursor.skipBlanks_skipBlanks _)

theorem Ready.enter (ready : parser.Ready table limit (room + 1) tokens) :
    parser.enter.Ready table limit room tokens where
  boundary := ready.boundary
  ahead_eq := ready.ahead_eq
  depth_eq := by
    rw [← ready.depth_eq, Parser.enter, Nat.add_right_comm, Nat.add_assoc]

/-- A routine that the rules end with an outcome has ended so, and has left the
tokens behind what it has read. -/
def Ends (table : Table) (parser : Parser)
    (ended : Except ParseError Expression × Parser) : Outcome → Prop
  | .ok (written, rest) =>
      ∃ later, ended = (.ok written.erase, later) ∧ later.Follows parser ∧
        later.ahead table = rest
  | .error fault =>
      ∃ later, ended = (.error fault, later) ∧ later.depth = parser.depth

variable {outcome : Outcome} {ended : Except ParseError Expression × Parser}

theorem Ends.of_follows (ends : Ends table later ended outcome)
    (follows : later.Follows parser) : Ends table parser ended outcome := by
  cases outcome with
  | ok read =>
      obtain ⟨last, equality, after, rest⟩ := ends
      exact ⟨last, equality, after.trans follows, rest⟩
  | error fault =>
      obtain ⟨last, equality, depth_eq⟩ := ends
      exact ⟨last, equality, depth_eq.trans follows.depth_eq⟩

theorem depth_leave (inside : later.depth = parser.enter.depth) :
    later.leave.depth = parser.depth := by
  rw [leave, inside, enter, Nat.add_sub_cancel]

theorem Ends.descend {routine : Parsing Expression}
    (ready : parser.Ready table limit (room + 1) tokens)
    (ends : Ends table parser.enter (routine.start parser.enter) outcome) :
    Ends table parser ((Parsing.descend limit routine).start parser)
      outcome := by
  have same : (Parsing.descend limit routine).start parser =
      ((routine.start parser.enter).1, (routine.start parser.enter).2.leave) :=
    start_within routine ready.inside
  cases outcome with
  | ok read =>
      obtain ⟨last, equality, follows, rest⟩ := ends
      rw [equality] at same
      exact ⟨_, same, ⟨follows.boundary, follows.text_eq,
        follows.position_le, depth_leave follows.depth_eq,
        follows.length_le⟩, rest⟩
  | error fault =>
      obtain ⟨last, equality, depth_eq⟩ := ends
      rw [equality] at same
      exact ⟨_, same, depth_leave depth_eq⟩

/-- A routine that goes on behind an expression. -/
theorem Ends.bind_ok {first : Parsing Expression}
    {rest : Expression → Parsing Expression} {written : Written}
    (ends : Ends table parser (first.start parser) (.ok (written, back)))
    (ready : parser.Ready table limit room tokens)
    (next : ∀ later : Parser, later.Follows parser →
      later.Ready table limit room back →
      Ends table later ((rest written.erase).start later) outcome) :
    Ends table parser ((first >>= rest).start parser) outcome := by
  obtain ⟨later, ran, follows, ahead_eq⟩ := ends
  rw [start_bind_ok ran]
  apply Ends.of_follows _ follows
  exact next later follows (follows.ready ready ahead_eq)

/-- A routine does not go on behind an error. -/
theorem Ends.bind_error {first : Parsing Expression}
    {rest : Expression → Parsing Expression} {fault : ParseError}
    (ends : Ends table parser (first.start parser) (.error fault)) :
    Ends table parser ((first >>= rest).start parser) (.error fault) := by
  obtain ⟨later, ran, depth_eq⟩ := ends
  exact ⟨later, start_bind_error ran, depth_eq⟩

/-- A routine that goes on behind the first token that lies ahead. -/
theorem Ends.descend_next {rest : Lexeme → Parsing Expression}
    (ready : parser.Ready table limit (room + 1) (lexeme :: back))
    (ends : ∀ later : Parser, later.Follows parser.enter →
      (lexeme.token.isLast = false → later.Ready table limit room back) →
      Ends table later ((rest lexeme).start later) outcome) :
    Ends table parser
      ((Parsing.descend limit (Parsing.next table >>= rest)).start parser)
      outcome := by
  apply Ends.descend ready
  obtain ⟨later, read, follows, behind⟩ := ready.enter.exists_start_next
  rw [start_bind_ok read]
  apply Ends.of_follows _ follows
  exact ends later follows fun more => (behind more).1

end Parser

theorem Expression.closeParen_cons (position : Nat) (inner : Expression)
    (lexeme : Lexeme) (rest : List Lexeme) :
    closeParen position inner (lexeme :: rest) =
      (closeParen position inner [lexeme]).map fun read =>
        (read.1, rest) := by
  obtain ⟨token, place⟩ := lexeme
  cases token with
  | number | operator | leftParen | rightParen | endOfText | illegal => rfl

theorem Expression.complete_cons (expression : Expression) (lexeme : Lexeme)
    (rest : List Lexeme) :
    complete expression (lexeme :: rest) = complete expression [lexeme] := by
  obtain ⟨token, place⟩ := lexeme
  cases token with
  | number | operator | leftParen | rightParen | endOfText | illegal => rfl

theorem Stops.filter_operator?_eq_none {table : Table} {minimum : Int32}
    {lexeme : Lexeme} {rest : List Lexeme}
    (stops : Stops table minimum (lexeme :: rest)) :
    (lexeme.token.operator? table).filter
      (fun found => minimum < found.precedence) = none := by
  obtain ⟨token, place⟩ := lexeme
  cases token with
  | operator symbol =>
      apply Option.filter_eq_none_iff.mpr
      intro operator registered above
      exact stops operator registered (of_decide_eq_true above)
  | number | leftParen | rightParen | endOfText | illegal => rfl

theorem Token.filter_operator?_eq_some {table : Table} {minimum : Int32}
    {symbol : String} {operator : Operator}
    (registered : table.get? symbol = some operator)
    (above : minimum < operator.precedence) :
    ((Token.operator symbol).operator? table).filter
      (fun found => minimum < found.precedence) = some operator :=
  Option.filter_eq_some_iff.mpr ⟨registered, decide_eq_true above⟩

namespace Parsing

variable {table : Table} {parser : Parser} {limit room : Nat}
  {tokens rest : List Lexeme} {minimum : Int32}
  {operand : Int32 → Parsing Expression} {left : Expression}
  {previous : Option Operator}

theorem start_closeParen {lexeme : Lexeme} (position : Nat)
    (inner : Expression)
    (ready : parser.Ready table limit room (lexeme :: rest)) :
    ∃ later, (closeParen table position inner).start parser =
        ((Expression.closeParen position inner (lexeme :: rest)).map Prod.fst,
          later) ∧ later.Follows parser ∧
      (lexeme.token.isLast = false → later.ahead table = rest) := by
  obtain ⟨later, read, follows, behind⟩ := ready.exists_start_next
  refine ⟨later, ?_, follows, fun more => (behind more).1.ahead_eq⟩
  rw [closeParen, start_bind_ok read,
    Expression.closeParen_cons position inner lexeme rest]
  cases Expression.closeParen position inner [lexeme] with
  | ok | error => rfl

theorem exists_start_tail_of_stops
    (ready : parser.Ready table limit room tokens)
    (stops : Stops table minimum tokens) (count : Nat) :
    ∃ later, (tail table operand minimum (count + 1) left previous).start
        parser = (.ok left, later) ∧
      later.Follows parser ∧ later.ahead table = tokens := by
  obtain ⟨lexeme, rest, rfl⟩ := ready.exists_eq_cons
  obtain ⟨later, read, _⟩ := ready.exists_start_next
  obtain ⟨again, back, follows, ahead_eq⟩ := ready.exists_start_pushBack read
  refine ⟨again, ?_, follows, ahead_eq⟩
  rw [tail, start_tail_of_none read stops.filter_operator?_eq_none,
    start_bind_ok back]
  rfl

theorem exists_start_tail_of_conflict {symbol : String} {operator : Operator}
    {position : Nat}
    (ready : parser.Ready table limit room
      (⟨.operator symbol, position⟩ :: rest))
    (registered : table.get? symbol = some operator)
    (above : minimum < operator.precedence)
    (conflicts : (previous.any fun earlier => earlier.conflicts operator) =
      true) (count : Nat) :
    ∃ later, (tail table operand minimum (count + 1) left previous).start
        parser = (.error (.nonAssociativeChain symbol position), later) ∧
      later.depth = parser.depth := by
  obtain ⟨later, read, follows, _⟩ := ready.exists_start_next
  have found := Token.filter_operator?_eq_some registered above
  exact ⟨later, start_tail_of_conflict read found conflicts,
    follows.depth_eq⟩

theorem exists_start_tail_of_clear {symbol : String} {operator : Operator}
    {position : Nat}
    (ready : parser.Ready table limit room
      (⟨.operator symbol, position⟩ :: rest))
    (registered : table.get? symbol = some operator)
    (above : minimum < operator.precedence)
    (clear : (previous.any fun earlier => earlier.conflicts operator) =
      false) (count : Nat) :
    ∃ later, (tail table operand minimum (count + 1) left previous).start
        parser = (operand operator.floor >>= fun right =>
          tail table operand minimum count (.binary symbol left right)
            (some operator)).start later ∧
      later.Follows parser ∧ later.Ready table limit room rest ∧
      later.lexer.remaining.length < parser.lexer.remaining.length := by
  obtain ⟨later, read, follows, behind⟩ := ready.exists_start_next
  have found := Token.filter_operator?_eq_some registered above
  exact ⟨later, start_tail_of_clear read found clear, follows,
    behind rfl⟩

end Parsing

/-- The routine of a parser that reads on in front of its input. -/
def Routine.parsing (table : Table) (limit room count : Nat) :
    Routine → Parsing Expression
  | .operand _ => Parsing.operand table limit room
  | .chain minimum _ => Parsing.chain table limit room minimum
  | .tail minimum left _ =>
      Parsing.tail table (fun floor => Parsing.chain table limit room floor)
        minimum count left.erase (left.root? table)

namespace Reads

variable {table : Table} {limit room : Nat} {routine : Routine}
  {outcome : Outcome}

theorem ends_onDemand (reads : Reads table limit room routine outcome)
    (parser : Parser) (count : Nat)
    (ready : parser.Ready table limit room routine.input)
    (enough : parser.lexer.remaining.length < count) :
    Parser.Ends table parser
      ((routine.parsing table limit room count).start parser) outcome := by
  induction reads generalizing parser count with
  | operandTooDeep =>
      rw [Routine.parsing, Parsing.operand]
      exact ⟨parser, rfl, rfl⟩
  | number =>
      rw [Routine.parsing, Parsing.operand]
      apply Parser.Ends.descend_next ready
      intro later follows behind
      exact ⟨later, rfl, .refl follows.boundary, (behind rfl).ahead_eq⟩
  | @parens _ position _ _ _ inner _ readsInner =>
      rw [Routine.parsing, Parsing.operand]
      apply Parser.Ends.descend_next ready
      intro later _ laterReady
      apply (readsInner later _ (laterReady rfl)
        (Nat.lt_succ_self _)).bind_ok (laterReady rfl)
      intro last _ lastReady
      obtain ⟨closed, ran, follows, ahead_eq⟩ :=
        Parsing.start_closeParen position inner.erase lastReady
      exact ⟨closed, ran, follows, ahead_eq rfl⟩
  | @parensUnclosed _ position _ _ inner _ _ unclosed readsInner =>
      rw [Routine.parsing, Parsing.operand]
      apply Parser.Ends.descend_next ready
      intro later _ laterReady
      apply (readsInner later _ (laterReady rfl)
        (Nat.lt_succ_self _)).bind_ok (laterReady rfl)
      intro last _ lastReady
      obtain ⟨lexeme, back, rfl⟩ := lastReady.exists_eq_cons
      obtain ⟨closed, ran, follows, _⟩ :=
        Parsing.start_closeParen position inner.erase lastReady
      rw [unclosed] at ran
      exact ⟨closed, ran, follows.depth_eq⟩
  | parensFault _ readsInner | unaryFault _ readsInner =>
      rw [Routine.parsing, Parsing.operand]
      apply Parser.Ends.descend_next ready
      intro later _ laterReady
      exact (readsInner later _ (laterReady rfl)
        (Nat.lt_succ_self _)).bind_error
  | unary _ readsOperand =>
      rw [Routine.parsing, Parsing.operand]
      apply Parser.Ends.descend_next ready
      intro later _ laterReady
      apply (readsOperand later _ (laterReady rfl)
        (Nat.lt_succ_self _)).bind_ok (laterReady rfl)
      intro last _ lastReady
      exact ⟨last, rfl, .refl lastReady.boundary, lastReady.ahead_eq⟩
  | noOperand | illegal | endOfText =>
      rw [Routine.parsing, Parsing.operand]
      apply Parser.Ends.descend_next ready
      intro later _ _
      exact ⟨later, rfl, rfl⟩
  | noTokens =>
      obtain ⟨lexeme, back, impossible⟩ := ready.exists_eq_cons
      cases impossible
  | chainTooDeep =>
      rw [Routine.parsing, Parsing.chain]
      exact ⟨parser, rfl, rfl⟩
  | chainFault _ readsOperand =>
      rw [Routine.parsing, Parsing.chain]
      apply Parser.Ends.descend ready
      exact (readsOperand parser.enter _ ready.enter
        (Nat.lt_succ_self _)).bind_error
  | chain operand _ readsOperand readsTail =>
      rw [Routine.parsing, Parsing.chain]
      apply Parser.Ends.descend ready
      apply (readsOperand parser.enter _ ready.enter
        (Nat.lt_succ_self _)).bind_ok ready.enter
      intro later _ laterReady
      have ends := readsTail later _ laterReady (Nat.lt_succ_self _)
      rw [Routine.parsing,
        Written.root?_of_not_isBinary operand.isBinary_of_operand] at ends
      rw [start_bind_ok start_get]
      exact ends
  | stop stops =>
      obtain ⟨more, rfl⟩ := Nat.exists_eq_add_of_lt enough
      exact Parsing.exists_start_tail_of_stops ready stops _
  | conflict registered above root conflicts =>
      obtain ⟨more, rfl⟩ := Nat.exists_eq_add_of_lt enough
      exact Parsing.exists_start_tail_of_conflict ready registered above
        ((Option.any_eq_true _ _).mpr ⟨_, root, conflicts⟩) _
  | rightFault registered above clear _ readsRight =>
      obtain ⟨more, rfl⟩ := Nat.exists_eq_add_of_lt enough
      obtain ⟨later, ran, follows, laterReady, _⟩ :=
        Parsing.exists_start_tail_of_clear ready registered above
          ((Option.any_eq_false _ _).mpr clear) _
      rw [Routine.parsing, ran]
      apply Parser.Ends.of_follows _ follows
      exact (readsRight later _ laterReady (Nat.lt_succ_self _)).bind_error
  | extend registered above clear _ _ readsRight readsTail =>
      obtain ⟨more, rfl⟩ := Nat.exists_eq_add_of_lt enough
      obtain ⟨later, ran, follows, laterReady, shorter⟩ :=
        Parsing.exists_start_tail_of_clear ready registered above
          ((Option.any_eq_false _ _).mpr clear) _
      rw [Routine.parsing, ran]
      apply Parser.Ends.of_follows _ follows
      apply (readsRight later _ laterReady
        (Nat.lt_succ_self _)).bind_ok laterReady
      intro last lastFollows lastReady
      have lastEnough : last.lexer.remaining.length <
          parser.lexer.remaining.length + more := by
        have := lastFollows.length_le
        omega
      have ends := readsTail last _ lastReady lastEnough
      rw [Routine.parsing, Written.root?, registered] at ends
      exact ends

end Reads

namespace Parser

variable {table : Table} {limit room : Nat} {tokens : List Lexeme}
  {parser later : Parser} {minimum : Int32} {expression : Expression}
  {outcome : Outcome} {ended : Except ParseError Expression × Parser}

theorem Ends.depth_eq (ends : Ends table parser ended outcome) :
    ended.2.depth = parser.depth := by
  cases outcome with
  | ok read =>
      obtain ⟨last, equality, follows, _⟩ := ends
      rw [equality]
      exact follows.depth_eq
  | error fault =>
      obtain ⟨last, equality, depth_eq⟩ := ends
      rw [equality]
      exact depth_eq

/-- A routine that has returned an expression has followed the rules, and stands
in front of what they leave. -/
theorem Ends.exists_read
    (ends : Ends table parser (.ok expression, later) outcome) :
    ∃ written rest, outcome = .ok (written, rest) ∧
      written.erase = expression ∧ later.Follows parser ∧
      later.ahead table = rest := by
  cases outcome with
  | ok read =>
      obtain ⟨written, rest⟩ := read
      obtain ⟨last, equality, follows, ahead_eq⟩ := ends
      cases equality
      exact ⟨written, rest, rfl, rfl, follows, ahead_eq⟩
  | error fault =>
      obtain ⟨last, equality, _⟩ := ends
      cases equality

theorem Ready.exists_ends_operand
    (ready : parser.Ready table limit room tokens) :
    ∃ outcome, Ends table parser
      ((Parsing.operand table limit room).start parser) outcome := by
  obtain ⟨outcome, reads, _⟩ :=
    (Expression.exists_reads table limit room).1 tokens
  exact ⟨outcome, reads.ends_onDemand parser _ ready (Nat.lt_succ_self _)⟩

theorem Ready.exists_ends_chain
    (ready : parser.Ready table limit room tokens) (minimum : Int32) :
    ∃ outcome, Reads table limit room (.chain minimum tokens) outcome ∧
      Ends table parser
        ((Parsing.chain table limit room minimum).start parser) outcome := by
  obtain ⟨outcome, reads, _⟩ :=
    (Expression.exists_reads table limit room).2 minimum tokens
  exact ⟨outcome, reads,
    reads.ends_onDemand parser _ ready (Nat.lt_succ_self _)⟩

theorem Ready.follows_operand (ready : parser.Ready table limit room tokens)
    (ran : (Parsing.operand table limit room).start parser =
      (.ok expression, later)) : later.Follows parser := by
  obtain ⟨outcome, ends⟩ := ready.exists_ends_operand
  rw [ran] at ends
  obtain ⟨_, _, _, _, follows, _⟩ := ends.exists_read
  exact follows

theorem Ready.follows_chain (ready : parser.Ready table limit room tokens)
    (ran : (Parsing.chain table limit room minimum).start parser =
      (.ok expression, later)) : later.Follows parser := by
  obtain ⟨outcome, _, ends⟩ := ready.exists_ends_chain minimum
  rw [ran] at ends
  obtain ⟨_, _, _, _, follows, _⟩ := ends.exists_read
  exact follows

theorem ready_ofText (table : Table) (limit : Nat) (text : String) :
    (ofText text).Ready table limit limit (Lexeme.ofText table text) where
  boundary := Lexer.atBoundary_ofText text
  ahead_eq := by
    rw [ahead, ofText, Lexer.cursor_ofText, Lexeme.ofText]
  depth_eq := Nat.zero_add limit

/-- Asking for one token after the other comes to the same result as parsing the
list of all tokens. -/
theorem parse_eq (table : Table) (limit : Nat) (text : String) :
    parse table limit text = Expression.parse table limit text := by
  have ready := ready_ofText table limit text
  obtain ⟨outcome, reads, equality⟩ :=
    (Expression.exists_reads table limit limit).2 0
      (Lexeme.ofText table text)
  have ends := reads.ends_onDemand (ofText text) _ ready (Nat.lt_succ_self _)
  rw [Routine.parsing] at ends
  rw [parse, Parsing.whole, Expression.parse, Expression.ofLexemes, equality]
  cases outcome with
  | error fault =>
      obtain ⟨later, ran, _⟩ := ends
      rw [start_bind_error ran]
      rfl
  | ok read =>
      obtain ⟨later, ran, follows, ahead_eq⟩ := ends
      have laterReady := follows.ready ready ahead_eq
      obtain ⟨lexeme, back, behind⟩ := laterReady.exists_eq_cons
      rw [behind] at laterReady
      obtain ⟨last, next, _⟩ := laterReady.exists_start_next
      rw [start_bind_ok ran, start_bind_ok next,
        start_lift]
      have same := Expression.complete_cons read.1.erase lexeme back
      rw [← behind] at same
      exact same.symm

end Parser

end Reckoner
