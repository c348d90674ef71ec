import Reckoner.Expression.Parse
import Reckoner.Proofs.Written

/-!
# The parsing routines as rules

`Reads` has one rule for every way in which a parsing routine can end, errors
included, and keeps the parentheses that the parser drops.  The rules determine
the outcome (`Reads.unique`), and the parsing functions compute it
(`Expression.exists_reads`, `Reads.parseChain_eq`).

What holds of all runs of the parser is proved by induction on these rules.
-/

namespace Reckoner

/-- No operator stands first in `tokens` that would extend a chain of operators
above `minimum`. -/
def Stops (table : Table) (minimum : Int32) : List Lexeme → Prop
  | ⟨.operator symbol, _⟩ :: _ =>
      ∀ operator ∈ table.get? symbol, ¬ minimum < operator.precedence
  | _ => True

theorem exists_binds_of_not_stops {table : Table} {minimum : Int32}
    {tokens : List Lexeme} (binds : ¬ Stops table minimum tokens) :
    ∃ symbol position rest operator,
      tokens = ⟨.operator symbol, position⟩ :: rest ∧
        table.get? symbol = some operator ∧
        minimum < operator.precedence := by
  match tokens with
  | ⟨.operator symbol, position⟩ :: rest =>
      simp only [Stops, Option.mem_def, Classical.not_forall,
        Classical.not_not] at binds
      obtain ⟨operator, registered, above⟩ := binds
      exact ⟨symbol, position, rest, operator, rfl, registered, above⟩
  | [] | ⟨.number _, _⟩ :: _ | ⟨.leftParen, _⟩ :: _ | ⟨.rightParen, _⟩ :: _
  | ⟨.endOfText, _⟩ :: _ | ⟨.illegal _, _⟩ :: _ =>
      exact absurd trivial binds

/-- Nothing but the end of the text is left. -/
def AtEnd (tokens : List Lexeme) : Prop :=
  ∀ lexeme ∈ tokens.head?, lexeme.token = .endOfText

/-- A routine with what it reads: an operand, a chain of operators above a
minimum, or the tail of such a chain behind what has been read of it. -/
inductive Routine where
  | operand (tokens : List Lexeme)
  | chain (minimum : Int32) (tokens : List Lexeme)
  | tail (minimum : Int32) (left : Written) (tokens : List Lexeme)

/-- The tokens in front of a routine. -/
def Routine.input : Routine → List Lexeme
  | .operand tokens => tokens
  | .chain _ tokens => tokens
  | .tail _ _ tokens => tokens

/-- The tokens behind which a routine goes on. -/
def Routine.before : Routine → List Token
  | .operand _ => []
  | .chain _ _ => []
  | .tail _ left _ => left.tokens

/-- What a routine has read and the tokens behind it, or the first fault. -/
abbrev Outcome := Except ParseError (Written × List Lexeme)

/-- The outcome without parentheses. -/
def Outcome.erase (outcome : Outcome) : Expression.Parsed :=
  outcome.map fun read => (read.1.erase, read.2)

/-- How the routines end that run with `room` for further ones. -/
inductive Reads (table : Table) (limit : Nat) :
    Nat → Routine → Outcome → Prop where
  | operandTooDeep {tokens : List Lexeme} :
      Reads table limit 0 (.operand tokens) (.error (.nestingTooDeep limit))
  | number {room : Nat} {text : String} {position : Nat}
      {rest : List Lexeme} :
      Reads table limit (room + 1) (.operand (⟨.number text, position⟩ :: rest))
        (.ok (.literal text, rest))
  | parens {room position place : Nat} {rest behind : List Lexeme}
      {inner : Written} :
      Reads table limit room (.chain 0 rest)
        (.ok (inner, ⟨.rightParen, place⟩ :: behind)) →
      Reads table limit (room + 1) (.operand (⟨.leftParen, position⟩ :: rest))
        (.ok (.parens inner, behind))
  | parensUnclosed {room position : Nat} {rest behind : List Lexeme}
      {inner : Written} {fault : ParseError} :
      Reads table limit room (.chain 0 rest) (.ok (inner, behind)) →
      Expression.closeParen position inner.erase behind = .error fault →
      Reads table limit (room + 1) (.operand (⟨.leftParen, position⟩ :: rest))
        (.error fault)
  | parensFault {room position : Nat} {rest : List Lexeme}
      {fault : ParseError} :
      Reads table limit room (.chain 0 rest) (.error fault) →
      Reads table limit (room + 1) (.operand (⟨.leftParen, position⟩ :: rest))
        (.error fault)
  | unary {room position : Nat} {symbol : String} {rest behind : List Lexeme}
      {operand : Written} :
      Reads table limit room (.operand rest) (.ok (operand, behind)) →
      Reads table limit (room + 1)
        (.operand (⟨.operator symbol, position⟩ :: rest))
        (.ok (.unary symbol operand, behind))
  | unaryFault {room position : Nat} {symbol : String} {rest : List Lexeme}
      {fault : ParseError} :
      Reads table limit room (.operand rest) (.error fault) →
      Reads table limit (room + 1)
        (.operand (⟨.operator symbol, position⟩ :: rest)) (.error fault)
  | noOperand {room position : Nat} {rest : List Lexeme} :
      Reads table limit (room + 1) (.operand (⟨.rightParen, position⟩ :: rest))
        (.error (.unexpectedToken Token.rightParen.display position))
  | illegal {room position : Nat} {ch : Char} {rest : List Lexeme} :
      Reads table limit (room + 1) (.operand (⟨.illegal ch, position⟩ :: rest))
        (.error (.unrecognizedCharacter ch position))
  | endOfText {room position : Nat} {rest : List Lexeme} :
      Reads table limit (room + 1) (.operand (⟨.endOfText, position⟩ :: rest))
        (.error .unexpectedEnd)
  | noTokens {room : Nat} :
      Reads table limit (room + 1) (.operand []) (.error .unexpectedEnd)
  | chainTooDeep {minimum : Int32} {tokens : List Lexeme} :
      Reads table limit 0 (.chain minimum tokens)
        (.error (.nestingTooDeep limit))
  | chainFault {room : Nat} {minimum : Int32} {tokens : List Lexeme}
      {fault : ParseError} :
      Reads table limit room (.operand tokens) (.error fault) →
      Reads table limit (room + 1) (.chain minimum tokens) (.error fault)
  | chain {room : Nat} {minimum : Int32} {tokens rest : List Lexeme}
      {left : Written} {outcome : Outcome} :
      Reads table limit room (.operand tokens) (.ok (left, rest)) →
      Reads table limit room (.tail minimum left rest) outcome →
      Reads table limit (room + 1) (.chain minimum tokens) outcome
  | stop {room : Nat} {minimum : Int32} {left : Written}
      {tokens : List Lexeme} :
      Stops table minimum tokens →
      Reads table limit room (.tail minimum left tokens) (.ok (left, tokens))
  | conflict {room position : Nat} {minimum : Int32} {symbol : String}
      {operator earlier : Operator} {left : Written} {rest : List Lexeme} :
      table.get? symbol = some operator →
      minimum < operator.precedence →
      left.root? table = some earlier →
      earlier.conflicts operator = true →
      Reads table limit room
        (.tail minimum left (⟨.operator symbol, position⟩ :: rest))
        (.error (.nonAssociativeChain symbol position))
  | rightFault {room position : Nat} {minimum : Int32} {symbol : String}
      {operator : Operator} {left : Written} {rest : List Lexeme}
      {fault : ParseError} :
      table.get? symbol = some operator →
      minimum < operator.precedence →
      (∀ earlier ∈ left.root? table, earlier.conflicts operator = false) →
      Reads table limit room (.chain operator.floor rest) (.error fault) →
      Reads table limit room
        (.tail minimum left (⟨.operator symbol, position⟩ :: rest))
        (.error fault)
  | extend {room position : Nat} {minimum : Int32} {symbol : String}
      {operator : Operator} {left right : Written}
      {rest behind : List Lexeme} {outcome : Outcome} :
      table.get? symbol = some operator →
      minimum < operator.precedence →
      (∀ earlier ∈ left.root? table, earlier.conflicts operator = false) →
      Reads table limit room (.chain operator.floor rest)
        (.ok (right, behind)) →
      Reads table limit room
        (.tail minimum (.binary symbol left right) behind) outcome →
      Reads table limit room
        (.tail minimum left (⟨.operator symbol, position⟩ :: rest)) outcome

namespace Reads

variable {table : Table} {limit room : Nat} {routine : Routine}

/-- A routine takes tokens from the front of its input and adds them to what has
been read before. -/
theorem exists_taken {outcome : Outcome}
    (reads : Reads table limit room routine outcome) :
    ∀ written rest, outcome = .ok (written, rest) →
      ∃ taken, routine.input = taken ++ rest ∧
        written.tokens = routine.before ++ taken.map Lexeme.token := by
  induction reads with
  | @number _ text position _ =>
      intro written rest success
      cases success
      exact ⟨[⟨.number text, position⟩], rfl, rfl⟩
  | @parens _ position place _ _ _ _ inner =>
      intro written rest success
      cases success
      obtain ⟨taken, input, tokens⟩ := inner _ _ rfl
      refine ⟨⟨.leftParen, position⟩ :: (taken ++ [⟨.rightParen, place⟩]),
        ?_, ?_⟩
      · simpa [Routine.input] using input
      · simp [Written.tokens, tokens, Routine.before]
  | @unary _ position symbol _ _ _ _ operand =>
      intro written rest success
      cases success
      obtain ⟨taken, input, tokens⟩ := operand _ _ rfl
      refine ⟨⟨.operator symbol, position⟩ :: taken, ?_, ?_⟩
      · simpa [Routine.input] using input
      · simp [Written.tokens, tokens, Routine.before]
  | chain _ _ operand tail =>
      intro written rest success
      obtain ⟨taken, input, tokens⟩ := operand _ _ rfl
      obtain ⟨more, tailInput, tailTokens⟩ := tail written rest success
      simp only [Routine.input, Routine.before] at input tokens
      simp only [Routine.input, Routine.before] at tailInput tailTokens
      refine ⟨taken ++ more, ?_, ?_⟩
      · rw [Routine.input, input, tailInput, List.append_assoc]
      · rw [tailTokens, tokens, Routine.before, List.map_append,
          List.append_assoc]
  | stop =>
      intro written rest success
      cases success
      exact ⟨[], rfl, by simp [Routine.before]⟩
  | @extend _ position _ symbol _ _ _ _ _ _ _ _ _ _ _ right tail =>
      intro written rest success
      obtain ⟨taken, input, tokens⟩ := right _ _ rfl
      obtain ⟨more, tailInput, tailTokens⟩ := tail written rest success
      simp only [Routine.input, Routine.before] at input tokens
      simp only [Routine.input, Routine.before] at tailInput tailTokens
      refine ⟨⟨.operator symbol, position⟩ :: (taken ++ more), ?_, ?_⟩
      · simp [Routine.input, input, tailInput]
      · simp [tailTokens, Written.tokens, tokens, Routine.before]
  | _ =>
      intro written rest success
      cases success

theorem length_le {written : Written} {rest : List Lexeme}
    (reads : Reads table limit room routine (.ok (written, rest))) :
    rest.length ≤ routine.input.length := by
  obtain ⟨taken, input, _⟩ := reads.exists_taken written rest rfl
  rw [input, List.length_append]
  exact Nat.le_add_left _ _

/-- The rules determine how a routine ends. -/
theorem unique {first second : Outcome}
    (left : Reads table limit room routine first)
    (right : Reads table limit room routine second) : first = second := by
  induction left generalizing second with
  | operandTooDeep | number | noOperand | illegal | endOfText | noTokens
  | chainTooDeep =>
      cases right
      rfl
  | parens _ same =>
      cases right with
      | parens inner =>
          cases same inner
          rfl
      | parensUnclosed inner unclosed =>
          cases same inner
          simp [Expression.closeParen] at unclosed
      | parensFault inner => cases same inner
  | parensUnclosed _ unclosed same =>
      cases right with
      | parens inner =>
          cases same inner
          simp [Expression.closeParen] at unclosed
      | parensUnclosed inner unclosed' =>
          cases same inner
          rw [unclosed] at unclosed'
          cases unclosed'
          rfl
      | parensFault inner => cases same inner
  | parensFault _ same =>
      cases right with
      | parens inner | parensUnclosed inner _ => cases same inner
      | parensFault inner =>
          cases same inner
          rfl
  | unary _ same =>
      cases right with
      | unary operand =>
          cases same operand
          rfl
      | unaryFault operand => cases same operand
  | unaryFault _ same =>
      cases right with
      | unary operand => cases same operand
      | unaryFault operand =>
          cases same operand
          rfl
  | chainFault _ same =>
      cases right with
      | chainFault operand =>
          cases same operand
          rfl
      | chain operand _ => cases same operand
  | chain _ _ sameOperand sameTail =>
      cases right with
      | chainFault operand => cases sameOperand operand
      | chain operand tail =>
          cases sameOperand operand
          exact sameTail tail
  | stop stops =>
      cases right with
      | stop => rfl
      | conflict registered above | rightFault registered above
      | extend registered above =>
          exact absurd above (stops _ registered)
  | conflict registered above root conflicts =>
      cases right with
      | stop stops => exact absurd above (stops _ registered)
      | conflict => rfl
      | rightFault registered' _ clear | extend registered' _ clear =>
          cases registered.symm.trans registered'
          rw [clear _ root] at conflicts
          cases conflicts
  | rightFault registered above clear _ same =>
      cases right with
      | stop stops => exact absurd above (stops _ registered)
      | conflict registered' _ root conflicts =>
          cases registered.symm.trans registered'
          rw [clear _ root] at conflicts
          cases conflicts
      | rightFault registered' _ _ right =>
          cases registered.symm.trans registered'
          cases same right
          rfl
      | extend registered' _ _ right =>
          cases registered.symm.trans registered'
          cases same right
  | extend registered above clear _ _ sameRight sameTail =>
      cases right with
      | stop stops => exact absurd above (stops _ registered)
      | conflict registered' _ root conflicts =>
          cases registered.symm.trans registered'
          rw [clear _ root] at conflicts
          cases conflicts
      | rightFault registered' _ _ right =>
          cases registered.symm.trans registered'
          cases sameRight right
      | extend registered' _ _ right tail =>
          cases registered.symm.trans registered'
          cases sameRight right
          exact sameTail tail

/-- An operand is no binary application. -/
theorem isBinary_of_operand {tokens rest : List Lexeme} {written : Written}
    (reads : Reads table limit room (.operand tokens) (.ok (written, rest))) :
    written.isBinary = false := by
  cases reads <;> rfl

end Reads

namespace Expression

variable {table : Table} {limit room : Nat}

theorem chain_zero (operand : Int32 → List Lexeme → Parsed)
    (minimum : Int32) (left : Expression) (previous : Option Operator)
    (tokens : List Lexeme) :
    chain table operand minimum 0 left previous tokens =
      .ok (left, tokens) := by
  unfold chain
  rfl

theorem chain_of_stops {operand : Int32 → List Lexeme → Parsed}
    {minimum : Int32} {tokens : List Lexeme}
    (stops : Stops table minimum tokens) (count : Nat) (left : Expression)
    (previous : Option Operator) :
    chain table operand minimum count left previous tokens =
      .ok (left, tokens) := by
  unfold chain
  split
  · rename_i symbol position rest
    split
    · rename_i operator found
      obtain ⟨registered, above⟩ := Option.filter_eq_some_iff.mp found
      exact absurd (of_decide_eq_true above) (stops operator registered)
    · rfl
  · rfl

theorem chain_of_binds {operand : Int32 → List Lexeme → Parsed}
    {minimum : Int32} {symbol : String} {operator : Operator}
    (registered : table.get? symbol = some operator)
    (above : minimum < operator.precedence) (count position : Nat)
    (left : Expression) (previous : Option Operator) (rest : List Lexeme) :
    chain table operand minimum (count + 1) left previous
        (⟨.operator symbol, position⟩ :: rest) =
      if previous.any fun earlier => earlier.conflicts operator then
        .error (.nonAssociativeChain symbol position)
      else operand operator.floor rest >>= fun read =>
        chain table operand minimum count (.binary symbol left read.1)
          (some operator) read.2 := by
  simp [chain, registered, Option.filter, above]

theorem exists_of_closeParen_eq_ok {position : Nat} {inner : Expression}
    {tokens : List Lexeme} {read : Expression × List Lexeme}
    (closed : closeParen position inner tokens = .ok read) :
    ∃ place rest, tokens = ⟨.rightParen, place⟩ :: rest ∧
      read = (inner, rest) := by
  unfold closeParen at closed
  split at closed
  · rename_i place rest
    cases closed
    exact ⟨place, rest, rfl, rfl⟩
  all_goals cases closed

theorem closeParen_eq_error {position : Nat} {inner : Expression}
    {tokens : List Lexeme} {fault : ParseError}
    (unclosed : closeParen position inner tokens = .error fault) :
    (AtEnd tokens ∧ fault = .unexpectedEnd) ∨
      (∃ ch place rest, tokens = ⟨.illegal ch, place⟩ :: rest ∧
        fault = .unrecognizedCharacter ch place) ∨
      ∃ next rest, tokens = next :: rest ∧ next.token.isLast = false ∧
        next.token ≠ .rightParen ∧
        fault = .unbalancedParentheses position := by
  match tokens with
  | [] =>
      cases unclosed
      exact .inl ⟨by simp [AtEnd], rfl⟩
  | ⟨.endOfText, place⟩ :: rest =>
      cases unclosed
      exact .inl ⟨by simp [AtEnd], rfl⟩
  | ⟨.illegal ch, place⟩ :: rest =>
      cases unclosed
      exact .inr (.inl ⟨ch, place, rest, rfl, rfl⟩)
  | ⟨.rightParen, place⟩ :: rest => cases unclosed
  | ⟨.number _, _⟩ :: rest | ⟨.operator _, _⟩ :: rest
  | ⟨.leftParen, _⟩ :: rest =>
      cases unclosed
      exact .inr (.inr ⟨_, rest, rfl, rfl, Token.noConfusion, rfl⟩)

/-- The loop along a chain follows the rules for tails, when it may take as many
rounds as there are tokens and its right operands are read by the rules. -/
theorem exists_reads_tail {operand : Int32 → List Lexeme → Parsed}
    (operandReads : ∀ floor tokens, ∃ outcome,
      Reads table limit room (.chain floor tokens) outcome ∧
        operand floor tokens = outcome.erase)
    (minimum : Int32) (count : Nat) (left : Written) (tokens : List Lexeme)
    (enough : tokens.length ≤ count) :
    ∃ outcome, Reads table limit room (.tail minimum left tokens) outcome ∧
      chain table operand minimum count left.erase (left.root? table) tokens =
        outcome.erase := by
  induction count generalizing left tokens with
  | zero =>
      have empty : tokens = [] :=
        List.eq_nil_of_length_eq_zero (Nat.le_zero.mp enough)
      subst empty
      have stops : Stops table minimum [] := trivial
      exact ⟨_, .stop stops, chain_of_stops stops _ _ _⟩
  | succ count next =>
      by_cases stops : Stops table minimum tokens
      · exact ⟨_, .stop stops, chain_of_stops stops _ _ _⟩
      · obtain ⟨symbol, position, rest, operator, rfl, registered, above⟩ :=
          exists_binds_of_not_stops stops
        rw [chain_of_binds registered above]
        split
        · rename_i conflicts
          obtain ⟨earlier, root, conflicts⟩ :=
            (Option.any_eq_true _ _).mp conflicts
          exact ⟨_, .conflict registered above root conflicts, rfl⟩
        · rename_i clear
          have clear : ∀ earlier ∈ left.root? table,
              earlier.conflicts operator = false := by
            intro earlier root
            apply Bool.eq_false_iff.mpr
            intro conflicts
            exact clear ((Option.any_eq_true _ _).mpr ⟨earlier, root, conflicts⟩)
          obtain ⟨right, readsRight, equality⟩ :=
            operandReads operator.floor rest
          rw [equality]
          cases right with
          | error fault =>
              exact ⟨_, .rightFault registered above clear readsRight, rfl⟩
          | ok read =>
              obtain ⟨right, behind⟩ := read
              have shorter := readsRight.length_le
              obtain ⟨outcome, readsTail, tailEquality⟩ :=
                next (.binary symbol left right) behind (by
                  simp only [Routine.input, List.length_cons] at shorter enough
                  omega)
              rw [Written.root?, registered] at tailEquality
              exact ⟨outcome,
                .extend registered above clear readsRight readsTail,
                tailEquality⟩

/-- The parsing functions follow the rules. -/
theorem exists_reads (table : Table) (limit room : Nat) :
    (∀ tokens, ∃ outcome, Reads table limit room (.operand tokens) outcome ∧
      parseOperand table limit room tokens = outcome.erase) ∧
    (∀ minimum tokens, ∃ outcome,
      Reads table limit room (.chain minimum tokens) outcome ∧
        parseChain table limit room minimum tokens = outcome.erase) := by
  induction room with
  | zero =>
      constructor
      · intro tokens
        exact ⟨_, .operandTooDeep, by rw [parseOperand]; rfl⟩
      · intro minimum tokens
        exact ⟨_, .chainTooDeep, by rw [parseChain]; rfl⟩
  | succ room inner =>
      obtain ⟨operandReads, chainReads⟩ := inner
      constructor
      · intro tokens
        match tokens with
        | ⟨.number text, position⟩ :: rest =>
            exact ⟨_, .number, by rw [parseOperand]; rfl⟩
        | ⟨.leftParen, position⟩ :: rest =>
            obtain ⟨outcome, reads, equality⟩ := chainReads 0 rest
            rw [parseOperand, equality]
            cases outcome with
            | error fault => exact ⟨_, .parensFault reads, rfl⟩
            | ok read =>
                obtain ⟨inner, behind⟩ := read
                cases closed : closeParen position inner.erase behind with
                | error fault =>
                    exact ⟨_, .parensUnclosed reads closed, closed⟩
                | ok read =>
                    obtain ⟨place, rest, rfl, rfl⟩ :=
                      exists_of_closeParen_eq_ok closed
                    exact ⟨_, .parens reads, closed⟩
        | ⟨.operator symbol, position⟩ :: rest =>
            obtain ⟨outcome, reads, equality⟩ := operandReads rest
            rw [parseOperand, equality]
            cases outcome with
            | error fault => exact ⟨_, .unaryFault reads, rfl⟩
            | ok read => exact ⟨_, .unary reads, rfl⟩
        | ⟨.rightParen, position⟩ :: rest =>
            exact ⟨_, .noOperand, by rw [parseOperand]; rfl⟩
        | ⟨.illegal ch, position⟩ :: rest =>
            exact ⟨_, .illegal, by rw [parseOperand]; rfl⟩
        | ⟨.endOfText, position⟩ :: rest =>
            exact ⟨_, .endOfText, by rw [parseOperand]; rfl⟩
        | [] => exact ⟨_, .noTokens, by rw [parseOperand]; rfl⟩
      · intro minimum tokens
        obtain ⟨outcome, reads, equality⟩ := operandReads tokens
        rw [parseChain, equality]
        cases outcome with
        | error fault => exact ⟨_, .chainFault reads, rfl⟩
        | ok read =>
            obtain ⟨left, rest⟩ := read
            obtain ⟨outcome, readsTail, tailEquality⟩ :=
              exists_reads_tail chainReads minimum rest.length left rest
                (Nat.le_refl _)
            rw [Written.root?_of_not_isBinary reads.isBinary_of_operand]
              at tailEquality
            exact ⟨outcome, .chain reads readsTail, tailEquality⟩

end Expression

namespace Reads

variable {table : Table} {limit room : Nat}

theorem parseChain_eq {minimum : Int32} {tokens : List Lexeme}
    {outcome : Outcome}
    (reads : Reads table limit room (.chain minimum tokens) outcome) :
    Expression.parseChain table limit room minimum tokens = outcome.erase := by
  obtain ⟨other, otherReads, equality⟩ :=
    (Expression.exists_reads table limit room).2 minimum tokens
  rw [equality, otherReads.unique reads]

end Reads

end Reckoner
