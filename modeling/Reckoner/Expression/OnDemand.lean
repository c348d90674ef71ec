import Reckoner.Expression.Parse
import Reckoner.Token.Lexer

/-!
# Parsing tokens on demand

A parser that never holds a list of tokens.  It asks a lexer for one token after
the other, takes the token behind a chain of operators back, and counts the
routines that are active.  The count is restored when a routine ends, with an
error or without.
-/

namespace Reckoner

/-- A routine that parses and works on a state of the kind `σ`. -/
abbrev ParsingOn (σ : Type) := ExceptT ParseError (StateM σ)

namespace ParsingOn

variable {σ α : Type}

/-- The outcome of a routine, and the state behind it. -/
def start (routine : ParsingOn σ α) (state : σ) : Except ParseError α × σ :=
  (ExceptT.run routine).run state

/-- Runs a routine inside the active ones, unless these reach the limit. -/
def within (depth : σ → Nat) (enter leave : σ → σ) (limit : Nat)
    (routine : ParsingOn σ α) : ParsingOn σ α := do
  if limit ≤ depth (← get) then
    throw (.nestingTooDeep limit)
  modify enter
  try
    routine
  finally
    modify leave

end ParsingOn

/-- The operator that a token stands for. -/
def Token.operator? (table : Table) : Token → Option Operator
  | .operator symbol => table.get? symbol
  | _ => none

/-- Extends a chain behind its first operand `left`; `previous` is the last
operator of the chain so far.  Tokens come from `next` and go back by
`pushBack`, and `operand` parses the right operand of an operator.  Every round
takes an operator away, so `count` need not exceed the number of characters. -/
def ParsingOn.tail {σ : Type} (table : Table) (next : ParsingOn σ Lexeme)
    (pushBack : Token → ParsingOn σ Unit)
    (operand : Operator → ParsingOn σ Expression) (minimum : Int32)
    (count : Nat) (left : Expression) (previous : Option Operator) :
    ParsingOn σ Expression := do
  match count with
  | 0 => return left
  | count + 1 =>
      let ⟨token, position⟩ ← next
      match (token.operator? table).filter fun found =>
        minimum < found.precedence with
      | some operator =>
          if previous.any fun earlier => earlier.conflicts operator then
            throw (.nonAssociativeChain token.display position)
          let right ← operand operator
          tail table next pushBack operand minimum count
            (.binary token.display left right) (some operator)
      | none =>
          pushBack token
          return left

/-- A lexer and the number of active routines. -/
structure Parser where
  lexer : Lexer
  depth : Nat
  deriving Repr, DecidableEq

namespace Parser

/-- A parser at the start of a text. -/
def ofText (text : String) : Parser := ⟨Lexer.ofText text, 0⟩

/-- The parser inside one more routine. -/
def enter (parser : Parser) : Parser :=
  { parser with depth := parser.depth + 1 }

/-- The parser when a routine has been left. -/
def leave (parser : Parser) : Parser :=
  { parser with depth := parser.depth - 1 }

end Parser

/-- A routine of a parser. -/
abbrev Parsing := ParsingOn Parser

namespace Parsing

/-- Reads a token, and finds the place where its text starts. -/
def next (table : Table) : Parsing Lexeme := do
  let parser ← get
  let (token, lexer) := parser.lexer.next table
  set { parser with lexer := lexer }
  return ⟨token, lexer.position - token.byteLength⟩

/-- Takes a token back. -/
def pushBack (token : Token) : Parsing Unit :=
  modify fun parser => { parser with lexer := parser.lexer.pushBack token }

/-- Runs a routine inside the active ones, unless these reach the limit. -/
def descend {α : Type} (limit : Nat) (routine : Parsing α) : Parsing α :=
  routine.within Parser.depth Parser.enter Parser.leave limit

/-- Reads the right parenthesis that belongs to a left one at `position`. -/
def closeParen (table : Table) (position : Nat) (inner : Expression) :
    Parsing Expression := do
  let (expression, _) ← Expression.closeParen position inner [← next table]
  return expression

/-- Extends a chain behind its first operand. -/
def tail (table : Table) (operand : Int32 → Parsing Expression)
    (minimum : Int32) (count : Nat) (left : Expression)
    (previous : Option Operator) : Parsing Expression :=
  ParsingOn.tail table (next table) pushBack
    (fun operator => operand operator.floor) minimum count left previous

mutual

/-- Parses a literal, an expression in parentheses, or an operator in front of
an operand.  `room` is what the active routines leave of the limit. -/
def operand (table : Table) (limit : Nat) (room : Nat) :
    Parsing Expression := do
  match room with
  | 0 => throw (.nestingTooDeep limit)
  | room + 1 =>
      descend limit do
        let ⟨token, position⟩ ← next table
        match token with
        | .number text => return .literal text
        | .leftParen =>
            closeParen table position (← chain table limit room 0)
        | .operator symbol =>
            return .unary symbol (← operand table limit room)
        | .rightParen =>
            throw (.unexpectedToken Token.rightParen.display position)
        | .endOfText => throw .unexpectedEnd
        | .illegal ch => throw (.unrecognizedCharacter ch position)

/-- Parses an operand and all operators behind it that bind tighter than
`minimum`, with their right operands. -/
def chain (table : Table) (limit : Nat) (room : Nat) (minimum : Int32) :
    Parsing Expression := do
  match room with
  | 0 => throw (.nestingTooDeep limit)
  | room + 1 =>
      descend limit do
        let left ← operand table limit room
        let characters := (← get).lexer.remaining.length
        tail table (fun floor => chain table limit room floor) minimum
          (characters + 1) left none

end

/-- Parses all that remains as one expression. -/
def whole (table : Table) (limit : Nat) : Parsing Expression := do
  let expression ← chain table limit limit 0
  Expression.complete expression [← next table]

end Parsing

/-- Parses a text as one expression. -/
def Parser.parse (table : Table) (limit : Nat) (text : String) :
    Except ParseError Expression :=
  ((Parsing.whole table limit).start (Parser.ofText text)).1

end Reckoner
