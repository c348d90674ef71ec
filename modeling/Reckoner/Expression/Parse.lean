import Reckoner.Expression
import Reckoner.Expression.ParseError
import Reckoner.Token.Cursor

/-!
# Parsing expressions

Expressions are parsed by precedence climbing:

    expression minimum ::= operand (operator (expression floor))*
    operand            ::= number | "(" (expression 0) ")" | operator operand

where every operator of the chain has a precedence above `minimum`, and
`floor` is `Operator.floor`.  An operator in front of an operand is unary,
whatever its precedence.

The number of routines that are active at one time is limited.  The parsing
functions count down the room that is left, and all recursion but the walk along
a chain is recursion on that room.
-/

namespace Reckoner.Expression

/-- A parsed expression and the tokens behind it, or the first fault. -/
abbrev Parsed := Except ParseError (Expression × List Lexeme)

/-- Parses the rest of a chain behind its first operand `left`.  `previous` is
the last operator of the chain so far, and `operand` parses a right operand from
a floor on.  Every round takes an operator away, so `count` need not exceed the
number of tokens. -/
def chain (table : Table) (operand : Int32 → List Lexeme → Parsed)
    (minimum : Int32) (count : Nat) (left : Expression)
    (previous : Option Operator) (tokens : List Lexeme) : Parsed :=
  match count, tokens with
  | count + 1, ⟨.operator symbol, position⟩ :: rest =>
      match (table.get? symbol).filter fun found =>
        minimum < found.precedence with
      | some operator =>
          if previous.any fun earlier => earlier.conflicts operator then
            .error (.nonAssociativeChain symbol position)
          else do
            let (right, behind) ← operand operator.floor rest
            chain table operand minimum count (.binary symbol left right)
              (some operator) behind
      | none => .ok (left, tokens)
  | _, _ => .ok (left, tokens)

/-- Takes the right parenthesis away that belongs to a left one at
`position`. -/
def closeParen (position : Nat) (inner : Expression) : List Lexeme → Parsed
  | ⟨.rightParen, _⟩ :: rest => .ok (inner, rest)
  | ⟨.illegal ch, place⟩ :: _ => .error (.unrecognizedCharacter ch place)
  | ⟨.endOfText, _⟩ :: _ | [] => .error .unexpectedEnd
  | _ => .error (.unbalancedParentheses position)

mutual

/-- Parses a literal, an expression in parentheses, or an operator in front of
an operand. -/
def parseOperand (table : Table) (limit : Nat) (room : Nat)
    (tokens : List Lexeme) : Parsed :=
  match room with
  | 0 => .error (.nestingTooDeep limit)
  | room + 1 =>
      match tokens with
      | ⟨.number text, _⟩ :: rest => .ok (.literal text, rest)
      | ⟨.leftParen, position⟩ :: rest => do
          let (inner, behind) ← parseChain table limit room 0 rest
          closeParen position inner behind
      | ⟨.operator symbol, _⟩ :: rest => do
          let (operand, behind) ← parseOperand table limit room rest
          .ok (.unary symbol operand, behind)
      | ⟨.rightParen, position⟩ :: _ =>
          .error (.unexpectedToken Token.rightParen.display position)
      | ⟨.illegal ch, position⟩ :: _ =>
          .error (.unrecognizedCharacter ch position)
      | ⟨.endOfText, _⟩ :: _ | [] => .error .unexpectedEnd

/-- Parses an operand and all operators behind it that bind tighter than
`minimum`, with their right operands. -/
def parseChain (table : Table) (limit : Nat) (room : Nat)
    (minimum : Int32) (tokens : List Lexeme) : Parsed :=
  match room with
  | 0 => .error (.nestingTooDeep limit)
  | room + 1 => do
      let (left, rest) ← parseOperand table limit room tokens
      chain table (fun floor => parseChain table limit room floor) minimum
        rest.length left none rest

end

/-- Accepts an expression behind which nothing stands. -/
def complete (expression : Expression) :
    List Lexeme → Except ParseError Expression
  | ⟨.endOfText, _⟩ :: _ | [] => .ok expression
  | ⟨.rightParen, position⟩ :: _ => .error (.unbalancedParentheses position)
  | ⟨.illegal ch, position⟩ :: _ => .error (.unrecognizedCharacter ch position)
  | ⟨token, position⟩ :: _ =>
      .error (.unexpectedToken token.display position)

/-- Parses a list of tokens as one expression. -/
def ofLexemes (table : Table) (limit : Nat) (tokens : List Lexeme) :
    Except ParseError Expression := do
  let (expression, rest) ← parseChain table limit limit 0 tokens
  complete expression rest

/-- Parses a text as one expression. -/
def parse (table : Table) (limit : Nat) (text : String) :
    Except ParseError Expression :=
  ofLexemes table limit (Lexeme.ofText table text)

/-- The limit of active routines where no other one is given. -/
def defaultLimit : Nat := 512

end Reckoner.Expression
