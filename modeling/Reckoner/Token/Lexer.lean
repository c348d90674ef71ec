import Reckoner.Token.Cursor

/-!
# Reading tokens one at a time

A lexer hands out the tokens of a text on demand and can take the last one
back.  Taking back moves the place in the text by the length of the token and
nothing else: blanks before the token are skipped again later.
-/

namespace Reckoner

/-- A text and a byte position in it. -/
structure Lexer where
  text : List Char
  position : Nat
  deriving Repr, DecidableEq

namespace Lexer

/-- A lexer at the start of a text. -/
def ofText (text : String) : Lexer := ⟨text.toList, 0⟩

/-- The characters that are still to be read. -/
def remaining (lexer : Lexer) : List Char :=
  Text.dropBytes lexer.text lexer.position

/-- The place of the lexer with the characters that follow it. -/
def cursor (lexer : Lexer) : Cursor := ⟨lexer.position, lexer.remaining⟩

/-- Reads a token. -/
def next (table : Table) (lexer : Lexer) : Token × Lexer :=
  let read := lexer.cursor.next table
  (read.1.token, { lexer with position := read.2.position })

/-- Takes a token back, not beyond the start of the text. -/
def pushBack (lexer : Lexer) (token : Token) : Lexer :=
  { lexer with position := lexer.position - token.byteLength }

end Lexer

end Reckoner
