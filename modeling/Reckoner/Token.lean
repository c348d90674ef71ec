/-!
# Tokens

The pieces that an expression is written with.  A token knows the text it was
read from; the end of the text and a character that starts no token stand for
no text of their own.
-/

namespace Reckoner

/-- A piece of an expression. -/
inductive Token where
  | number (text : String)
  | operator (symbol : String)
  | leftParen
  | rightParen
  | endOfText
  | illegal (ch : Char)
  deriving Repr, DecidableEq

namespace Token

instance : Inhabited Token := ⟨.endOfText⟩

/-- The text that reading the token takes away. -/
def text : Token → String
  | .number text => text
  | .operator symbol => symbol
  | .leftParen => "("
  | .rightParen => ")"
  | .endOfText => ""
  | .illegal _ => ""

/-- The number of bytes of the text of a token. -/
def byteLength (token : Token) : Nat := token.text.utf8ByteSize

/-- Whether a token takes no text away. -/
def isEmpty (token : Token) : Bool := token.byteLength = 0

/-- Whether no token can be read behind this one. -/
def isLast : Token → Bool
  | .endOfText => true
  | .illegal _ => true
  | _ => false

/-- A token as messages show it. -/
def display : Token → String
  | .endOfText => "EOF"
  | .illegal ch => "ILLEGAL(" ++ ch.toString ++ ")"
  | token => token.text

end Token

end Reckoner
