/-!
# Errors in written expressions

Why a text is not an expression.  Positions count bytes from the start of the
text.
-/

namespace Reckoner

/-- The first fault of a text that is no expression. -/
inductive ParseError where
  | unexpectedEnd
  /-- The parenthesis at the position has no partner. -/
  | unbalancedParentheses (position : Nat)
  | unexpectedToken (token : String) (position : Nat)
  | unrecognizedCharacter (ch : Char) (position : Nat)
  | nonAssociativeChain (symbol : String) (position : Nat)
  | nestingTooDeep (limit : Nat)
  deriving Repr, DecidableEq

/-- The wording of an error. -/
def ParseError.message : ParseError → String
  | .unexpectedEnd => "Unexpected end of expression"
  | .unbalancedParentheses position =>
      "Unbalanced parenthesis at position " ++ toString position
  | .unexpectedToken token position =>
      "Unexpected token '" ++ token ++ "' at position " ++ toString position
  | .unrecognizedCharacter ch position =>
      "Unrecognized character '" ++ ch.toString ++ "' at position " ++
        toString position
  | .nonAssociativeChain symbol position =>
      "Operator '" ++ symbol ++ "' at position " ++ toString position ++
        " cannot be chained without parentheses"
  | .nestingTooDeep limit =>
      "Expression is nested deeper than " ++ toString limit ++ " levels"

end Reckoner
