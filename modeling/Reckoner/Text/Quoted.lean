import Reckoner.Text.Plain

/-!
# Quoted texts

A quoted text stands between two marks and shows unambiguously which
characters it is made of.  The backslash and the mark itself follow a
backslash, four control characters have short names, and every other character
that is not plain is written by its code point in hexadecimal digits.
-/

namespace Reckoner.Text

/-- The characters that show one character between two marks. -/
def escaped (mark ch : Char) : List Char :=
  if ch = '\x00' then ['\\', '0']
  else if ch = '\t' then ['\\', 't']
  else if ch = '\r' then ['\\', 'r']
  else if ch = '\n' then ['\\', 'n']
  else if ch = '\\' ∨ ch = mark then ['\\', ch]
  else if isPlain ch then [ch]
  else ['\\', 'u', '\x7b'] ++ Nat.toDigits 16 ch.toNat ++ ['\x7d']

/-- A string between double quotes. -/
def quoted (text : String) : String :=
  String.ofList ('"' :: text.toList.flatMap (escaped '"') ++ ['"'])

/-- A single character between single quotes. -/
def quotedChar (ch : Char) : String :=
  String.ofList ('\x27' :: escaped '\x27' ch ++ ['\x27'])

end Reckoner.Text
