import ReliableRouting.Text.Printable

/-!
# Quoted text

Text between quotes, with an escape for the quote, the backslash, and every character that
is not printable. An escape that has no letter of its own gives the code point in lower-case
hexadecimal digits.
-/

namespace ReliableRouting.Text

/-- The code point in hexadecimal digits between braces. -/
def escapeCodePoint (c : Char) : List Char :=
  ['\\', 'u', '\x7b'] ++ Nat.toDigits 16 c.toNat ++ ['\x7d']

/-- A character as it stands between quotes. -/
def escape (c : Char) : List Char :=
  if c = '\x00' then ['\\', '0']
  else if c = '\t' then ['\\', 't']
  else if c = '\r' then ['\\', 'r']
  else if c = '\n' then ['\\', 'n']
  else if c = '\\' ∨ c = '\"' then ['\\', c]
  else if isPrintable c then [c]
  else escapeCodePoint c

/-- The text between quotes. -/
def quoted (s : String) : String :=
  String.ofList ('\"' :: s.toList.flatMap escape ++ ['\"'])

end ReliableRouting.Text
