import Breaker.Text.Extender
import Breaker.Text.Ignorable
import Breaker.Text.Invisible

/-!
# Quoted text

A text between double quotes, unambiguous to a reader: the quote, the backslash
and the usual controls have short escapes, every other character that would not
show as itself is written `\u` with its code point in braces.
-/

namespace Breaker.Text

/-- The code point in lower-case hexadecimal. -/
def hex (n : Nat) : List Char := Nat.toDigits 16 n

/-- Whether `c` would not show as itself. -/
def isConcealed (c : Char) : Bool := isExtender c || isIgnorable c || isInvisible c

def escape (c : Char) : List Char :=
  if c = '"' then ['\\', '"']
  else if c = '\\' then ['\\', '\\']
  else if c = '\n' then ['\\', 'n']
  else if c = '\r' then ['\\', 'r']
  else if c = '\t' then ['\\', 't']
  else if c = '\x00' then ['\\', '0']
  else if isConcealed c then ['\\', 'u', '\x7b'] ++ hex c.toNat ++ ['\x7d']
  else [c]

def quote (s : String) : String :=
  String.ofList ('"' :: s.toList.flatMap escape ++ ['"'])

end Breaker.Text
