/-!
# Signed integers of 64 bits in decimal

An optional sign, `+` or `-`, before at least one ASCII digit; leading zeros are
allowed, values outside `-2 ^ 63 … 2 ^ 63 - 1` are not.
-/

namespace Breaker.Text

/-- The number that decimal digits stand for. -/
def decimal (ds : List Char) : Nat := ds.foldl (fun n c => 10 * n + (c.toNat - '0'.toNat)) 0

/-- The value of a nonempty list of ASCII digits. -/
def natural? (cs : List Char) : Option Nat :=
  if cs ≠ [] ∧ cs.all Char.isDigit then some (decimal cs) else none

/-- The value, unless it takes more than 64 bits. -/
def inRange? (n : Int) : Option Int :=
  if -9223372036854775808 ≤ n ∧ n ≤ 9223372036854775807 then some n else none

def integer? (cs : List Char) : Option Int :=
  match cs with
  | '+' :: ds => (natural? ds).bind fun n => inRange? n
  | '-' :: ds => (natural? ds).bind fun n => inRange? (-n)
  | ds => (natural? ds).bind fun n => inRange? n

end Breaker.Text
