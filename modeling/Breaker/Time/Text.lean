import Breaker.Time

/-!
# The text of a duration

A duration is written in the largest of the units `s`, `ms`, `µs`, `ns` of
which it holds at least one, with its exact fraction and no trailing zeros:
`15s`, `1.5ms`, `0ns`.
-/

namespace Breaker

namespace Decimal

/-- The last `places` decimal digits of `n`, leading zeros included. -/
def digits : Nat → Nat → List Char
  | 0, _ => []
  | places + 1, n => digits places (n / 10) ++ [Nat.digitChar (n % 10)]

/-- A decimal fraction without its trailing zeros, and with its point if any digit is left. -/
def fraction (places n : Nat) : List Char :=
  match (digits places n).reverse.dropWhile (· == '0') with
  | [] => []
  | ds => '.' :: ds.reverse

/-- `n / 10 ^ places`, written exactly. -/
def fixed (places n : Nat) : String :=
  toString (n / Nat.pow 10 places) ++ String.ofList (fraction places n)

end Decimal

namespace Duration

def text (d : Duration) : String :=
  if 1000000000 ≤ d.nanos then Decimal.fixed 9 d.nanos ++ "s"
  else if 1000000 ≤ d.nanos then Decimal.fixed 6 d.nanos ++ "ms"
  else if 1000 ≤ d.nanos then Decimal.fixed 3 d.nanos ++ "µs"
  else toString d.nanos ++ "ns"

end Duration

end Breaker
