import Breaker.Json
import Breaker.Policy
import Breaker.Text.Inspect
import Breaker.Time.Text

/-!
# Policies as JSON and as text

A policy is written as an object of its three parts, a duration as an object of
seconds and nanoseconds. Reading also takes the parts in order as an array of
exactly that length; it takes a missing or null window as none, ignores unknown
fields of a policy and refuses unknown fields of a duration. Nanoseconds beyond
a second carry over. A policy that is read is validated.
-/

namespace Breaker

/-- Why JSON makes no policy: its shape, or its numbers. -/
inductive DecodeError where
  | shape
  | invalid (error : PolicyError)
  deriving DecidableEq

namespace Json

/-- An integer from zero up to, but not including, `bound`. -/
def natBelow? (bound : Nat) : Json → Option Nat
  | int n => if 0 ≤ n ∧ n < bound then some n.toNat else none
  | _ => none

end Json

namespace Duration

def toJson (d : Duration) : Json :=
  .ofFields [("secs", .nat d.secs), ("nanos", .nat d.subsecNanos)]

def ofJsonParts? (secs nanos : Json) : Option Duration := do
  ofParts? (← secs.natBelow? 18446744073709551616) (← nanos.natBelow? 4294967296)

def ofJson? : Json → Option Duration
  | .arr [secs, nanos] => ofJsonParts? secs nanos
  | .obj fields =>
    if fields.all fun f => f.1 = "secs" ∨ f.1 = "nanos" then do
      ofJsonParts? (← Json.lookField "secs" fields) (← Json.lookField "nanos" fields)
    else none
  | _ => none

end Duration

namespace Policy

/-- A window: absent, null, or a duration. -/
def windowOfJson? : Option Json → Option (Option Duration)
  | none => some none
  | some .null => some none
  | some j => (Duration.ofJson? j).map some

def toJson (p : Policy) : Json :=
  .ofFields
    [("threshold", .nat p.count), ("window", .ofOption (p.window.map Duration.toJson)),
      ("reset_timeout", p.resetTimeout.toJson)]

/-- The three parts as numbers, not yet validated. -/
def partsOfJson? (threshold window reset : Option Json) :
    Option (UInt64 × Option Duration × Duration) := do
  let t ← (← threshold).natBelow? 18446744073709551616
  let w ← windowOfJson? window
  let r ← Duration.ofJson? (← reset)
  return (UInt64.ofNat t, w, r)

def ofJson (j : Json) : Except DecodeError Policy :=
  let parts := match j with
    | .arr [t, w, r] => partsOfJson? (some t) (some w) (some r)
    | .obj fields =>
      partsOfJson? (Json.lookField "threshold" fields) (Json.lookField "window" fields)
        (Json.lookField "reset_timeout" fields)
    | _ => none
  match parts with
  | none => .error .shape
  | some (t, w, r) => (validate t w r).mapError .invalid

def inspect (p : Policy) : String :=
  Inspect.record "CircuitPolicy"
    [("threshold", toString p.threshold),
      ("window", Inspect.option (p.window.map Duration.text)),
      ("reset_timeout", p.resetTimeout.text)]

end Policy

end Breaker
