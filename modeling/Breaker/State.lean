/-!
# States of a circuit

A closed circuit lets calls run, an opened one rejects them, and a half-open one
has a single trial call in flight and rejects all others.
-/

namespace Breaker

inductive State where
  | closed
  | opened
  | halfOpen
  deriving DecidableEq

namespace State

def name : State → String
  | closed => "Closed"
  | opened => "Open"
  | halfOpen => "HalfOpen"

/-- The number a gauge shows for the state. -/
def code : State → Nat
  | closed => 0
  | opened => 1
  | halfOpen => 2

def health : State → String
  | closed => "healthy"
  | opened => "unhealthy"
  | halfOpen => "degraded"

/-- All states in ascending order of names. -/
def byName : List State := [closed, halfOpen, opened]

end State

end Breaker
