import Breaker.Circuit

/-!
# Admission

A call that arrives is given a permit or is rejected with the time that is left
until a trial may run. The first call after the cooldown of an opened circuit
becomes the trial: the circuit goes half-open and rejects everyone else.
-/

namespace Breaker

/-- The right to run one call. -/
structure Permit where
  generation : UInt64
  trial : Bool
  deriving DecidableEq

/-- A call was rejected; a trial may run after `remaining`. -/
structure OpenError where
  circuit : String
  remaining : Duration
  deriving DecidableEq

namespace OpenError

def message (e : OpenError) : String :=
  "circuit '" ++ e.circuit ++ "' is open; trial call permitted in " ++ e.remaining.text

def inspect (e : OpenError) : String :=
  Inspect.record "CircuitOpenError"
    [("name", Text.quote e.circuit), ("remaining", e.remaining.text)]

end OpenError

namespace Circuit

variable {K : Type}

/-- What is left of the cooldown, unless it is over. -/
def cooldownLeft? (c : Circuit K) (now : Instant) : Option Duration :=
  match c.openedAt with
  | none => none
  | some t =>
    if now - t < c.policy.resetTimeout.nanos then
      some (c.policy.resetTimeout.remainingAfter (now - t))
    else none

/-- The effects and the answer of turning a call away. -/
def reject (c : Circuit K) (now : Instant) (remaining : Duration) :
    List Effect × Except OpenError Permit :=
  ([.log (.rejected c.name remaining), .counted c.name .rejected,
      c.notice now (.rejected remaining)],
    .error ⟨c.name, remaining⟩)

/-- The effects and the answer of letting a call run. -/
def permit (c : Circuit K) (now : Instant) : List Effect × Except OpenError Permit :=
  ([.log (.permitted c.name c.state), c.notice now (.permitted c.state)],
    .ok ⟨c.generation, c.state = .halfOpen⟩)

/-- Decides about a call that arrives at `now`. -/
def arrive (c : Circuit K) (now : Instant) :
    Circuit K × List Effect × Except OpenError Permit :=
  match c.state with
  | .closed => (c, c.permit now)
  | .halfOpen => (c, c.reject now .zero)
  | .opened =>
    match c.cooldownLeft? now with
    | some remaining => (c, c.reject now remaining)
    | none =>
      let (c, changes) := c.transition .halfOpen now
      let (effects, answer) := c.permit now
      (c, changes ++ effects, answer)

end Circuit

end Breaker
