import Breaker.Circuit.Admission
import Breaker.Policy.Encoding

/-!
# Manual control and snapshots

A circuit can be opened and closed by hand. A snapshot is a view of it at one
instant; taking one drops the failures that have left the window.
-/

namespace Breaker

/-- A view of a circuit at one instant. -/
structure Snapshot where
  name : String
  state : State
  failuresInWindow : Nat
  policy : Policy
  classified : Bool
  sinceChange : Duration
  /-- The time until a trial may run, while the circuit is opened. -/
  trialIn : Option Duration
  deriving DecidableEq

def Snapshot.toJson (s : Snapshot) : Json :=
  .ofFields
    [("name", .str s.name), ("state", .str s.state.name),
      ("failures_in_window", .nat s.failuresInWindow), ("policy", s.policy.toJson),
      ("classified", .bool s.classified), ("time_since_state_change", s.sinceChange.toJson),
      ("trial_in", .ofOption (s.trialIn.map Duration.toJson))]

namespace Circuit

variable {K : Type}

/-- Opens the circuit, or restarts the cooldown if it is open. -/
def forceOpen (c : Circuit K) (now : Instant) : Circuit K × List Effect :=
  if c.state = .opened then ({ c with openedAt := some now }, []) else c.transition .opened now

/-- Closes the circuit and clears its window. -/
def forceClosed (c : Circuit K) (now : Instant) : Circuit K × List Effect :=
  let (c, changes) := c.transition .closed now
  ({ c with failures := [] }, changes)

def trialIn? (c : Circuit K) (now : Instant) : Option Duration :=
  if c.state = .opened then
    c.openedAt.map fun t => c.policy.resetTimeout.remainingAfter (now - t)
  else none

def snapshot (c : Circuit K) (now : Instant) : Circuit K × Snapshot :=
  let c := { c with failures := c.inWindow now }
  (c,
    { name := c.name
      state := c.state
      failuresInWindow := c.failures.length
      policy := c.policy
      classified := c.isClassified
      sinceChange := .between c.lastChange now
      trialIn := c.trialIn? now })

def inspect (c : Circuit K) : String :=
  Inspect.record "Circuit"
    [("name", Text.quote c.name), ("state", c.published.name), ("policy", c.policy.inspect),
      ("classified", if c.isClassified then "true" else "false")]

end Circuit

end Breaker
