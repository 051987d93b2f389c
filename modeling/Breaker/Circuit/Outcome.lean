import Breaker.Circuit.Admission

/-!
# Outcomes

How an admitted call ends is booked on its circuit, unless a transition has
happened since its admission. A success, or a failure that does not count,
closes the circuit if the call was its trial and changes nothing otherwise. A
failure that counts reopens the circuit if the call was the trial; on a closed
circuit it enters the window and opens the circuit once the window holds as many
failures as the threshold. A trial that is dropped gives the slot back without a
new cooldown.
-/

namespace Breaker

/-- How the action of an admitted call ended. -/
inductive Outcome (K : Type) where
  | success
  | failure (kind : K)

namespace Circuit

variable {K : Type}

/-- Closes the circuit if a trial is out. -/
def settleTrial (c : Circuit K) (now : Instant) : Circuit K × List Effect :=
  if c.state = .halfOpen then c.transition .closed now else (c, [])

def recordSuccess (c : Circuit K) (now : Instant) : Circuit K × List Effect :=
  let (c', changes) := c.settleTrial now
  (c', [.counted c.name .success, c.notice now (.succeeded c.state)] ++ changes)

def recordIgnored (c : Circuit K) (now : Instant) : Circuit K × List Effect :=
  let (c', changes) := c.settleTrial now
  (c', [.counted c.name .ignored, c.notice now (.ignored c.state)] ++ changes)

/-- The window after one more failure, cut to the newest ones that matter. -/
def withFailure (c : Circuit K) (now : Instant) : List Instant :=
  let failures := c.inWindow now ++ [now]
  failures.drop (failures.length - c.policy.count)

def recordFailure (c : Circuit K) (now : Instant) : Circuit K × List Effect :=
  match c.state with
  | .closed =>
    let failures := c.withFailure now
    let told := [.counted c.name .failure, c.notice now (.failed .closed failures.length)]
    let c := { c with failures }
    if c.policy.count ≤ failures.length then
      let (c, changes) := c.transition .opened now
      (c, told ++ changes)
    else (c, told)
  | .halfOpen =>
    let (c', changes) := c.transition .opened now
    (c', [.counted c.name .failure, c.notice now (.failed .halfOpen 1)] ++ changes)
  | .opened => (c, [.counted c.name .failure])

/-- Books a failure that has been classified. -/
def recordClassified (c : Circuit K) (now : Instant) (verdict : Classification) :
    Circuit K × List Effect :=
  if verdict.trips then c.recordFailure now else c.recordIgnored now

/-- Ends an admitted call. The classifier is asked before anything is booked, and whether or not
the outcome is still wanted; if it panics, nothing is booked and the permit is spent. -/
def complete (c : Circuit K) (now : Instant) (p : Permit) (outcome : Outcome K) :
    Circuit K × List Effect × Except Panic Unit :=
  match outcome with
  | .success =>
    if c.generation = p.generation then
      let (c, effects) := c.recordSuccess now
      (c, effects, .ok ())
    else (c, [], .ok ())
  | .failure kind =>
    match c.classify kind with
    | .error panic => (c, [], .error panic)
    | .ok verdict =>
      if c.generation = p.generation then
        let (c, effects) := c.recordClassified now verdict
        (c, effects, .ok ())
      else (c, [], .ok ())

/-- Reopens a half-open circuit without restarting its cooldown. -/
def reopen (c : Circuit K) (now : Instant) : Circuit K × List Effect :=
  let (c', changes) := c.transition .opened now
  ({ c' with openedAt := c.openedAt }, changes)

/-- Drops the permit of a call that has not ended. -/
def abandon (c : Circuit K) (now : Instant) (p : Permit) : Circuit K × List Effect :=
  if p.trial ∧ c.generation = p.generation ∧ c.state = .halfOpen then c.reopen now else (c, [])

end Circuit

end Breaker
