import Breaker.Classification
import Breaker.Effect
import Breaker.Policy

/-!
# Circuits

A circuit guards one dependency. It keeps the times of the tripping failures
that may still count, the time at which it was opened, and a generation that
every transition advances: the outcome of a call is applied only in the
generation in which the call was admitted. Observers read `published`, which a
transition sets as its last act.
-/

namespace Breaker

structure Circuit (K : Type) where
  name : String
  policy : Policy
  /-- Set at most once; without one every kind trips. -/
  classifier : Option (Classifier K) := none
  state : State := .closed
  /-- Times of counted failures, oldest first. -/
  failures : List Instant := []
  openedAt : Option Instant := none
  lastChange : Instant
  generation : UInt64 := 0
  published : State := .closed

namespace Circuit

variable {K : Type}

/-- A closed circuit made at `now`. -/
def create (name : String) (policy : Policy) (now : Instant) : Circuit K :=
  { name, policy, lastChange := now }

def isOpen (c : Circuit K) : Bool := c.published = .opened

def health (c : Circuit K) : String := c.published.health

def isClassified (c : Circuit K) : Bool := c.classifier.isSome

/-- Binds a classifier unless one is bound; says whether it did. -/
def bindClassifier (c : Circuit K) (f : Classifier K) : Circuit K × Bool :=
  match c.classifier with
  | some _ => (c, false)
  | none => ({ c with classifier := some f }, true)

def classify (c : Circuit K) : Classifier K := c.classifier.getD .tripAll

/-- The notice of something that happens to the circuit now. -/
def notice (c : Circuit K) (now : Instant) (detail : EventDetail) : Effect :=
  .notify ⟨⟨c.name, now, detail⟩, c.published⟩

/-- When the circuit counts as opened after a transition at `now`. -/
def openedAfter (c : Circuit K) (target : State) (now : Instant) : Option Instant :=
  match target with
  | .opened => some now
  | .closed => none
  | .halfOpen => c.openedAt

/-- Goes to `target` and starts a new generation; staying where one is does nothing. -/
def transition (c : Circuit K) (target : State) (now : Instant) : Circuit K × List Effect :=
  if c.state = target then (c, [])
  else
    ({ c with
        state := target
        failures := []
        openedAt := c.openedAfter target now
        lastChange := now
        generation := c.generation + 1
        published := target },
      [c.notice now (.transition c.state target),
        .log (.transition c.name c.state target),
        .switched c.name c.state target])

/-- The failures that are still inside the window. -/
def inWindow (c : Circuit K) (now : Instant) : List Instant :=
  match c.policy.window with
  | none => c.failures
  | some w => c.failures.dropWhile fun t => w.nanos < now - t

end Circuit

end Breaker
