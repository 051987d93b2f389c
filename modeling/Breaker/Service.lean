import Breaker.Classification

/-!
# Services

A service wraps an inner service whose requests are calls through a named
circuit. An instance of the inner service has to be polled until it is ready
before each request. Polling the wrapper polls the inner instance that it holds;
a request runs on a copy of that instance, taken when the request is made.
-/

namespace Breaker

/-- What polling for readiness answers. -/
inductive Readiness (E : Type) where
  | ready
  | pending
  | failed (error : E)

/-- An instance of an inner service. -/
structure Instance where
  /-- Polled with success since its last request. -/
  ready : Bool := false
  deriving DecidableEq

namespace Instance

/-- A copy is an instance of its own, which nobody has polled yet. -/
def copy (_ : Instance) : Instance := {}

def polled {E : Type} (i : Instance) : Readiness E → Instance
  | .ready => { ready := true }
  | _ => i

end Instance

/-- A wrapped service, of failures `E`. -/
structure Service (K E : Type) where
  name : String
  rule : Option (Rule K) := none
  inner : Instance := {}
  /-- What the inner service answers when it is polled. -/
  readiness : Readiness E := .ready
  /-- For each request the inner service got: whether the instance was ready for it. -/
  requests : List Bool := []

namespace Service

variable {K E : Type}

def poll (s : Service K E) : Service K E × Readiness E :=
  ({ s with inner := s.inner.polled s.readiness }, s.readiness)

/-- The instance on which a request made now will run. -/
def instanceForRequest (s : Service K E) : Instance := s.inner.copy

/-- The inner service gets a request on the instance `i`. -/
def request (s : Service K E) (i : Instance) : Service K E :=
  { s with requests := s.requests ++ [i.ready] }

/-- A copy of the wrapper holds a copy of the inner instance, and its requests are its own. -/
def clone (s : Service K E) : Service K E := { s with inner := s.inner.copy, requests := [] }

end Service

end Breaker
