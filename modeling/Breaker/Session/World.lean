import Breaker.Gateway
import Breaker.Json
import Breaker.Metrics
import Breaker.Service
import Breaker.Session.Record

/-!
# The world of a session

A session drives one gateway, with the listeners of its registry, and any number
of standalone circuits, services and calls in flight, on a clock that moves only
when told to. Its journal holds the effects of everything that has taken place.
Standalone circuits and services are numbered in the order in which they are
made; an identifier stands for the latest one made under it, while calls in
flight keep to the one they were started on.
-/

namespace Breaker

/-- The error of an action: its kind, the label it was given by, and its text. -/
structure Failure (K : Type) where
  kind : K
  label : String
  message : String

/-- Where a circuit is found. -/
inductive Address where
  | named (name : String)
  | standalone (number : Nat)
  deriving DecidableEq

/-- The way a call takes to its circuit. -/
inductive Route (K : Type) where
  | gateway (ctx : CallContext K)
  | service (number : Nat) (ctx : CallContext K) (inner : Instance)
  | direct (address : Address)

def Route.address {K : Type} : Route K → Address
  | gateway ctx => .named ctx.name
  | service _ ctx _ => .named ctx.name
  | direct a => a

/-- A call that has been made and has not ended. -/
structure Call (K : Type) where
  route : Route K
  /-- Absent until the call is first polled. -/
  permit : Option Permit := none
  /-- How the action ends, once that is decided. -/
  outcome : Option (Action Json (Failure K)) := none

structure World (K : Type) where
  hierarchy : Hierarchy K
  clock : Instant := 0
  gateway : Gateway K := {}
  listeners : List (Listener Record) := []
  standalone : List (Circuit K) := []
  standaloneIds : Table Nat := ∅
  services : List (Service K (Failure K)) := []
  serviceIds : Table Nat := ∅
  calls : Table (Call K) := ∅
  /-- All effects since the session began. -/
  journal : List Effect := []

namespace World

variable {K : Type}

def circuit? (w : World K) : Address → Option (Circuit K)
  | .named name => w.gateway.registry.circuit? name
  | .standalone number => w.standalone[number]?

def setCircuit (w : World K) (a : Address) (c : Circuit K) : World K :=
  match a with
  | .named name =>
    { w with gateway := { w.gateway with registry := w.gateway.registry.setCircuit name c } }
  | .standalone number => { w with standalone := w.standalone.set number c }

/-- Standalone circuits have no listeners. -/
def heard (a : Address) (effects : List Effect) : List Effect :=
  match a with
  | .named _ => effects
  | .standalone _ => Effect.unheard effects

/-- Writes down what has taken place. -/
def note (w : World K) (effects : List Effect) : World K :=
  { w with journal := w.journal ++ effects }

/-- What the journal adds up to. -/
def metrics (w : World K) : Metrics := .ofEffects w.journal

/-- Lets an operation of one circuit take place. -/
def onCircuit {α : Type} (w : World K) (a : Address) (c : Circuit K)
    (op : Circuit K → Instant → Circuit K × List Effect × α) : World K × List Effect × α :=
  let (c, effects, answer) := op c w.clock
  ((w.setCircuit a c).note (heard a effects), heard a effects, answer)

/-- Lets an operation of the registry take place. -/
def onRegistry {α : Type} (w : World K)
    (op : Registry K → Instant → Registry K × List Effect × α) : World K × List Effect × α :=
  let (r, effects, answer) := op w.gateway.registry w.clock
  (({ w with gateway := { w.gateway with registry := r } }).note effects, effects, answer)

/-- The state of every circuit as it shows itself; identifiers of standalone ones get a star. -/
def states (w : World K) : Table State :=
  .ofList
    ((w.gateway.registry.entries.entries.map fun e => (e.1, e.2.circuit.published))
      ++ w.standaloneIds.entries.filterMap fun e =>
        w.standalone[e.2]?.map fun c => ("*" ++ e.1, c.published))

end World

end Breaker
