import Breaker.Session.Command

/-!
# Running a session

A blocking call is entered, has its steps take place, and is settled. What the
steps lead to is in their own reports; the report of the call holds what
entering and settling led to.
-/

namespace Breaker

namespace World

variable {K : Type} [DecidableEq K]

def report (w : World K) (effects : List Effect) (answer : Answer K) : Report (Answer K) where
  answer := answer
  records := Listener.recordsOf w.listeners effects
  log := Listener.logOf w.listeners effects
  states := w.states

mutual

def step (w : World K) : Step K → World K × List Effect × Answer K
  | .command c => w.command c
  | .call ctx action during => w.blocking (.gateway ctx) action during
  | .invoke t action during =>
    match w.address? t with
    | .error answer => (w, [], answer)
    | .ok a => w.blocking (.direct a) action during

/-- A call whose action runs the steps, if any are given, and then ends. -/
def blocking (w : World K) (route : Route K) (action : Action Json (Failure K)) :
    Option (List (Step K)) → World K × List Effect × Answer K
  | none =>
    match w.enter route with
    | (w, effects, .error result) => (w, effects, .ended result false)
    | (w, effects, .ok p) =>
      let (w, more, result) := w.settle route.address p action
      (w, effects ++ more, .ended result true)
  | some during =>
    match w.enter route with
    | (w, effects, .error result) => (w, effects, .endedDuring result none)
    | (w, effects, .ok p) =>
      let (w, reports) := w.steps during
      let (w, more, result) := w.settle route.address p action
      (w, effects ++ more, .endedDuring result (some reports))

/-- Runs the steps in order. -/
def steps (w : World K) : List (Step K) → World K × List (Report (Answer K))
  | [] => (w, [])
  | s :: rest =>
    let (w, effects, answer) := w.step s
    let report := w.report effects answer
    let (w, reports) := w.steps rest
    (w, report :: reports)

end

end World

/-- A step in building a registry. -/
inductive Setting where
  | standing (policy : Policy)
  | listener (l : Listener Record)

/-- What the registry of a session is made from: settings, or properties and nothing else. -/
inductive Blueprint where
  | settings (l : List Setting)
  | properties (pairs : List (String × String))

namespace Blueprint

/-- The policy for circuits made on first use: the last one set. -/
def standing : Blueprint → Policy
  | properties _ => .standard
  | settings l =>
    l.foldl
      (fun acc setting => match setting with
        | .standing p => p
        | .listener _ => acc)
      .standard

def listeners : Blueprint → List (Listener Record)
  | properties _ => []
  | settings l =>
    l.filterMap fun
      | .listener l => some l
      | .standing _ => none

/-- The registry, and what making it led to. -/
def registry {K : Type} (b : Blueprint) : Registry K × List Effect :=
  let empty : Registry K := { standing := b.standing }
  match b with
  | settings _ => (empty, [])
  | properties pairs =>
    let (r, effects, _) := empty.loadProperties pairs 0
    (r, effects)

end Blueprint

/-- What a session starts from. -/
structure Setup (K : Type) where
  hierarchy : Hierarchy K
  blueprint : Blueprint := .settings []
  /-- The last one counts. -/
  mappers : List (ErrorMapper K) := []

namespace Setup

variable {K : Type}

/-- The world at the start of the session, and what setting it up led to. -/
def world (s : Setup K) : World K × List Effect :=
  let (registry, effects) := s.blueprint.registry
  (World.note
    { hierarchy := s.hierarchy
      gateway := { registry, mapper := s.mappers.getLast? }
      listeners := s.blueprint.listeners } effects, effects)

/-- The log of the setup, and the reports of the steps. -/
def run [DecidableEq K] (s : Setup K) (steps : List (Step K)) :
    List LogEntry × List (Report (Answer K)) :=
  let (w, effects) := s.world
  (Listener.logOf w.listeners effects, (w.steps steps).2)

end Setup

end Breaker
