import Breaker.Session.World

/-!
# Steps of a session

What a session can be told to do. A `Command` is done at one stroke; the two
blocking calls, `Step.call` and `Step.invoke`, may have further steps take place
while their action runs.
-/

namespace Breaker

/-- A circuit as a command names it. -/
inductive Target where
  | named (name : String)
  | standalone (id : String)

/-- Where a call that is started goes. -/
inductive Origin (K : Type) where
  | gateway (ctx : CallContext K)
  | service (id : String)
  | direct (target : Target)

/-- What can show itself as text. -/
inductive Shown where
  | registry
  | gateway
  | circuit (target : Target)

/-- What is to be done with one circuit. -/
inductive CircuitCommand (K : Type) where
  | bindClassifier (f : Classifier K)
  | classify (kinds : List K)
  | info
  | snapshot
  | forceOpen
  | forceClosed
  | reset

inductive Command (K : Type) where
  | advance (span : Duration)
  | start (id : String) (origin : Origin K) (outcome : Option (Action Json (Failure K)))
      (unpolled : Bool)
  | poll (id : String)
  | finish (id : String) (outcome : Action Json (Failure K))
  | cancel (id : String)
  | makeService (id : String) (ctx : CallContext K)
  | pollService (id : String) (readiness : Readiness (Failure K))
  | countRequests (id : String)
  | getOrCreate (name : String)
  | get (name : String)
  | isKnown (name : String)
  | isConfigured (name : String)
  | list
  | openCircuits
  | snapshots
  | bindPolicy (name : String) (policy : Except PolicyError Policy)
  | bindClassification (name : String) (f : Classifier K)
  | loadProperties (pairs : List (String × String))
  | makeCircuit (id : String) (name : String) (policy : Except PolicyError Policy)
  | circuit (target : Target) (command : CircuitCommand K)
  | inspect (shown : Shown)
  | metrics

inductive Step (K : Type) where
  | command (c : Command K)
  | call (ctx : CallContext K) (action : Action Json (Failure K)) (during : Option (List (Step K)))
  | invoke (target : Target) (action : Action Json (Failure K)) (during : Option (List (Step K)))

/-- A circuit as it shows itself. -/
structure Info where
  name : String
  policy : Policy
  state : State
  isOpen : Bool
  health : String
  classified : Bool

def Circuit.info {K : Type} (c : Circuit K) : Info where
  name := c.name
  policy := c.policy
  state := c.published
  isOpen := c.isOpen
  health := c.health
  classified := c.isClassified

/-- What a step led to: its answer, the records made and the log written meanwhile, and the state
of every circuit after it. -/
structure Report (A : Type) where
  answer : A
  records : List Record
  log : List LogEntry
  states : Table State

/-- The answers to steps. -/
inductive Answer (K : Type) where
  | done
  | time (now : Instant)
  | flag (b : Bool)
  | count (n : Nat)
  | text (s : String)
  | names (names : List String)
  | listing (names : List String) (size : Nat)
  | classes (classes : List Classification)
  | panicked (panic : Panic)
  | unknownCircuit (name : String)
  | noSuchCall
  | configError (error : ConfigError)
  | info (info : Info)
  | snapshot (s : Snapshot)
  | snapshots (l : List Snapshot)
  | loaded (l : Loaded)
  | metrics (m : Metrics)
  | readiness (r : Readiness (Failure K))
  | pending (ran : Bool)
  | ended (result : CallResult Json (Failure K)) (ran : Bool)
  /-- The end of a call that may have had steps take place meanwhile, with their reports if its
  action ran. -/
  | endedDuring (result : CallResult Json (Failure K)) (reports : Option (List (Report (Answer K))))

/-- The message that goes with `Answer.unknownCircuit`. -/
def Answer.unknownMessage (name : String) : String := "circuit '" ++ name ++ "' not found"

end Breaker
