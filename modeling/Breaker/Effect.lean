import Breaker.Log

/-!
# Effects

Operations are pure. What they do to the world around them, besides their
answer, is a list of effects in the order in which they take place: log entries,
notices for the listeners, and steps of the metrics.
-/

namespace Breaker

/-- How a call ended, as far as it is counted. -/
inductive CallOutcome where
  | success
  | failure
  | ignored
  | rejected
  deriving DecidableEq

namespace CallOutcome

def name : CallOutcome → String
  | success => "success"
  | failure => "failure"
  | ignored => "ignored"
  | rejected => "rejected"

/-- All outcomes in ascending order of names. -/
def byName : List CallOutcome := [failure, ignored, rejected, success]

end CallOutcome

inductive Effect where
  | log (entry : LogEntry)
  | notify (notice : Notice)
  /-- One more call of the circuit ended this way. -/
  | counted (circuit : String) (outcome : CallOutcome)
  /-- One more transition of the circuit, which is now in `target`. -/
  | switched (circuit : String) (source target : State)
  deriving DecidableEq

namespace Effect

/-- The notice in an effect, if it is one. -/
def notice? : Effect → Option Notice
  | notify n => some n
  | _ => none

/-- The effects that take place even where nobody listens. -/
def unheard (effects : List Effect) : List Effect := effects.filter fun e => e.notice?.isNone

end Effect

end Breaker
