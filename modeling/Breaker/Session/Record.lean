import Breaker.Listener

/-!
# Records

The listeners of a session write down what they hear: the whole event, the
arguments of a callback for one type of event, or what the circuit shows of
itself while the event is delivered.
-/

namespace Breaker

/-- How much of a notice a record shows. -/
inductive Manner where
  | event
  | callback
  | observer
  deriving DecidableEq

structure Record where
  tag : String
  manner : Manner
  notice : Notice
  deriving DecidableEq

/-- A listener that records under `tag`, and panics each time if `panics`. -/
def Record.listener (tag : String) (manner : Manner) (condition : Condition) (panics : Bool) :
    Listener Record where
  condition := condition
  record n := { tag, manner, notice := n }
  panics _ := panics

end Breaker
