import Breaker.Effect

/-!
# Listeners

A listener turns the notices it cares about into records of type `R`. It may
panic after it has made its record; that costs a warning in the log and nothing
else, and the listeners after it still get the notice.
-/

namespace Breaker

/-- Which events a listener cares about. -/
inductive Condition where
  | any
  | never
  | ofType (type : EventType)
  /-- Events of one circuit, among those that `inner` lets through. -/
  | ofCircuit (name : String) (inner : Condition)

namespace Condition

def admits : Condition → Event → Bool
  | any, _ => true
  | never, _ => false
  | ofType t, e => e.type = t
  | ofCircuit name inner, e => e.circuit = name && inner.admits e

/-- Events whose type has this name, so none if it is no type's name. -/
def ofTypeName (name : String) : Condition :=
  match EventType.ofName? name with
  | some t => ofType t
  | none => never

theorem admits_ofTypeName (name : String) (e : Event) :
    (ofTypeName name).admits e = decide (e.type.name = name) := by
  unfold ofTypeName
  split
  · next t h =>
    have hn := EventType.ofName?_eq_some_iff.1 h
    by_cases he : e.type = t
    · simp [admits, he, hn]
    · have : e.type.name ≠ name := fun h' =>
        he (Option.some.inj ((EventType.ofName?_eq_some_iff.2 h').symm.trans h))
      simp [admits, he, this]
  · next h =>
    have : e.type.name ≠ name := fun h' => by
      simp [EventType.ofName?_eq_some_iff.2 h'] at h
    simp [admits, this]

end Condition

structure Listener (R : Type) where
  condition : Condition
  record : Notice → R
  panics : Notice → Bool

namespace Listener

variable {R : Type}

def hears (l : Listener R) (n : Notice) : Bool := l.condition.admits n.event

/-- What the listeners make of a notice, in the order in which they were added. -/
def records (listeners : List (Listener R)) (n : Notice) : List R :=
  (listeners.filter (·.hears n)).map (·.record n)

/-- A warning for each listener that panics on the notice. -/
def warnings (listeners : List (Listener R)) (n : Notice) : List LogEntry :=
  (listeners.filter fun l => l.hears n && l.panics n).map fun _ =>
    .listenerPanicked n.event.circuit n.event.type

/-- The records that a list of effects leads to. -/
def recordsOf (listeners : List (Listener R)) (effects : List Effect) : List R :=
  (effects.filterMap Effect.notice?).flatMap (records listeners)

/-- The log that a list of effects leads to. -/
def logOf (listeners : List (Listener R)) (effects : List Effect) : List LogEntry :=
  effects.flatMap fun
    | .log entry => [entry]
    | .notify n => warnings listeners n
    | _ => []

end Listener

end Breaker
