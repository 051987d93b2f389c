import Breaker.State
import Breaker.Time

/-!
# Events

What a circuit tells its listeners: each event names the circuit, says when it
happened, and what happened. A `Notice` is an event together with the state that
the circuit shows to the outside while the event is delivered; during a
transition that is still the state being left.
-/

namespace Breaker

inductive EventType where
  | stateTransition
  | callPermitted
  | callRejected
  | successRecorded
  | failureRecorded
  | failureIgnored
  deriving DecidableEq

namespace EventType

def name : EventType → String
  | stateTransition => "state_transition"
  | callPermitted => "call_permitted"
  | callRejected => "call_rejected"
  | successRecorded => "success_recorded"
  | failureRecorded => "failure_recorded"
  | failureIgnored => "failure_ignored"

def all : List EventType :=
  [stateTransition, callPermitted, callRejected, successRecorded, failureRecorded, failureIgnored]

def ofName? (s : String) : Option EventType := all.find? fun t => t.name = s

theorem ofName?_name (t : EventType) : ofName? t.name = some t := by
  cases t <;> decide

theorem ofName?_eq_some_iff {s : String} {t : EventType} : ofName? s = some t ↔ t.name = s := by
  constructor
  · intro h
    simpa using List.find?_some h
  · rintro rfl
    exact ofName?_name t

end EventType

inductive EventDetail where
  | transition (source target : State)
  | permitted (state : State)
  | rejected (remaining : Duration)
  | succeeded (state : State)
  /-- A failure that counts, with the number of failures now in the window. -/
  | failed (state : State) (failures : Nat)
  | ignored (state : State)
  deriving DecidableEq

def EventDetail.type : EventDetail → EventType
  | transition .. => .stateTransition
  | permitted _ => .callPermitted
  | rejected _ => .callRejected
  | succeeded _ => .successRecorded
  | failed .. => .failureRecorded
  | ignored _ => .failureIgnored

structure Event where
  circuit : String
  time : Instant
  detail : EventDetail
  deriving DecidableEq

def Event.type (e : Event) : EventType := e.detail.type

/-- An event and the state its circuit shows meanwhile. -/
structure Notice where
  event : Event
  published : State
  deriving DecidableEq

end Breaker
