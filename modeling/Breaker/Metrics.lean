import Breaker.Effect
import Breaker.Table

/-!
# Metrics

Per circuit name: how many calls ended in which way, how many transitions there
were between which states, and the state after the last of them. Circuits that
share a name share a tally.
-/

namespace Breaker

/-- What is counted under one name. -/
structure Tally where
  calls : CallOutcome → Nat := fun _ => 0
  transitions : State → State → Nat := fun _ _ => 0
  current : Option State := none

namespace Tally

def count (t : Tally) (outcome : CallOutcome) : Tally :=
  { t with calls := fun o => if o = outcome then t.calls o + 1 else t.calls o }

def switch (t : Tally) (source target : State) : Tally :=
  { t with
    transitions := fun s s' =>
      if s = source ∧ s' = target then t.transitions s s' + 1 else t.transitions s s'
    current := some target }

end Tally

/-- All tallies by circuit name. -/
structure Metrics where
  tallies : Table Tally := ∅

/-- One value of a metric under its labels. -/
structure MetricRow where
  metric : String
  labels : List (String × String)
  value : Nat
  deriving DecidableEq

namespace Metrics

def tally (m : Metrics) (circuit : String) : Tally := (m.tallies.get? circuit).getD {}

def record (m : Metrics) : Effect → Metrics
  | .counted circuit outcome => ⟨m.tallies.insert circuit ((m.tally circuit).count outcome)⟩
  | .switched circuit source target =>
    ⟨m.tallies.insert circuit ((m.tally circuit).switch source target)⟩
  | _ => m

/-- What a list of effects adds up to. -/
def ofEffects (effects : List Effect) : Metrics := effects.foldl record {}

def callsTotal : String := "circuit_calls_total"
def transitionsTotal : String := "circuit_transitions_total"
def stateGauge : String := "circuit_state"

def callRows (circuit : String) (t : Tally) : List MetricRow :=
  CallOutcome.byName.filterMap fun o =>
    if t.calls o = 0 then none
    else some ⟨callsTotal, [("circuit", circuit), ("outcome", o.name)], t.calls o⟩

def transitionRows (circuit : String) (t : Tally) : List MetricRow :=
  State.byName.flatMap fun s => State.byName.filterMap fun s' =>
    if t.transitions s s' = 0 then none
    else some
      ⟨transitionsTotal, [("circuit", circuit), ("from", s.name), ("to", s'.name)],
        t.transitions s s'⟩

/-- The counters that have counted, in ascending order of metrics and labels. -/
def counters (m : Metrics) : List MetricRow :=
  m.tallies.entries.flatMap (fun e => callRows e.1 e.2)
    ++ m.tallies.entries.flatMap (fun e => transitionRows e.1 e.2)

/-- The gauges that have been set, in ascending order of circuits. -/
def gauges (m : Metrics) : List MetricRow :=
  m.tallies.entries.filterMap fun e =>
    e.2.current.map fun s => ⟨stateGauge, [("circuit", e.1)], s.code⟩

/-- Type, name and meaning of every metric. -/
def descriptions : List (String × String × String) :=
  [("counter", callsTotal,
      "Calls through named circuits by outcome (success, failure, ignored, rejected)"),
    ("counter", transitionsTotal, "Total number of circuit state transitions"),
    ("gauge", stateGauge, "Current state of the circuit (0 closed, 1 open, 2 half-open)")]

end Metrics

end Breaker
