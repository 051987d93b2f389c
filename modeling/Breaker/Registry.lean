import Breaker.Circuit.Control
import Breaker.Circuit.Outcome
import Breaker.Policy.Properties
import Breaker.Table

/-!
# The registry

One circuit per name. A circuit is made on first use with the standing policy,
or beforehand with a policy of its own, and is never removed. The one chance to
bind a classification is spent by the first explicit binding or by the first
gateway call, whichever comes first, with or without a rule.
-/

namespace Breaker

/-- A circuit with a note whether its one binding is spent. -/
structure Entry (K : Type) where
  circuit : Circuit K
  configured : Bool := false

structure Registry (K : Type) where
  entries : Table (Entry K) := ∅
  /-- The policy of circuits that are made on first use. -/
  standing : Policy := .standard

namespace Registry

variable {K : Type}

/-! ## Looking -/

def circuit? (r : Registry K) (name : String) : Option (Circuit K) :=
  (r.entries.get? name).map (·.circuit)

def contains (r : Registry K) (name : String) : Bool := r.entries.contains name

def isConfigured? (r : Registry K) (name : String) : Option Bool :=
  (r.entries.get? name).map (·.configured)

def names (r : Registry K) : List String := r.entries.keys

def size (r : Registry K) : Nat := r.entries.size

/-- The names of the circuits that do not show themselves closed. -/
def openCircuits (r : Registry K) : List String :=
  (r.entries.filter fun _ e => e.circuit.published ≠ .closed).keys

def inspect (r : Registry K) : String :=
  Inspect.record "Registry"
    [("circuits", Inspect.set (r.names.map Text.quote)),
      ("default_policy", r.standing.inspect)]

/-! ## Changing -/

/-- Puts a circuit in the place of the one under `name`. -/
def setCircuit (r : Registry K) (name : String) (c : Circuit K) : Registry K :=
  { r with entries := r.entries.modify name fun e => { e with circuit := c } }

def setEntry (r : Registry K) (name : String) (e : Entry K) : Registry K :=
  { r with entries := r.entries.insert name e }

/-- The entry of `name` as it is or as it would be made, with the effects of making it. -/
def entry (r : Registry K) (name : String) (now : Instant) : Entry K × List Effect :=
  match r.entries.get? name with
  | some e => (e, [])
  | none => ({ circuit := .create name r.standing now }, [.log (.standardPolicy name)])

/-- Makes sure that `name` has a circuit. -/
def getOrCreate (r : Registry K) (name : String) (now : Instant) :
    Registry K × List Effect × Circuit K :=
  let (e, effects) := r.entry name now
  (r.setEntry name e, effects, e.circuit)

/-- Spends the binding of an entry on a classifier; says whether that took effect. -/
def bindEntry (name : String) (e : Entry K) (f : Classifier K) :
    Entry K × List Effect × Bool :=
  if e.configured then (e, [], false)
  else
    let (c, took) := e.circuit.bindClassifier f
    ({ circuit := c, configured := true }, [.log (.bound name took)], took)

def bindClassification (r : Registry K) (name : String) (f : Classifier K) (now : Instant) :
    Registry K × List Effect × Bool :=
  let (e, made) := r.entry name now
  let (e, effects, took) := bindEntry name e f
  (r.setEntry name e, made ++ effects, took)

/-- What a gateway call with this declaration does to the entry. -/
def declare (name : String) (e : Entry K) (declared : Option (Classifier K)) :
    Entry K × List Effect :=
  match declared with
  | some f =>
    let (e, effects, _) := bindEntry name e f
    (e, effects)
  | none =>
    if e.configured then (e, [])
    else ({ e with configured := true }, [.log (.undeclared name)])

/-- The circuit for a gateway call. -/
def resolve (r : Registry K) (name : String) (declared : Option (Classifier K)) (now : Instant) :
    Registry K × List Effect × Circuit K :=
  let (e, made) := r.entry name now
  let (e, effects) := declare name e declared
  (r.setEntry name e, made ++ effects, e.circuit)

/-- Makes a circuit with a policy of its own, unless the name is known; says whether it did. -/
def bindPolicy (r : Registry K) (name : String) (policy : Policy) (now : Instant) :
    Registry K × List Effect × Bool :=
  if r.contains name then (r, [.log (.alreadyKnown name)], false)
  else
    (r.setEntry name { circuit := .create name policy now },
      [.log (.configured name policy)], true)

def bindPolicies (r : Registry K) (now : Instant) :
    List (String × Policy) → Registry K × List Effect
  | [] => (r, [])
  | (name, policy) :: rest =>
    let (r, first, _) := r.bindPolicy name policy now
    let (r, others) := r.bindPolicies now rest
    (r, first ++ others)

/-- Reads properties and binds every policy in them. -/
def loadProperties (r : Registry K) (pairs : List (String × String)) (now : Instant) :
    Registry K × List Effect × Loaded :=
  let loaded := Properties.load pairs
  let (r, effects) := r.bindPolicies now loaded.policies.entries
  (r, loaded.errors.map (fun e => .log (.skipped e)) ++ effects, loaded)

/-- A snapshot of every circuit, by name. -/
def snapshots (r : Registry K) (now : Instant) : Registry K × List Snapshot :=
  ({ r with entries := r.entries.map fun _ e => { e with circuit := (e.circuit.snapshot now).1 } },
    r.entries.values.map fun e => (e.circuit.snapshot now).2)

end Registry

end Breaker
