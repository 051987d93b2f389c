import Breaker.Kind
import Breaker.Panic

/-!
# Classification of failures

A failed call counts toward opening a circuit only if its kind is classified as
`trip`. A `Rule` names the kinds that trip, all of them unless said otherwise,
and the kinds to ignore, which win. A `Classifier` is any function that decides;
it may panic.
-/

namespace Breaker

inductive Classification where
  | trip
  | ignore
  | unclassified
  deriving DecidableEq

namespace Classification

/-- Whether the failure counts. -/
def trips (c : Classification) : Bool := c = .trip

def name : Classification → String
  | trip => "Trip"
  | ignore => "Ignore"
  | unclassified => "Unclassified"

end Classification

/-- A set of kinds that stands for its descendants as well. -/
inductive KindSet (K : Type) where
  | all
  | only (kinds : List K)
  deriving DecidableEq

namespace KindSet

variable {K : Type}

def none : KindSet K := only []

/-- Whether the kind, or one above it, is in the set. -/
def covers [DecidableEq K] (h : Hierarchy K) (set : KindSet K) (kind : K) : Bool :=
  match set with
  | all => true
  | only kinds => kinds.any fun k => h.isA kind k

end KindSet

/-- Which kinds trip and which are ignored. -/
structure Rule (K : Type) where
  trips : KindSet K := .all
  ignores : List K := []
  deriving DecidableEq

/-- One step in building a rule. -/
inductive RuleStep (K : Type) where
  | trip (kinds : List K)
  | ignore (kinds : List K)

namespace Rule

variable {K : Type}

/-- The rule under which only these kinds trip. -/
def trip (r : Rule K) (kinds : List K) : Rule K := { r with trips := .only kinds }

/-- The rule that ignores these kinds too. -/
def ignore (r : Rule K) (kinds : List K) : Rule K := { r with ignores := r.ignores ++ kinds }

def step (r : Rule K) : RuleStep K → Rule K
  | .trip kinds => r.trip kinds
  | .ignore kinds => r.ignore kinds

/-- The rule that the steps build, starting from the one under which every kind trips. -/
def ofSteps (steps : List (RuleStep K)) : Rule K := steps.foldl step {}

def classify [DecidableEq K] (h : Hierarchy K) (r : Rule K) (kind : K) : Classification :=
  if r.ignores.any fun k => h.isA kind k then .ignore
  else if r.trips.covers h kind then .trip
  else .unclassified

end Rule

/-- Decides on a failure by its kind. -/
abbrev Classifier (K : Type) := K → Except Panic Classification

namespace Classifier

variable {K : Type}

/-- Every kind trips. -/
def tripAll : Classifier K := fun _ => .ok .trip

def ofRule [DecidableEq K] (h : Hierarchy K) (r : Rule K) : Classifier K :=
  fun kind => .ok (r.classify h kind)

/-- The answer listed for a kind, or else `otherwise`. -/
def ofList [DecidableEq K] (answers : List (K × Except Panic Classification))
    (otherwise : Except Panic Classification) : Classifier K :=
  fun kind => (answers.lookup kind).getD otherwise

end Classifier

end Breaker
