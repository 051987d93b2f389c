import Breaker.Classification
import Breaker.Json
import Breaker.Text.Inspect

/-!
# Rules as text and as JSON

Kinds are written by their labels.
-/

namespace Breaker

variable {K : Type}

def Hierarchy.labels (h : Hierarchy K) (kinds : List K) : List String := kinds.map h.label

namespace KindSet

def inspect (h : Hierarchy K) : KindSet K → String
  | all => "All"
  | only kinds => "Only(" ++ Inspect.list (h.labels kinds) ++ ")"

def toJson (h : Hierarchy K) : KindSet K → Json
  | all => .str "all"
  | only kinds => .strings (h.labels kinds)

end KindSet

namespace Rule

def inspect (h : Hierarchy K) (r : Rule K) : String :=
  Inspect.record "ClassificationRule"
    [("trip", r.trips.inspect h), ("ignore", Inspect.list (h.labels r.ignores))]

def toJson (h : Hierarchy K) (r : Rule K) : Json :=
  .ofFields [("ignore", .strings (h.labels r.ignores)), ("trip", r.trips.toJson h)]

end Rule

/-- What a classifier that is a bare function shows of itself. -/
def Classifier.inspectOpaque : String :=
  Inspect.record "FnClassifier" [("f", "\"<closure>\"")]

end Breaker
