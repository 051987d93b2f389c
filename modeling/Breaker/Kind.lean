/-!
# Kinds of errors

Rules speak about kinds of errors, not about single errors. A kind may have a
parent, and what is said of the parent holds for all its descendants. `isA`
looks at a bounded stretch of the line of ancestors, so it ends on a relation
with cycles too.
-/

namespace Breaker

/-- How the kinds `K` are related and what they are called. -/
structure Hierarchy (K : Type) where
  parent : K → Option K
  label : K → String

namespace Hierarchy

variable {K : Type}

/-- How many kinds of a line are looked at, the kind itself included. -/
def depth : Nat := 64

/-- The first `n` kinds of the line that starts at a kind and goes from parent to parent. -/
def line (h : Hierarchy K) : Nat → K → List K
  | 0, _ => []
  | n + 1, k =>
    k :: match h.parent k with
      | none => []
      | some p => h.line n p

/-- Whether `b` is `a` or stands above it, as far as the line is looked at. -/
def isA [DecidableEq K] (h : Hierarchy K) (a b : K) : Bool := (h.line depth a).contains b

end Hierarchy

end Breaker
