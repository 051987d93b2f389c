import Breaker.Proofs.Circuit.Advance

/-!
# What is done with a circuit

Whatever is done with a circuit is one of its operations, or a mere look at it (`Circuit.Does`): so
what all operations have in common, as that they keep its name and its policy, holds of all that can
happen to it.
-/

namespace Breaker.Circuit

variable {K : Type} {c c' : Circuit K} {now : Instant} {effects : List Effect}

/-- `c'` comes from `c` by one operation with these effects, or by merely looking at it. -/
inductive Does (now : Instant) (c : Circuit K) : Circuit K → List Effect → Prop
  | looks : Does now c c []
  | arrive : Does now c (c.arrive now).1 (c.arrive now).2.1
  | settle {V E : Type} (p : Permit) (kindOf : E → K) (action : Action V E) :
    Does now c (c.settle now p kindOf action).1 (c.settle now p kindOf action).2.1
  | abandon (p : Permit) : Does now c (c.abandon now p).1 (c.abandon now p).2
  | bindClassifier (f : Classifier K) : Does now c (c.bindClassifier f).1 []
  | snapshot : Does now c (c.snapshot now).1 []
  | forceOpen : Does now c (c.forceOpen now).1 (c.forceOpen now).2
  | forceClosed : Does now c (c.forceClosed now).1 (c.forceClosed now).2

namespace Does

theorem advance (h : c.Does now c' effects) : Advance now c c' effects := by
  cases h with
  | looks => exact .refl c rfl
  | arrive => exact c.advance_arrive now
  | settle p kindOf action => exact c.advance_settle now p kindOf action
  | abandon p => exact c.advance_abandon now p
  | bindClassifier f => exact c.advance_bindClassifier now f
  | snapshot => exact c.advance_snapshot now
  | forceOpen => exact c.advance_forceOpen now
  | forceClosed => exact c.advance_forceClosed now

theorem name_eq (h : c.Does now c' effects) : c'.name = c.name := h.advance.name_eq

theorem policy_eq (h : c.Does now c' effects) : c'.policy = c.policy := h.advance.policy_eq

end Does

end Breaker.Circuit
