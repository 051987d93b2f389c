import Breaker.Proofs.Circuit.Does

/-!
# Circuits show the state they are in

Observers read what a circuit shows, calls are admitted by the state that it is in. A transition
sets both, and nothing else touches either (`Candid`); so whatever becomes of a fresh circuit, the
two agree between operations.
-/

namespace Breaker.Circuit

variable {K V E : Type} {c c' : Circuit K} {now : Instant} {effects : List Effect}

def Candid (c : Circuit K) : Prop := c.published = c.state

namespace Candid

/-- What else there is to a circuit does not matter. -/
theorem congr (h : c.Candid) (hp : c'.published = c.published) (hs : c'.state = c.state) :
    c'.Candid := by
  unfold Candid at h ⊢
  rw [hp, hs, h]

theorem transition (h : c.Candid) (target : State) (now : Instant) :
    (c.transition target now).1.Candid := by
  unfold Circuit.transition
  split
  · exact h
  · rfl

theorem settleTrial (h : c.Candid) (now : Instant) : (c.settleTrial now).1.Candid := by
  unfold Circuit.settleTrial
  split
  · exact h.transition .closed now
  · exact h

theorem recordFailure (h : c.Candid) (now : Instant) : (c.recordFailure now).1.Candid := by
  unfold Circuit.recordFailure
  split
  · have hwindow : ({ c with failures := c.withFailure now } : Circuit K).Candid := h.congr rfl rfl
    dsimp only
    split
    · exact hwindow.transition .opened now
    · exact hwindow
  · exact h.transition .opened now
  · exact h

theorem recordClassified (h : c.Candid) (now : Instant) (verdict : Classification) :
    (c.recordClassified now verdict).1.Candid := by
  unfold Circuit.recordClassified
  split
  · exact h.recordFailure now
  · exact h.settleTrial now

theorem abandon (h : c.Candid) (now : Instant) (p : Permit) : (c.abandon now p).1.Candid := by
  unfold Circuit.abandon
  split
  · exact (h.transition .opened now).congr rfl rfl
  · exact h

theorem settle (h : c.Candid) (now : Instant) (p : Permit) (kindOf : E → K)
    (action : Action V E) : (c.settle now p kindOf action).1.Candid := by
  by_cases hg : c.generation = p.generation
  · cases action with
    | ok v =>
      rw [settle_ok hg]
      exact h.settleTrial now
    | error e =>
      cases hv : c.classify (kindOf e) with
      | ok verdict =>
        rw [settle_error hg hv]
        exact h.recordClassified now verdict
      | error panic =>
        rw [settle_crashed hv]
        exact h
    | panic panic => exact h.abandon now p
  · rw [(settle_of_stale hg now kindOf action).1]
    exact h

theorem arrive (h : c.Candid) (now : Instant) : (c.arrive now).1.Candid := by
  unfold Circuit.arrive
  split
  · exact h
  · exact h
  · split
    · exact h
    · exact h.transition .halfOpen now

theorem bindClassifier (h : c.Candid) (f : Classifier K) : (c.bindClassifier f).1.Candid := by
  unfold Circuit.bindClassifier
  split
  · exact h
  · exact h.congr rfl rfl

theorem forceOpen (h : c.Candid) (now : Instant) : (c.forceOpen now).1.Candid := by
  unfold Circuit.forceOpen
  split
  · exact h.congr rfl rfl
  · exact h.transition .opened now

end Candid

theorem Does.candid (h : c.Does now c' effects) (hc : c.Candid) : c'.Candid := by
  cases h with
  | looks => exact hc
  | arrive => exact hc.arrive now
  | settle p kindOf action => exact hc.settle now p kindOf action
  | abandon p => exact hc.abandon now p
  | bindClassifier f => exact hc.bindClassifier f
  | snapshot => exact hc.congr rfl rfl
  | forceOpen => exact hc.forceOpen now
  | forceClosed => exact (hc.transition .closed now).congr rfl rfl

end Breaker.Circuit
