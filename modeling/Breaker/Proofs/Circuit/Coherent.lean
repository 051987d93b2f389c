import Breaker.Circuit.Control
import Breaker.Circuit.Outcome

/-!
# Coherent circuits

`Coherent c now` ties the fields of a circuit to its state and to the clock: a
closed circuit has not been opened and holds fewer failures than would open it,
oldest first; any other circuit holds none and knows when it was opened; and it
shows the state it is in. A fresh circuit is coherent, and a transition makes a
coherent circuit of any circuit that changes its state.
-/

namespace Breaker.Circuit

variable {K : Type}

/-- The fields of a circuit fit together at `now`. -/
structure Coherent (c : Circuit K) (now : Instant) : Prop where
  published_eq : c.published = c.state
  lastChange_le : c.lastChange ≤ now
  sorted : c.failures.Pairwise (· ≤ ·)
  past : ∀ t ∈ c.failures, t ≤ now
  short : c.failures.length < c.policy.count
  cleared : c.state ≠ .closed → c.failures = []
  unopened : c.state = .closed → c.openedAt = none
  opened : c.state ≠ .closed → ∃ t, c.openedAt = some t ∧ t ≤ now

namespace Coherent

variable {c : Circuit K} {now now' : Instant}

theorem create (name : String) (policy : Policy) (now : Instant) :
    (create name policy now : Circuit K).Coherent now where
  published_eq := rfl
  lastChange_le := Nat.le_refl now
  sorted := .nil
  past := List.forall_mem_nil _
  short := policy.one_le_count
  cleared _ := rfl
  unopened _ := rfl
  opened h := absurd rfl h

/-- Time may pass. -/
theorem mono (h : c.Coherent now) (hle : now ≤ now') : c.Coherent now' where
  published_eq := h.published_eq
  lastChange_le := Nat.le_trans h.lastChange_le hle
  sorted := h.sorted
  past t ht := Nat.le_trans (h.past t ht) hle
  short := h.short
  cleared := h.cleared
  unopened := h.unopened
  opened hs := by
    obtain ⟨t, ho, ht⟩ := h.opened hs
    exact ⟨t, ho, Nat.le_trans ht hle⟩

/-- Only the failures matter of a circuit whose other fields stay as they are. -/
theorem withFailures (h : c.Coherent now) {failures : List Instant}
    (sorted : failures.Pairwise (· ≤ ·)) (past : ∀ t ∈ failures, t ≤ now)
    (short : failures.length < c.policy.count) (cleared : c.state ≠ .closed → failures = []) :
    ({ c with failures } : Circuit K).Coherent now where
  published_eq := h.published_eq
  lastChange_le := h.lastChange_le
  sorted := sorted
  past := past
  short := short
  cleared := cleared
  unopened := h.unopened
  opened := h.opened

end Coherent

/-! ## Windows -/

variable {c : Circuit K} {now : Instant}

theorem inWindow_sublist (c : Circuit K) (now : Instant) : (c.inWindow now).Sublist c.failures := by
  unfold inWindow
  split
  · exact .refl _
  · exact List.dropWhile_sublist _

theorem length_inWindow_le (c : Circuit K) (now : Instant) :
    (c.inWindow now).length ≤ c.failures.length := (c.inWindow_sublist now).length_le

/-- The cut to the threshold cuts nothing off: the window of a coherent circuit is short of it. -/
theorem withFailure_eq (h : c.Coherent now) : c.withFailure now = c.inWindow now ++ [now] := by
  have hw := c.length_inWindow_le now
  have hs := h.short
  have hlen : (c.inWindow now ++ [now]).length - c.policy.count = 0 := by
    rw [List.length_append, List.length_singleton]
    omega
  simp only [withFailure, hlen, List.drop_zero]

theorem Coherent.pruned (h : c.Coherent now) :
    ({ c with failures := c.inWindow now } : Circuit K).Coherent now := by
  have hsub := c.inWindow_sublist now
  refine h.withFailures (h.sorted.sublist hsub) (fun t ht => h.past t (hsub.subset ht)) ?_ ?_
  · exact Nat.lt_of_le_of_lt hsub.length_le h.short
  · intro hs
    have hnil := h.cleared hs
    rw [hnil] at hsub
    exact List.sublist_nil.1 hsub

/-- One more failure leaves a closed circuit coherent unless it fills the window. -/
theorem Coherent.withFailure (h : c.Coherent now) (hs : c.state = .closed)
    (hshort : (c.withFailure now).length < c.policy.count) :
    ({ c with failures := c.withFailure now } : Circuit K).Coherent now := by
  have hsub := c.inWindow_sublist now
  have heq := withFailure_eq h
  refine h.withFailures ?_ ?_ hshort (fun hne => absurd hs hne)
  · rw [heq, List.pairwise_append]
    refine ⟨h.sorted.sublist hsub, List.pairwise_singleton .., ?_⟩
    intro t ht u hu
    rw [List.mem_singleton.1 hu]
    exact h.past t (hsub.subset ht)
  · intro t ht
    rw [heq, List.mem_append, List.mem_singleton] at ht
    rcases ht with ht | rfl
    · exact h.past t (hsub.subset ht)
    · exact Nat.le_refl _

/-! ## Transitions -/

variable {target : State}

theorem transition_self (h : c.state = target) : c.transition target now = (c, []) := by
  simp only [transition, h, ↓reduceIte]

@[simp] theorem state_transition : (c.transition target now).1.state = target := by
  unfold transition
  split
  · assumption
  · rfl

theorem openedAt_transition (h : c.state ≠ target) :
    (c.transition target now).1.openedAt = c.openedAfter target now := by
  simp only [transition, h, ↓reduceIte]

theorem failures_transition (h : c.state ≠ target) :
    (c.transition target now).1.failures = [] := by
  simp only [transition, h, ↓reduceIte]

theorem generation_transition (h : c.state ≠ target) :
    (c.transition target now).1.generation = c.generation + 1 := by
  simp only [transition, h, ↓reduceIte]

/-- A change of state sets all the fields anew. -/
theorem coherent_transition (h : c.state ≠ target)
    (ho : target = .halfOpen → ∃ t, c.openedAt = some t ∧ t ≤ now) :
    (c.transition target now).1.Coherent now := by
  simp only [transition, h, ↓reduceIte]
  refine ⟨rfl, Nat.le_refl _, .nil, List.forall_mem_nil _, c.policy.one_le_count,
    fun _ => rfl, ?_, ?_⟩
  · rintro rfl
    rfl
  · intro hne
    cases target with
    | closed => exact absurd rfl hne
    | opened => exact ⟨now, rfl, Nat.le_refl _⟩
    | halfOpen => exact ho rfl

end Breaker.Circuit
