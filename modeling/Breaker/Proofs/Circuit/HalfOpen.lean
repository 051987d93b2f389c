import Breaker.Proofs.Circuit.Advance

/-!
# The half-open state

Only an arrival makes a circuit half-open. A circuit that is half-open after the
end of a call was so before, and the call was not its trial, unless the
classifier panicked on the trial's error; every other end of a trial is a
transition, and the lemmas at the end say where to.
-/

namespace Breaker.Circuit

variable {K V E : Type} {now : Instant} {c : Circuit K} {p : Permit} {kindOf : E → K}

/-! ## Who leaves it, and who does not -/

theorem state_settleTrial_ne : (c.settleTrial now).1.state ≠ .halfOpen := by
  unfold settleTrial
  split
  · rw [state_transition]
    decide
  · assumption

theorem state_recordFailure_ne : (c.recordFailure now).1.state ≠ .halfOpen := by
  cases h : c.state with
  | closed =>
    by_cases hf : c.policy.count ≤ (c.withFailure now).length
    · rw [recordFailure_of_filled h hf, state_transition]
      decide
    · rw [recordFailure_of_short h hf]
      simp only [h]
      decide
  | halfOpen =>
    rw [recordFailure_of_halfOpen h, state_transition]
    decide
  | opened =>
    rw [recordFailure_of_opened h, h]
    decide

theorem state_recordClassified_ne {verdict : Classification} :
    (c.recordClassified now verdict).1.state ≠ .halfOpen := by
  unfold recordClassified
  split
  · exact state_recordFailure_ne
  · exact state_settleTrial_ne

theorem state_reopen : (c.reopen now).1.state = .opened := state_transition

theorem abandon_of_halfOpen (h : (c.abandon now p).1.state = .halfOpen) :
    (c.abandon now p).1 = c ∧ ¬ (c.generation = p.generation ∧ p.trial = true) := by
  by_cases hl : p.trial = true ∧ c.generation = p.generation ∧ c.state = .halfOpen
  · rw [abandon_of_live hl.1 hl.2.1 hl.2.2, state_reopen] at h
    cases h
  · rw [abandon_of_dead hl] at h ⊢
    exact ⟨rfl, fun hp => hl ⟨hp.2, hp.1, h⟩⟩

/-- A circuit that a call leaves half-open is as it was, and the call was a trial only if its error
made the classifier panic. -/
theorem settle_of_halfOpen {action : Action V E}
    (h : (c.settle now p kindOf action).1.state = .halfOpen) :
    (c.settle now p kindOf action).1 = c ∧
      (c.generation = p.generation → p.trial = true →
        ∃ e panic, action = .error e ∧ c.classify (kindOf e) = .error panic) := by
  by_cases hg : c.generation = p.generation
  · cases action with
    | ok v =>
      rw [settle_ok hg] at h
      exact absurd h state_settleTrial_ne
    | error e =>
      cases hv : c.classify (kindOf e) with
      | ok verdict =>
        rw [settle_error hg hv] at h
        exact absurd h state_recordClassified_ne
      | error panic =>
        rw [settle_crashed hv]
        exact ⟨rfl, fun _ _ => ⟨e, panic, rfl, hv⟩⟩
    | panic panic =>
      rw [settle_panic] at h ⊢
      obtain ⟨hc, hl⟩ := abandon_of_halfOpen h
      exact ⟨hc, fun _ ht => absurd ⟨hg, ht⟩ hl⟩
  · exact ⟨(settle_of_stale hg now kindOf action).1, fun hg' => absurd hg' hg⟩

theorem state_forceOpen : (c.forceOpen now).1.state = .opened := by
  unfold forceOpen
  split
  · assumption
  · exact state_transition

theorem state_forceClosed : (c.forceClosed now).1.state = .closed := state_transition

@[simp] theorem state_bindClassifier (f : Classifier K) :
    (c.bindClassifier f).1.state = c.state := by
  unfold bindClassifier
  split <;> rfl

@[simp] theorem generation_bindClassifier (f : Classifier K) :
    (c.bindClassifier f).1.generation = c.generation := by
  unfold bindClassifier
  split <;> rfl

/-- To admit a trial does not touch the time of the opening. -/
theorem openedAt_arrive : (c.arrive now).1.openedAt = c.openedAt := by
  cases h : c.state with
  | closed => rw [arrive_of_closed h]
  | halfOpen => rw [arrive_of_halfOpen h]
  | opened =>
    cases hl : c.cooldownLeft? now with
    | some left => rw [arrive_of_cooling h hl]
    | none =>
      rw [arrive_of_cooled h hl]
      exact openedAt_transition (by rw [h]; decide)

/-! ## Where a trial leads -/

/-- The circuit is closed, and nothing is left of what was counted. -/
structure Recovered (c : Circuit K) : Prop where
  state_eq : c.state = .closed
  failures_eq : c.failures = []
  openedAt_eq : c.openedAt = none

/-- The circuit counts as opened at `since`. -/
structure OpenedSince (c : Circuit K) (since : Option Instant) : Prop where
  state_eq : c.state = .opened
  failures_eq : c.failures = []
  openedAt_eq : c.openedAt = since

theorem recovered_settleTrial (h : c.state = .halfOpen) : (c.settleTrial now).1.Recovered := by
  have hne : c.state ≠ .closed := by rw [h]; decide
  simp only [settleTrial, h, ↓reduceIte]
  exact ⟨state_transition, failures_transition hne, openedAt_transition hne⟩

theorem openedSince_recordFailure (h : c.state = .halfOpen) :
    (c.recordFailure now).1.OpenedSince (some now) := by
  have hne : c.state ≠ .opened := by rw [h]; decide
  rw [recordFailure_of_halfOpen h]
  exact ⟨state_transition, failures_transition hne, openedAt_transition hne⟩

theorem openedSince_reopen (h : c.state = .halfOpen) :
    (c.reopen now).1.OpenedSince c.openedAt := by
  have hne : c.state ≠ .opened := by rw [h]; decide
  exact ⟨state_reopen, failures_transition hne, rfl⟩

end Breaker.Circuit
