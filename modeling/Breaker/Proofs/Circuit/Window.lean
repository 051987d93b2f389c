import Breaker.Proofs.Circuit.HalfOpen
import Mathlib.Data.List.TakeWhile

/-!
# The window of a circuit

`Policy.counts` says which failures are inside the window without a word about
how a circuit forgets the others. The list of a circuit is in order, so what is
pruned from its front is what has left the window and nothing else
(`keeps_inWindow`, `counts_of_mem_inWindow`), and the number that is told about a
failure is the length of what remains.
-/

namespace Breaker

/-- Whether a failure at `t` counts at `now`. -/
def Policy.counts (p : Policy) (now t : Instant) : Bool :=
  match p.window with
  | none => true
  | some w => now - t ≤ w.nanos

namespace Policy

variable {p : Policy} {now now' t : Instant}

theorem counts_self : p.counts now now = true := by
  unfold counts
  split
  · rfl
  · rw [Nat.sub_self]
    exact decide_eq_true (Nat.zero_le _)

/-- A failure that has left the window does not come back. -/
theorem counts_eq_false_of_le (h : p.counts now t = false) (hle : now ≤ now') :
    p.counts now' t = false := by
  unfold counts at h ⊢
  split at h
  · cases h
  · have hgt := Nat.not_le.1 (of_decide_eq_false h)
    exact decide_eq_false (Nat.not_le.2 (Nat.lt_of_lt_of_le hgt (Nat.sub_le_sub_right hle t)))

/-- `kept` is `past` without some of the oldest failures, none of which counts any more. -/
def Keeps (p : Policy) (now : Instant) (past kept : List Instant) : Prop :=
  ∃ gone, past = gone ++ kept ∧ ∀ t ∈ gone, p.counts now t = false

namespace Keeps

variable {past kept kept' : List Instant}

theorem refl (p : Policy) (now : Instant) (past : List Instant) : p.Keeps now past past :=
  ⟨[], rfl, List.forall_mem_nil _⟩

theorem trans (h : p.Keeps now past kept) (h' : p.Keeps now kept kept') :
    p.Keeps now past kept' := by
  obtain ⟨gone, rfl, hgone⟩ := h
  obtain ⟨gone', rfl, hgone'⟩ := h'
  refine ⟨gone ++ gone', (List.append_assoc ..).symm, ?_⟩
  intro t ht
  rcases List.mem_append.1 ht with ht | ht
  · exact hgone t ht
  · exact hgone' t ht

theorem later (h : p.Keeps now past kept) (hle : now ≤ now') : p.Keeps now' past kept := by
  obtain ⟨gone, heq, hgone⟩ := h
  exact ⟨gone, heq, fun t ht => counts_eq_false_of_le (hgone t ht) hle⟩

theorem append (h : p.Keeps now past kept) (new : List Instant) :
    p.Keeps now (past ++ new) (kept ++ new) := by
  obtain ⟨gone, rfl, hgone⟩ := h
  exact ⟨gone, List.append_assoc .., hgone⟩

/-- If all that is kept counts, it is all that counts. -/
theorem filter_eq (h : p.Keeps now past kept) (hall : ∀ t ∈ kept, p.counts now t = true) :
    past.filter (p.counts now) = kept := by
  obtain ⟨gone, rfl, hgone⟩ := h
  have hnil : gone.filter (p.counts now) = [] := by
    rw [List.filter_eq_nil_iff]
    intro t ht
    rw [hgone t ht]
    exact Bool.false_ne_true
  rw [List.filter_append, hnil, List.nil_append, List.filter_eq_self.2 hall]

end Keeps

end Policy

/-- The numbers of failures in the window that the effects tell. -/
def Effect.told (effects : List Effect) : List Nat :=
  effects.filterMap fun
    | notify ⟨⟨_, _, .failed _ n⟩, _⟩ => some n
    | _ => none

namespace Circuit

variable {K V E : Type} {c : Circuit K} {now t : Instant}

/-! ## Pruning -/

theorem keeps_inWindow (c : Circuit K) (now : Instant) :
    c.policy.Keeps now c.failures (c.inWindow now) := by
  unfold inWindow Policy.Keeps Policy.counts
  cases c.policy.window with
  | none => exact ⟨[], rfl, List.forall_mem_nil _⟩
  | some w =>
    refine ⟨c.failures.takeWhile fun t => w.nanos < now - t,
      List.takeWhile_append_dropWhile.symm, ?_⟩
    intro t ht
    have hgt : w.nanos < now - t := by simpa using List.mem_takeWhile_imp ht
    exact decide_eq_false (Nat.not_le.2 hgt)

theorem le_of_mem_dropWhile {l : List Instant} {w : Nat} (hl : l.Pairwise (· ≤ ·))
    (ht : t ∈ l.dropWhile fun u => w < now - u) : now - t ≤ w := by
  induction l with
  | nil => cases ht
  | cons a l ih =>
    obtain ⟨ha, hl⟩ := List.pairwise_cons.1 hl
    by_cases hgt : w < now - a
    · rw [List.dropWhile_cons_of_pos (by simpa using hgt)] at ht
      exact ih hl ht
    · rw [List.dropWhile_cons_of_neg (by simpa using hgt)] at ht
      have hat : a ≤ t := by
        rcases List.mem_cons.1 ht with rfl | ht
        · exact Nat.le_refl _
        · exact ha t ht
      exact Nat.le_trans (Nat.sub_le_sub_left hat now) (Nat.not_lt.1 hgt)

theorem counts_of_mem_inWindow (hc : c.failures.Pairwise (· ≤ ·)) (ht : t ∈ c.inWindow now) :
    c.policy.counts now t = true := by
  unfold inWindow at ht
  unfold Policy.counts
  cases hw : c.policy.window with
  | none => rfl
  | some w =>
    rw [hw] at ht
    exact decide_eq_true (le_of_mem_dropWhile hc ht)

/-! ## What a failure comes to -/

theorem length_withFailure (h : c.Coherent now) :
    (c.withFailure now).length = (c.inWindow now).length + 1 := by
  rw [withFailure_eq h, List.length_append, List.length_singleton]

/-- A failure that does not open the circuit enters the window. -/
theorem failures_recordFailure (h : c.Coherent now) (hs : c.state = .closed)
    (hs' : (c.recordFailure now).1.state = .closed) :
    (c.recordFailure now).1.failures = c.inWindow now ++ [now] := by
  by_cases hf : c.policy.count ≤ (c.withFailure now).length
  · rw [recordFailure_of_filled hs hf, state_transition] at hs'
    cases hs'
  · rw [recordFailure_of_short hs hf]
    exact withFailure_eq h

theorem told_transition (c : Circuit K) (target : State) (now : Instant) :
    Effect.told (c.transition target now).2 = [] := by
  unfold transition
  split <;> rfl

theorem told_recordFailure (h : c.state = .closed) :
    Effect.told (c.recordFailure now).2 = [(c.withFailure now).length] := by
  by_cases hf : c.policy.count ≤ (c.withFailure now).length
  · rw [recordFailure_of_filled h hf]
    exact congrArg (_ :: ·) (told_transition _ .opened now)
  · rw [recordFailure_of_short h hf]
    rfl

theorem state_recordFailure (h : c.state = .closed) :
    (c.recordFailure now).1.state =
      if c.policy.count ≤ (c.withFailure now).length then .opened else .closed := by
  by_cases hf : c.policy.count ≤ (c.withFailure now).length
  · rw [recordFailure_of_filled h hf, if_pos hf]
    exact state_transition
  · rw [recordFailure_of_short h hf, if_neg hf]
    exact h

/-! ## What leaves the window alone -/

theorem settleTrial_of_closed (h : c.state = .closed) : c.settleTrial now = (c, []) := by
  have hne : c.state ≠ .halfOpen := by
    rw [h]
    decide
  simp only [settleTrial, hne, ↓reduceIte]

theorem abandon_of_closed {p : Permit} (h : c.state = .closed) : c.abandon now p = (c, []) := by
  refine abandon_of_dead ?_
  rintro ⟨-, -, hh⟩
  rw [h] at hh
  cases hh

/-- The end of a call leaves a closed circuit as it was unless it is a failure that counts. -/
theorem settle_of_closed {p : Permit} {kindOf : E → K} {action : Action V E}
    (h : c.state = .closed)
    (hno : c.generation = p.generation → ∀ e verdict, action = .error e →
      c.classify (kindOf e) = .ok verdict → verdict.trips = false) :
    (c.settle now p kindOf action).1 = c := by
  by_cases hg : c.generation = p.generation
  · cases action with
    | ok v =>
      rw [settle_ok hg]
      unfold recordSuccess
      rw [settleTrial_of_closed h]
    | error e =>
      cases hv : c.classify (kindOf e) with
      | ok verdict =>
        rw [settle_error hg hv]
        unfold recordClassified recordIgnored
        rw [hno hg e verdict rfl hv, settleTrial_of_closed h]
        rfl
      | error panic => rw [settle_crashed hv]
    | panic panic => rw [settle_panic, abandon_of_closed h]
  · exact (settle_of_stale hg now kindOf action).1

theorem failures_bindClassifier (f : Classifier K) :
    (c.bindClassifier f).1.failures = c.failures := by
  unfold bindClassifier
  split <;> rfl

end Circuit

end Breaker
