import Breaker.Circuit.Control
import Breaker.Proofs.Circuit.Advance

/-!
# Circuits with failures that have expired

A circuit goes on holding failures that have left its window until something prunes it. Whether it
does is seen by nothing: every operation does the same to the circuit and to what is left of it when
it is pruned first, up to failures that have expired again by then. That needs no order among the
failures, since what is pruned at one instant is pruned at every later one (`pruned_pruned`).
-/

namespace Breaker

namespace Circuit

variable {K V E α : Type} {c : Circuit K} {now later : Instant} {p : Permit}

/-- The circuit without the failures at the front that have left the window. -/
def pruned (c : Circuit K) (now : Instant) : Circuit K := { c with failures := c.inWindow now }

/-- Both outcomes are the same but for failures that have expired. -/
structure SameButExpired (now : Instant) (out out' : Circuit K × α) : Prop where
  circuit : out.1.pruned now = out'.1.pruned now
  rest : out.2 = out'.2

/-! ## Pruning -/

theorem dropWhile_dropWhile {p q : Instant → Bool} (h : ∀ t, p t = true → q t = true)
    (l : List Instant) : (l.dropWhile p).dropWhile q = l.dropWhile q := by
  induction l with
  | nil => rfl
  | cons t l ih =>
    cases hp : p t with
    | true => simp [hp, h t hp, ih]
    | false => simp [hp]

/-- What has expired stays so. -/
theorem inWindow_pruned (c : Circuit K) (h : now ≤ later) :
    (c.pruned now).inWindow later = c.inWindow later := by
  unfold inWindow pruned inWindow
  cases c.policy.window with
  | none => rfl
  | some w =>
    refine dropWhile_dropWhile (fun t ht => ?_) c.failures
    have hle := Nat.sub_le_sub_right h t
    simp only [decide_eq_true_eq] at ht ⊢
    exact Nat.lt_of_lt_of_le ht hle

theorem pruned_pruned (c : Circuit K) (h : now ≤ later) :
    (c.pruned now).pruned later = c.pruned later := by
  show ({ c.pruned now with failures := (c.pruned now).inWindow later } : Circuit K) = _
  rw [inWindow_pruned c h]
  rfl

/-! ## Operations -/

section Operations

variable (c : Circuit K) (now : Instant)

theorem unchanged_pruned (answer : α) : SameButExpired now (c, answer) (c.pruned now, answer) :=
  ⟨(pruned_pruned c (Nat.le_refl now)).symm, rfl⟩

theorem transition_pruned (target : State) :
    SameButExpired now (c.transition target now) ((c.pruned now).transition target now) := by
  by_cases h : c.state = target
  · rw [transition_self h, transition_self (c := c.pruned now) h]
    exact unchanged_pruned c now []
  · have h' : (c.pruned now).state ≠ target := h
    simp only [transition, h, h', ↓reduceIte]
    exact ⟨rfl, rfl⟩

theorem arrive_pruned : SameButExpired now (c.arrive now) ((c.pruned now).arrive now) := by
  cases h : c.state with
  | closed =>
    rw [arrive_of_closed h, arrive_of_closed (c := c.pruned now) h]
    exact unchanged_pruned c now _
  | halfOpen =>
    rw [arrive_of_halfOpen h, arrive_of_halfOpen (c := c.pruned now) h]
    exact unchanged_pruned c now _
  | opened =>
    cases hl : c.cooldownLeft? now with
    | some left =>
      rw [arrive_of_cooling h hl, arrive_of_cooling (c := c.pruned now) h hl]
      exact unchanged_pruned c now _
    | none =>
      have hne : c.state ≠ .halfOpen := by simp [h]
      have hne' : (c.pruned now).state ≠ .halfOpen := hne
      rw [arrive_of_cooled h hl, arrive_of_cooled (c := c.pruned now) h hl]
      simp only [transition, hne, hne', ↓reduceIte]
      exact ⟨rfl, rfl⟩

theorem settleTrial_pruned :
    SameButExpired now (c.settleTrial now) ((c.pruned now).settleTrial now) := by
  by_cases h : c.state = .halfOpen
  · have h' : (c.pruned now).state = .halfOpen := h
    simp only [settleTrial, h, h', ↓reduceIte]
    exact transition_pruned c now .closed
  · have h' : (c.pruned now).state ≠ .halfOpen := h
    simp only [settleTrial, h, h', ↓reduceIte]
    exact unchanged_pruned c now []

theorem recordSuccess_pruned :
    SameButExpired now (c.recordSuccess now) ((c.pruned now).recordSuccess now) := by
  have h := settleTrial_pruned c now
  exact ⟨h.circuit, congrArg (_ ++ ·) h.rest⟩

theorem recordIgnored_pruned :
    SameButExpired now (c.recordIgnored now) ((c.pruned now).recordIgnored now) := by
  have h := settleTrial_pruned c now
  exact ⟨h.circuit, congrArg (_ ++ ·) h.rest⟩

/-- A failure prunes before it counts. -/
theorem withFailure_pruned : (c.pruned now).withFailure now = c.withFailure now := by
  unfold withFailure
  rw [inWindow_pruned c (Nat.le_refl now)]
  rfl

theorem recordFailure_pruned :
    SameButExpired now (c.recordFailure now) ((c.pruned now).recordFailure now) := by
  have hfailures := withFailure_pruned c now
  have htold : (c.pruned now).failureTold now = c.failureTold now := by
    unfold failureTold
    rw [hfailures]
    rfl
  cases h : c.state with
  | closed =>
    by_cases hf : c.policy.count ≤ (c.withFailure now).length
    · have hf' : (c.pruned now).policy.count ≤ ((c.pruned now).withFailure now).length := by
        rwa [hfailures]
      rw [recordFailure_of_filled h hf, recordFailure_of_filled (c := c.pruned now) h hf',
        hfailures, htold]
      exact ⟨rfl, rfl⟩
    · have hf' : ¬ (c.pruned now).policy.count ≤ ((c.pruned now).withFailure now).length := by
        rwa [hfailures]
      rw [recordFailure_of_short h hf, recordFailure_of_short (c := c.pruned now) h hf',
        hfailures, htold]
      exact ⟨rfl, rfl⟩
  | halfOpen =>
    rw [recordFailure_of_halfOpen h, recordFailure_of_halfOpen (c := c.pruned now) h]
    have ht := transition_pruned c now .opened
    exact ⟨ht.circuit, congrArg (_ ++ ·) ht.rest⟩
  | opened =>
    rw [recordFailure_of_opened h, recordFailure_of_opened (c := c.pruned now) h]
    exact unchanged_pruned c now _

theorem recordClassified_pruned (verdict : Classification) :
    SameButExpired now (c.recordClassified now verdict)
      ((c.pruned now).recordClassified now verdict) := by
  unfold recordClassified
  split
  · exact recordFailure_pruned c now
  · exact recordIgnored_pruned c now

theorem abandon_pruned (p : Permit) :
    SameButExpired now (c.abandon now p) ((c.pruned now).abandon now p) := by
  by_cases hp : p.trial = true ∧ c.generation = p.generation ∧ c.state = .halfOpen
  · have hne : c.state ≠ .opened := by simp [hp.2.2]
    have hne' : (c.pruned now).state ≠ .opened := hne
    rw [abandon_of_live hp.1 hp.2.1 hp.2.2,
      abandon_of_live (c := c.pruned now) hp.1 hp.2.1 hp.2.2]
    simp only [reopen, transition, hne, hne', ↓reduceIte]
    exact ⟨rfl, rfl⟩
  · rw [abandon_of_dead hp, abandon_of_dead (c := c.pruned now) hp]
    exact unchanged_pruned c now []

theorem settle_pruned (p : Permit) (kindOf : E → K) (action : Action V E) :
    SameButExpired now (c.settle now p kindOf action)
      ((c.pruned now).settle now p kindOf action) := by
  cases action with
  | ok v =>
    by_cases hg : c.generation = p.generation
    · rw [settle_ok hg, settle_ok (c := c.pruned now) hg]
      have hr := recordSuccess_pruned c now
      exact ⟨hr.circuit, congrArg (·, _) hr.rest⟩
    · have hg' : (c.pruned now).generation ≠ p.generation := hg
      simp only [settle, complete, hg, hg', ↓reduceIte]
      exact unchanged_pruned c now _
  | error e =>
    cases hv : c.classify (kindOf e) with
    | error panic =>
      rw [settle_crashed hv, settle_crashed (c := c.pruned now) hv]
      exact unchanged_pruned c now _
    | ok verdict =>
      have hv' : (c.pruned now).classify (kindOf e) = .ok verdict := hv
      by_cases hg : c.generation = p.generation
      · rw [settle_error hg hv, settle_error (c := c.pruned now) hg hv']
        have hr := recordClassified_pruned c now verdict
        exact ⟨hr.circuit, congrArg (·, _) hr.rest⟩
      · have hg' : (c.pruned now).generation ≠ p.generation := hg
        simp only [settle, complete, hv, hv', hg, hg', ↓reduceIte]
        exact unchanged_pruned c now _
  | panic panic =>
    rw [settle_panic, settle_panic]
    have ha := abandon_pruned c now p
    exact ⟨ha.circuit, congrArg (·, _) ha.rest⟩

theorem forceOpen_pruned :
    SameButExpired now (c.forceOpen now) ((c.pruned now).forceOpen now) := by
  by_cases h : c.state = .opened
  · have h' : (c.pruned now).state = .opened := h
    unfold forceOpen
    rw [if_pos h, if_pos h']
    exact unchanged_pruned { c with openedAt := some now } now []
  · have h' : (c.pruned now).state ≠ .opened := h
    unfold forceOpen
    rw [if_neg h, if_neg h']
    exact transition_pruned c now .opened

theorem forceClosed_pruned :
    SameButExpired now (c.forceClosed now) ((c.pruned now).forceClosed now) := by
  by_cases h : c.state = .closed
  · have h' : (c.pruned now).state = .closed := h
    simp only [forceClosed, transition_self h, transition_self h']
    exact ⟨rfl, rfl⟩
  · have h' : (c.pruned now).state ≠ .closed := h
    simp only [forceClosed, transition, h, h', ↓reduceIte]
    exact ⟨rfl, rfl⟩

/-- Two snapshots at one instant show the same, and leave the same. -/
theorem snapshot_pruned : (c.pruned now).snapshot now = c.snapshot now := by
  unfold snapshot
  rw [inWindow_pruned c (Nat.le_refl now)]
  rfl

theorem bindClassifier_pruned (f : Classifier K) :
    (c.pruned now).bindClassifier f =
      ((c.bindClassifier f).1.pruned now, (c.bindClassifier f).2) := by
  have h' : (c.pruned now).classifier = c.classifier := rfl
  cases h : c.classifier with
  | none =>
    simp only [bindClassifier, h, h']
    rfl
  | some g => simp only [bindClassifier, h, h']

end Operations

end Circuit

end Breaker
