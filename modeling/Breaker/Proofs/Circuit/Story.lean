import Breaker.Proofs.Circuit.Advance
import Breaker.Proofs.Story

/-!
# The story of one operation

`Tells clearing now c c' effects` says that what there is to hear of an operation is faithful from
the state of `c` on and leads to the state of `c'`, all at the instant `now`. Every operation tells
such a story on a circuit that shows the state it is in; the end of a call does so because no call
of the present generation ends on an opened circuit.
-/

namespace Breaker.Circuit

variable {K V E : Type} {clearing : Bool} {now : Instant} {c c' c'' : Circuit K}
  {effects more : List Effect}

structure Tells (clearing : Bool) (now : Instant) (c c' : Circuit K) (effects : List Effect) :
    Prop where
  faithful : Faithful clearing c.state (Effect.story effects)
  leads : replay c.state (Effect.story effects) = c'.state
  time_eq : ∀ n ∈ Effect.story effects, n.event.time = now

namespace Tells

theorem silent (h : c'.state = c.state) : Tells clearing now c c' [] where
  faithful := faithful_nil
  leads := h.symm
  time_eq := List.forall_mem_nil _

theorem append (h : Tells clearing now c c' effects) (h' : Tells clearing now c' c'' more) :
    Tells clearing now c c'' (effects ++ more) where
  faithful := by
    rw [Effect.story_append]
    exact h.faithful.append (h.leads ▸ h'.faithful)
  leads := by rw [Effect.story_append, replay_append, h.leads, h'.leads]
  time_eq n hn := by
    rw [Effect.story_append, List.mem_append] at hn
    exact hn.elim (h.time_eq n) (h'.time_eq n)

theorem log (h : Tells clearing now c c' effects) (entry : LogEntry) :
    Tells clearing now c c' (.log entry :: effects) := ⟨h.faithful, h.leads, h.time_eq⟩

theorem counted (h : Tells clearing now c c' effects) (name : String) (o : CallOutcome) :
    Tells clearing now c c' (.counted name o :: effects) := ⟨h.faithful, h.leads, h.time_eq⟩

theorem notice {detail : EventDetail} {rest : State} (hpub : c.published = c.state)
    (hfits : detail.Fits clearing c.state) (hrest : detail.after c.state = rest)
    (hl : Faithful clearing rest (Effect.story effects))
    (hleads : replay rest (Effect.story effects) = c'.state)
    (htime : ∀ n ∈ Effect.story effects, n.event.time = now) :
    Tells clearing now c c' (c.notice now detail :: effects) where
  faithful := by
    subst hrest
    exact faithful_cons ⟨hpub, hfits⟩ hl
  leads := by
    subst hrest
    exact hleads
  time_eq n hn := by
    rcases List.mem_cons.1 hn with rfl | hn
    · rfl
    · exact htime n hn

/-- What is told before all else and is no transition. -/
theorem announced (h : Tells clearing now c c' effects) {detail : EventDetail}
    (hpub : c.published = c.state) (hfits : detail.Fits clearing c.state)
    (hstays : detail.after c.state = c.state) :
    Tells clearing now c c' (c.notice now detail :: effects) :=
  .notice hpub hfits hstays h.faithful h.leads h.time_eq

end Tells

/-! ## Transitions -/

theorem tells_transition {target : State} (hpub : c.published = c.state)
    (hedge : State.Edge clearing c.state target) (now : Instant) :
    Tells clearing now c (c.transition target now).1 (c.transition target now).2 := by
  have hne : c.state ≠ target := by
    intro h
    rw [h] at hedge
    cases hedge
  have hleads : replay target (Effect.story []) = (c.transition target now).1.state := by simp
  simp only [transition, hne, ↓reduceIte] at hleads ⊢
  exact .notice hpub ⟨rfl, hedge⟩ rfl faithful_nil hleads (List.forall_mem_nil _)

theorem published_transition {target : State} (h : c.state ≠ target) :
    (c.transition target now).1.published = target := by
  simp only [transition, h, ↓reduceIte]

/-! ## Admission -/

theorem tells_permit (hpub : c.published = c.state) (h : c.state ≠ .opened) (now : Instant) :
    Tells clearing now c c (c.permit now).1 := by
  have hsilent : Tells clearing now c c [] := .silent rfl
  have hfits : (EventDetail.permitted c.state).Fits clearing c.state := ⟨rfl, h⟩
  exact (hsilent.announced hpub hfits rfl).log _

theorem tells_reject (hpub : c.published = c.state) {left : Duration}
    (h : (c.state = .opened ∧ 0 < left.nanos) ∨ (c.state = .halfOpen ∧ left = .zero))
    (now : Instant) : Tells clearing now c c (c.reject now left).1 := by
  have hsilent : Tells clearing now c c [] := .silent rfl
  have hfits : (EventDetail.rejected left).Fits clearing c.state := h
  exact ((hsilent.announced hpub hfits rfl).counted ..).log _

theorem cooldownLeft?_pos {left : Duration} (h : c.cooldownLeft? now = some left) :
    0 < left.nanos := by
  unfold cooldownLeft? at h
  split at h
  · cases h
  · split at h
    · rename_i hlt
      cases h
      exact Nat.sub_pos_of_lt hlt
    · cases h

theorem tells_arrive (hpub : c.published = c.state) (now : Instant) :
    Tells clearing now c (c.arrive now).1 (c.arrive now).2.1 := by
  cases h : c.state with
  | closed =>
    rw [arrive_of_closed h]
    exact tells_permit hpub (by rw [h]; decide) now
  | halfOpen =>
    rw [arrive_of_halfOpen h]
    exact tells_reject hpub (.inr ⟨h, rfl⟩) now
  | opened =>
    cases hl : c.cooldownLeft? now with
    | some left =>
      rw [arrive_of_cooling h hl]
      exact tells_reject hpub (.inl ⟨h, cooldownLeft?_pos hl⟩) now
    | none =>
      rw [arrive_of_cooled h hl]
      have hedge : State.Edge clearing c.state .halfOpen := by
        rw [h]
        exact .probe
      have hstate : (c.transition .halfOpen now).1.state = .halfOpen := state_transition
      have hshown : (c.transition .halfOpen now).1.published = .halfOpen :=
        published_transition (by rw [h]; decide)
      have hne : (c.transition .halfOpen now).1.state ≠ .opened := by
        rw [hstate]
        decide
      exact (tells_transition hpub hedge now).append
        (tells_permit (hshown.trans hstate.symm) hne now)

/-! ## Outcomes -/

theorem tells_settleTrial (hpub : c.published = c.state) (now : Instant) :
    Tells clearing now c (c.settleTrial now).1 (c.settleTrial now).2 := by
  unfold settleTrial
  split
  · rename_i h
    have hedge : State.Edge clearing c.state .closed := by
      rw [h]
      exact .recover
    exact tells_transition hpub hedge now
  · exact .silent rfl

theorem tells_recordSuccess (hpub : c.published = c.state) (h : c.state ≠ .opened) (now : Instant) :
    Tells clearing now c (c.recordSuccess now).1 (c.recordSuccess now).2 := by
  have hfits : (EventDetail.succeeded c.state).Fits clearing c.state := ⟨rfl, h⟩
  exact ((tells_settleTrial hpub now).announced hpub hfits rfl).counted ..

theorem tells_recordIgnored (hpub : c.published = c.state) (h : c.state ≠ .opened) (now : Instant) :
    Tells clearing now c (c.recordIgnored now).1 (c.recordIgnored now).2 := by
  have hfits : (EventDetail.ignored c.state).Fits clearing c.state := ⟨rfl, h⟩
  exact ((tells_settleTrial hpub now).announced hpub hfits rfl).counted ..

theorem tells_recordFailure (hpub : c.published = c.state) (h : c.state ≠ .opened) (now : Instant) :
    Tells clearing now c (c.recordFailure now).1 (c.recordFailure now).2 := by
  cases hs : c.state with
  | opened => exact absurd hs h
  | closed =>
    have hfits : (EventDetail.failed .closed (c.withFailure now).length).Fits clearing c.state := by
      rw [hs]
      exact ⟨rfl, by decide⟩
    by_cases hf : c.policy.count ≤ (c.withFailure now).length
    · rw [recordFailure_of_filled hs hf]
      have hedge : State.Edge clearing c.state .opened := by
        rw [hs]
        exact .trip
      have hturn := tells_transition (c := { c with failures := c.withFailure now }) hpub hedge now
      have hturn' : Tells clearing now c _ _ := ⟨hturn.faithful, hturn.leads, hturn.time_eq⟩
      exact (hturn'.announced hpub hfits rfl).counted ..
    · rw [recordFailure_of_short hs hf]
      have hsilent : Tells clearing now c { c with failures := c.withFailure now } [] := .silent rfl
      exact (hsilent.announced hpub hfits rfl).counted ..
  | halfOpen =>
    rw [recordFailure_of_halfOpen hs]
    have hedge : State.Edge clearing c.state .opened := by
      rw [hs]
      exact .relapse
    have hfits : (EventDetail.failed .halfOpen 1).Fits clearing c.state := by
      rw [hs]
      exact ⟨rfl, by decide⟩
    exact ((tells_transition hpub hedge now).announced hpub hfits rfl).counted ..

theorem tells_abandon (hpub : c.published = c.state) (now : Instant) (p : Permit) :
    Tells clearing now c (c.abandon now p).1 (c.abandon now p).2 := by
  by_cases h : p.trial = true ∧ c.generation = p.generation ∧ c.state = .halfOpen
  · rw [abandon_of_live h.1 h.2.1 h.2.2]
    have hedge : State.Edge clearing c.state .opened := by
      rw [h.2.2]
      exact .relapse
    have hturn := tells_transition hpub hedge now
    exact ⟨hturn.faithful, hturn.leads, hturn.time_eq⟩
  · rw [abandon_of_dead h]
    exact .silent rfl

/-- The end of a call, which is of another generation if the circuit is opened. -/
theorem tells_settle {p : Permit} (hpub : c.published = c.state)
    (h : c.generation = p.generation → c.state ≠ .opened) (now : Instant) (kindOf : E → K)
    (action : Action V E) :
    Tells clearing now c (c.settle now p kindOf action).1 (c.settle now p kindOf action).2.1 := by
  by_cases hg : c.generation = p.generation
  · cases action with
    | ok v =>
      rw [settle_ok hg]
      exact tells_recordSuccess hpub (h hg) now
    | error e =>
      cases hv : c.classify (kindOf e) with
      | ok verdict =>
        rw [settle_error hg hv]
        unfold recordClassified
        split
        · exact tells_recordFailure hpub (h hg) now
        · exact tells_recordIgnored hpub (h hg) now
      | error panic =>
        rw [settle_crashed hv]
        exact .silent rfl
    | panic panic =>
      rw [settle_panic]
      exact tells_abandon hpub now p
  · obtain ⟨hc, he⟩ := settle_of_stale hg now kindOf action
    rw [hc, he]
    exact .silent rfl

/-! ## Control -/

theorem tells_forceOpen (hpub : c.published = c.state) (now : Instant) :
    Tells clearing now c (c.forceOpen now).1 (c.forceOpen now).2 := by
  unfold forceOpen
  split
  · exact .silent rfl
  · rename_i h
    refine tells_transition hpub ?_ now
    cases hs : c.state with
    | closed => exact .trip
    | halfOpen => exact .relapse
    | opened => exact absurd hs h

/-- Only clearing takes a circuit from opened to closed. -/
theorem tells_forceClosed (hpub : c.published = c.state) (now : Instant) :
    Tells true now c (c.forceClosed now).1 (c.forceClosed now).2 := by
  by_cases h : c.state = .closed
  · simp only [forceClosed, transition_self h]
    exact .silent rfl
  · have hedge : State.Edge true c.state .closed := by
      cases hs : c.state with
      | closed => exact absurd hs h
      | halfOpen => exact .recover
      | opened => exact .clear rfl
    have hturn := tells_transition hpub hedge now
    exact ⟨hturn.faithful, hturn.leads, hturn.time_eq⟩

end Breaker.Circuit
