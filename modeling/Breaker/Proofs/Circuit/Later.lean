import Breaker.Proofs.Circuit.Does
import Breaker.Proofs.Circuit.HalfOpen

/-!
# A circuit after so many transitions

`Later turns c c'` says that `c'` is what `c` has become by so many transitions: the generation has
advanced as often, and without a transition the circuit is in the state in which it was, and if that
is half-open, then since the same opening. So what the drop of a call comes to depends on how its
call was admitted and on how many transitions there have been since (`abandon_of_ordinary`,
`Later.abandon_of_turned`, `abandon_of_trial`).
-/

namespace Breaker.Circuit

variable {K V E : Type} {now later : Instant} {c c' c'' : Circuit K} {p : Permit} {turns more : Nat}
  {effects : List Effect}

structure Later (turns : Nat) (c c' : Circuit K) : Prop where
  policy_eq : c'.policy = c.policy
  generation_eq : c'.generation = c.generation + UInt64.ofNat turns
  state_eq : turns = 0 → c'.state = c.state
  openedAt_eq : turns = 0 → c.state = .halfOpen → c'.openedAt = c.openedAt

namespace Later

theorem refl (c : Circuit K) : Later 0 c c where
  policy_eq := rfl
  generation_eq := (UInt64.add_zero _).symm
  state_eq _ := rfl
  openedAt_eq _ _ := rfl

theorem trans (h : Later turns c c') (h' : Later more c' c'') : Later (turns + more) c c'' where
  policy_eq := h'.policy_eq.trans h.policy_eq
  generation_eq := by rw [h'.generation_eq, h.generation_eq, UInt64.ofNat_add, UInt64.add_assoc]
  state_eq hnone := by
    obtain ⟨hturns, hmore⟩ := Nat.add_eq_zero_iff.1 hnone
    exact (h'.state_eq hmore).trans (h.state_eq hturns)
  openedAt_eq hnone hhalf := by
    obtain ⟨hturns, hmore⟩ := Nat.add_eq_zero_iff.1 hnone
    exact (h'.openedAt_eq hmore ((h.state_eq hturns).trans hhalf)).trans
      (h.openedAt_eq hturns hhalf)

/-- One operation, which leaves the time of the opening alone where the circuit stays half-open. -/
theorem of_advance (h : Advance now c c' effects)
    (hopened : c.state = .halfOpen → c'.state = .halfOpen → c'.openedAt = c.openedAt) :
    Later (Effect.switches effects) c c' := by
  cases h.turn with
  | stays switches state generation =>
    rw [switches]
    exact ⟨h.policy_eq, generation.trans (UInt64.add_zero _).symm, fun _ => state,
      fun _ hhalf => hopened hhalf (state.trans hhalf)⟩
  | turns switches state generation =>
    rw [switches]
    exact ⟨h.policy_eq, generation, nofun, nofun⟩

end Later

/-! ## One operation -/

theorem later_arrive (c : Circuit K) (now : Instant) :
    Later (Effect.switches (c.arrive now).2.1) c (c.arrive now).1 :=
  .of_advance (c.advance_arrive now) fun _ _ => openedAt_arrive

theorem later_settle (c : Circuit K) (now : Instant) (p : Permit) (kindOf : E → K)
    (action : Action V E) :
    Later (Effect.switches (c.settle now p kindOf action).2.1) c
      (c.settle now p kindOf action).1 :=
  .of_advance (c.advance_settle now p kindOf action) fun _ hhalf => by
    rw [(settle_of_halfOpen hhalf).1]

theorem later_abandon (c : Circuit K) (now : Instant) (p : Permit) :
    Later (Effect.switches (c.abandon now p).2) c (c.abandon now p).1 :=
  .of_advance (c.advance_abandon now p) fun _ hhalf => by rw [(abandon_of_halfOpen hhalf).1]

theorem later_bindClassifier (c : Circuit K) (f : Classifier K) :
    Later 0 c (c.bindClassifier f).1 := by
  refine .of_advance (c.advance_bindClassifier 0 f) fun _ _ => ?_
  unfold bindClassifier
  split <;> rfl

theorem later_snapshot (c : Circuit K) (now : Instant) : Later 0 c (c.snapshot now).1 :=
  .of_advance (c.advance_snapshot now) fun _ _ => rfl

theorem later_forceOpen (c : Circuit K) (now : Instant) :
    Later (Effect.switches (c.forceOpen now).2) c (c.forceOpen now).1 :=
  .of_advance (c.advance_forceOpen now) fun _ hhalf =>
    absurd (state_forceOpen.symm.trans hhalf) (by decide)

theorem later_forceClosed (c : Circuit K) (now : Instant) :
    Later (Effect.switches (c.forceClosed now).2) c (c.forceClosed now).1 :=
  .of_advance (c.advance_forceClosed now) fun _ hhalf =>
    absurd (state_forceClosed.symm.trans hhalf) (by decide)

/-- Whatever is done with a circuit, it has as many transitions behind it as there are among the
effects. -/
theorem later_of_does (h : Does now c c' effects) : Later (Effect.switches effects) c c' := by
  cases h with
  | looks => exact .refl c
  | arrive => exact c.later_arrive now
  | settle p kindOf action => exact c.later_settle now p kindOf action
  | abandon p => exact c.later_abandon now p
  | bindClassifier f => exact c.later_bindClassifier f
  | snapshot => exact c.later_snapshot now
  | forceOpen => exact c.later_forceOpen now
  | forceClosed => exact c.later_forceClosed now

/-! ## Dropped calls -/

/-- A call that was admitted by a closed circuit may be dropped without a trace. -/
theorem abandon_of_ordinary (h : p.trial = false) (c : Circuit K) (now : Instant) :
    c.abandon now p = (c, []) :=
  abandon_of_dead fun hlive => Bool.false_ne_true (h.symm.trans hlive.1)

/-- So may a call that has seen a transition, before the generation comes round again. -/
theorem Later.abandon_of_turned (h : Later turns c c') (hp : p.generation = c.generation)
    (hpos : 0 < turns) (hb : turns < UInt64.size) (now : Instant) :
    c'.abandon now p = (c', []) := by
  refine abandon_of_dead fun hlive => ?_
  have hgeneration : c.generation + UInt64.ofNat turns = c.generation := by
    rw [← h.generation_eq, hlive.2.1, hp]
  have hzero : UInt64.ofNat turns = 0 := by simpa using hgeneration
  have hnat := congrArg UInt64.toNat hzero
  rw [UInt64.toNat_ofNat_of_lt' hb] at hnat
  exact Nat.ne_of_gt hpos hnat

/-- What becomes of a half-open circuit whose trial is dropped: it counts as opened when it did
before. -/
def handedBack (c : Circuit K) (now : Instant) : Circuit K :=
  { c with
    state := .opened
    failures := []
    lastChange := now
    generation := c.generation + 1
    published := .opened }

/-- The effects of it. -/
def handingBack (c : Circuit K) (now : Instant) : List Effect :=
  [c.notice now (.transition .halfOpen .opened), .log (.transition c.name .halfOpen .opened),
    .switched c.name .halfOpen .opened]

theorem abandon_of_trial (ht : p.trial = true) (hg : c.generation = p.generation)
    (hs : c.state = .halfOpen) (now : Instant) :
    c.abandon now p = (c.handedBack now, c.handingBack now) := by
  have hne : State.halfOpen ≠ .opened := by decide
  rw [abandon_of_live ht hg hs]
  simp only [reopen, transition, hs, hne, ↓reduceIte, handedBack, handingBack]

/-! ## Admission -/

/-- The circuit has just given out the permit. -/
structure Grants (c : Circuit K) (now : Instant) (p : Permit) : Prop where
  generation_eq : p.generation = c.generation
  state_eq : c.state = if p.trial then .halfOpen else .closed
  cooled : p.trial = true → c.cooldownLeft? now = none

theorem Grants.trial_iff (h : c.Grants now p) : p.trial = true ↔ c.state = .halfOpen := by
  rw [h.state_eq]
  cases p.trial <;> decide

/-- A cooldown that is over stays over. -/
theorem cooldownLeft?_mono (h : c.cooldownLeft? now = none) (hle : now ≤ later)
    (ho : c'.openedAt = c.openedAt) (hp : c'.policy = c.policy) :
    c'.cooldownLeft? later = none := by
  unfold cooldownLeft? at h ⊢
  rw [ho, hp]
  cases hopened : c.openedAt with
  | none => rfl
  | some t =>
    simp only [hopened] at h ⊢
    split at h
    · cases h
    · rename_i hpast
      have hlater : now - t ≤ later - t := Nat.sub_le_sub_right hle t
      exact if_neg fun hlt => hpast (Nat.lt_of_le_of_lt hlater hlt)

/-- A trial is admitted only when the cooldown is over. -/
theorem cooldownLeft?_of_arrive (h : (c.arrive now).2.2 = .ok p) (ht : p.trial = true) :
    c.cooldownLeft? now = none := by
  cases hs : c.state with
  | closed =>
    rw [arrive_of_closed hs] at h
    cases h
    simp [hs] at ht
  | halfOpen =>
    rw [arrive_of_halfOpen hs] at h
    cases h
  | opened =>
    cases hl : c.cooldownLeft? now with
    | some left =>
      rw [arrive_of_cooling hs hl] at h
      cases h
    | none => rfl

theorem grants_of_arrive (h : (c.arrive now).2.2 = .ok p) : (c.arrive now).1.Grants now p := by
  obtain ⟨hgeneration, hadmitted⟩ := permit_of_arrive h
  refine ⟨hgeneration, ?_, fun ht => ?_⟩
  · rcases hadmitted with ⟨hclosed, hsame, ht⟩ | ⟨-, hhalf, ht⟩
    · rw [ht, hsame, hclosed]
      rfl
    · rw [ht, hhalf]
      rfl
  · exact cooldownLeft?_mono (cooldownLeft?_of_arrive h ht) (Nat.le_refl now) openedAt_arrive
      (c.advance_arrive now).policy_eq

/-- The next call that arrives at an opened circuit whose cooldown is over is a trial. -/
theorem arrive_trial (hs : c.state = .opened) (hl : c.cooldownLeft? now = none) :
    ∃ p, (c.arrive now).2.2 = .ok p ∧ p.trial = true := by
  rw [arrive_of_cooled hs hl]
  refine ⟨_, rfl, ?_⟩
  simp only [state_transition, decide_true]

end Breaker.Circuit
