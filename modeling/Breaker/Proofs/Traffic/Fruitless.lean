import Breaker.Proofs.Circuit.Later
import Breaker.Proofs.Metrics
import Breaker.Proofs.Traffic.Cooldown
import Breaker.Proofs.Traffic.Reachable

/-!
# Trials that come to nothing

While calls end in no other way than by being dropped or by a panic, an opened circuit is never
closed and always counts as opened at the same time. So once its cooldown is over it has a trial in
flight or admits the next call as one, however many trials come to nothing one after the other, and
none of them is counted (`Traffic.receptive_of_fruitless`).
-/

namespace Breaker

/-- The operation brings no result: a call that it ends is dropped, or its action panics. -/
def Op.isFruitless {K V E : Type} : Op K V E → Bool
  | advance _ | start _ | drop _ | finish _ (.panic _) | bindClassifier _ | snapshot => true
  | finish .. | forceOpen | forceClosed | reset => false

namespace Circuit

variable {K : Type} {c c' : Circuit K} {now : Instant} {effects : List Effect}

/-- The circuit has not been closed or opened anew, and at most rejections have been counted. -/
structure Undecided (c c' : Circuit K) (effects : List Effect) : Prop where
  policy_eq : c'.policy = c.policy
  openedAt_eq : c'.openedAt = c.openedAt
  ajar : c.state ≠ .closed → c'.state ≠ .closed
  uncounted : ∀ name outcome, .counted name outcome ∈ effects → outcome = .rejected

theorem Undecided.refl (c : Circuit K) : c.Undecided c [] where
  policy_eq := rfl
  openedAt_eq := rfl
  ajar := id
  uncounted := nofun

theorem uncounted_permit (c : Circuit K) (now : Instant) (name : String) (outcome : CallOutcome) :
    .counted name outcome ∉ (c.permit now).1 := by
  simp [permit, notice]

theorem uncounted_transition (c : Circuit K) (target : State) (now : Instant) (name : String)
    (outcome : CallOutcome) : .counted name outcome ∉ (c.transition target now).2 := by
  unfold transition
  split <;> simp [notice]

theorem counted_reject {left : Duration} {name : String} {outcome : CallOutcome}
    (h : .counted name outcome ∈ (c.reject now left).1) : outcome = .rejected := by
  simp [reject, notice] at h
  exact h.2

theorem undecided_arrive (c : Circuit K) (now : Instant) :
    c.Undecided (c.arrive now).1 (c.arrive now).2.1 where
  policy_eq := (c.advance_arrive now).policy_eq
  openedAt_eq := openedAt_arrive
  ajar hne := by
    cases hs : c.state with
    | closed => exact absurd hs hne
    | halfOpen =>
      rw [arrive_of_halfOpen hs, hs]
      decide
    | opened =>
      cases hl : c.cooldownLeft? now with
      | some left =>
        rw [arrive_of_cooling hs hl, hs]
        decide
      | none =>
        rw [arrive_of_cooled hs hl, state_transition]
        decide
  uncounted name outcome h := by
    cases hs : c.state with
    | closed =>
      rw [arrive_of_closed hs] at h
      exact absurd h (c.uncounted_permit now name outcome)
    | halfOpen =>
      rw [arrive_of_halfOpen hs] at h
      exact counted_reject h
    | opened =>
      cases hl : c.cooldownLeft? now with
      | some left =>
        rw [arrive_of_cooling hs hl] at h
        exact counted_reject h
      | none =>
        rw [arrive_of_cooled hs hl] at h
        rcases List.mem_append.1 h with h | h
        · exact absurd h (c.uncounted_transition .halfOpen now name outcome)
        · exact absurd h (uncounted_permit _ now name outcome)

theorem undecided_abandon (c : Circuit K) (now : Instant) (p : Permit) :
    c.Undecided (c.abandon now p).1 (c.abandon now p).2 := by
  by_cases h : p.trial = true ∧ c.generation = p.generation ∧ c.state = .halfOpen
  · obtain ⟨ht, hg, hs⟩ := h
    rw [abandon_of_trial ht hg hs now]
    refine ⟨rfl, rfl, fun _ => ?_, ?_⟩
    · show State.opened ≠ .closed
      decide
    · simp [handingBack, notice]
  · rw [abandon_of_dead h]
    exact .refl c

theorem undecided_bindClassifier (c : Circuit K) (f : Classifier K) :
    c.Undecided (c.bindClassifier f).1 [] := by
  unfold bindClassifier
  split
  · exact .refl c
  · exact ⟨rfl, rfl, id, nofun⟩

theorem undecided_snapshot (c : Circuit K) (now : Instant) : c.Undecided (c.snapshot now).1 [] :=
  ⟨rfl, rfl, id, nofun⟩

end Circuit

namespace Traffic

variable {K V E : Type} {kindOf : E → K} {s s' s'' : Traffic K} {op : Op K V E}
  {ops : List (Op K V E)} {t : Instant} {f : Flight}

/-- The traffic has gone on, and nothing has been decided. -/
structure Undecided (s s' : Traffic K) : Prop where
  policy_eq : s'.circuit.policy = s.circuit.policy
  openedAt_eq : s'.circuit.openedAt = s.circuit.openedAt
  ajar : s.circuit.state ≠ .closed → s'.circuit.state ≠ .closed
  clock_le : s.clock ≤ s'.clock
  uncounted : ∀ name outcome, outcome ≠ .rejected →
    s'.journal.count (.counted name outcome) = s.journal.count (.counted name outcome)

namespace Undecided

theorem refl (s : Traffic K) : s.Undecided s where
  policy_eq := rfl
  openedAt_eq := rfl
  ajar := id
  clock_le := Nat.le_refl _
  uncounted _ _ _ := rfl

theorem trans (h : s.Undecided s') (h' : s'.Undecided s'') : s.Undecided s'' where
  policy_eq := h'.policy_eq.trans h.policy_eq
  openedAt_eq := h'.openedAt_eq.trans h.openedAt_eq
  ajar := h'.ajar ∘ h.ajar
  clock_le := Nat.le_trans h.clock_le h'.clock_le
  uncounted name outcome hne :=
    (h'.uncounted name outcome hne).trans (h.uncounted name outcome hne)

theorem of_circuit {c : Circuit K} {effects : List Effect} (h : s.circuit.Undecided c effects)
    (hcircuit : s'.circuit = c) (hclock : s'.clock = s.clock)
    (hjournal : s'.journal = s.journal ++ effects) : s.Undecided s' where
  policy_eq := by rw [hcircuit, h.policy_eq]
  openedAt_eq := by rw [hcircuit, h.openedAt_eq]
  ajar hne := hcircuit ▸ h.ajar hne
  clock_le := Nat.le_of_eq hclock.symm
  uncounted name outcome hne := by
    have hnone : effects.count (.counted name outcome) = 0 :=
      List.count_eq_zero.2 fun hmem => hne (h.uncounted name outcome hmem)
    rw [hjournal, List.count_append, hnone, Nat.add_zero]

theorem abandon {id : Nat} (f : Flight) : s.Undecided
    ((s.land id).book (s.circuit.abandon s.clock f.permit).1
      (s.circuit.abandon s.clock f.permit).2) :=
  .of_circuit (s.circuit.undecided_abandon s.clock f.permit) rfl rfl rfl

theorem start (s : Traffic K) (id : Nat) :
    s.Undecided (s.start id : Traffic K × List Effect × Reply V E).1 := by
  have harrive := s.circuit.undecided_arrive s.clock
  cases hid : s.flight? id with
  | some f =>
    rw [start_of_taken hid]
    exact .refl s
  | none =>
    cases h : (s.circuit.arrive s.clock).2.2 with
    | ok p =>
      rw [start_of_ok hid h]
      exact .of_circuit harrive rfl rfl rfl
    | error e =>
      rw [start_of_error hid h]
      rw [Circuit.arrive_fst_of_error h] at harrive
      exact .of_circuit harrive rfl rfl rfl

theorem step (kindOf : E → K) (hop : op.isFruitless = true) : s.Undecided (s.step kindOf op) := by
  cases op with
  | advance nanos => exact { refl s with clock_le := Nat.le_add_right .. }
  | start id => exact .start s id
  | finish id action =>
    cases action with
    | ok v => cases hop
    | error e => cases hop
    | panic panic =>
      show s.Undecided (s.finish kindOf id (.panic panic)).1
      cases hid : s.flight? id with
      | none =>
        rw [finish_of_none hid]
        exact .refl s
      | some f =>
        rw [finish_of_some hid, Circuit.settle_panic]
        exact .abandon f
  | drop id =>
    show s.Undecided (s.drop id : Traffic K × List Effect × Reply V E).1
    cases hid : s.flight? id with
    | none =>
      rw [drop_of_none hid]
      exact .refl s
    | some f =>
      rw [drop_of_some hid]
      exact .abandon f
  | bindClassifier g => exact .of_circuit (s.circuit.undecided_bindClassifier g) rfl rfl rfl
  | snapshot => exact .of_circuit (s.circuit.undecided_snapshot s.clock) rfl rfl rfl
  | forceOpen => cases hop
  | forceClosed => cases hop
  | reset => cases hop

theorem run (kindOf : E → K) (hops : ∀ op ∈ ops, op.isFruitless = true) :
    s.Undecided (s.run kindOf ops) := by
  induction ops generalizing s with
  | nil => exact .refl s
  | cons op ops ih =>
    have hstep := Undecided.step (s := s) kindOf (hops op List.mem_cons_self)
    exact hstep.trans (ih fun op' hop' => hops op' (List.mem_cons_of_mem _ hop'))

/-- The deadline stays where it is, so a cooldown that is over stays over. -/
theorem cooling (h : s.Undecided s') (hcooling : s.Cooling t) (hle : s.deadline t ≤ s.clock)
    (hopened : s'.circuit.state = .opened) : s'.Cooling t ∧ s'.deadline t ≤ s'.clock := by
  refine ⟨⟨hopened, h.openedAt_eq.trans hcooling.openedAt_eq⟩, ?_⟩
  have hdeadline : s'.deadline t = s.deadline t := by rw [deadline, deadline, h.policy_eq]
  exact hdeadline ▸ Nat.le_trans hle h.clock_le

end Undecided

/-- Without a result nothing makes the classifier panic, so no trial is lost to it. -/
theorem not_trialLost_of_fruitless (hops : ∀ op ∈ ops, op.isFruitless = true) :
    ¬ TrialLost kindOf s ops := by
  rintro ⟨before, op, after, rfl, ⟨-, id, f, e, panic, rfl, -⟩, -⟩
  exact nomatch hops (.finish id (.error e)) (by simp)

/-- The trial of a half-open circuit that is dropped, or whose action panics, opens it. -/
theorem opened_of_trial (hs : s.Sound) (hhalf : s.circuit.state = .halfOpen) (hf : f ∈ s.trials) :
    (s.step kindOf (.drop f.id : Op K V E)).circuit.state = .opened ∧
      ∀ panic,
        (s.step kindOf (.finish f.id (.panic panic) : Op K V E)).circuit.state = .opened := by
  obtain ⟨hmem, htrial, hgeneration⟩ := mem_trials.1 hf
  have hid := hs.flight?_eq_some hmem
  have habandon := Circuit.abandon_of_trial htrial hgeneration.symm hhalf s.clock
  refine ⟨?_, fun panic => ?_⟩
  · show (s.drop f.id : Traffic K × List Effect × Reply V E).1.circuit.state = .opened
    rw [drop_of_some hid, habandon]
    rfl
  · show (s.finish kindOf f.id (.panic panic)).1.circuit.state = .opened
    rw [finish_of_some hid, Circuit.settle_panic, habandon]
    rfl

/-- The circuit admits the next call as a trial, or has a trial in flight and will admit one as soon
as that comes to nothing. -/
inductive Receptive (kindOf : E → K) (V : Type) (s : Traffic K) : Prop
  | admits (opened : s.circuit.state = .opened) (admits : s.AdmitsTrial V E)
  | waits (halfOpen : s.circuit.state = .halfOpen) (trial : s.HasTrial)
    (dropped : ∀ f ∈ s.trials, (s.step kindOf (.drop f.id : Op K V E)).AdmitsTrial V E)
    (panicked : ∀ f ∈ s.trials, ∀ panic,
      (s.step kindOf (.finish f.id (.panic panic) : Op K V E)).AdmitsTrial V E)

/-- **Trials that come to nothing never bar the next caller and never count**, however many there
are and whenever they end. -/
theorem receptive_of_fruitless (kindOf : E → K) (hs : s.Sound) (hcooling : s.Cooling t)
    (hle : s.deadline t ≤ s.clock) (hops : ∀ op ∈ ops, op.isFruitless = true) :
    (s.run kindOf ops).Receptive kindOf V ∧
      ∀ name outcome, outcome ≠ .rejected →
        ((Metrics.ofEffects (s.run kindOf ops).journal).tally name).calls outcome =
          ((Metrics.ofEffects s.journal).tally name).calls outcome := by
  have hrun : s.Undecided (s.run kindOf ops) := .run kindOf hops
  constructor
  · cases hstate : (s.run kindOf ops).circuit.state with
    | closed =>
      have hne : s.circuit.state ≠ .closed := by rw [hcooling.opened]; decide
      exact absurd hstate (hrun.ajar hne)
    | opened =>
      obtain ⟨hcooling', hle'⟩ := hrun.cooling hcooling hle hstate
      exact .admits hstate (hcooling'.admitsTrial hle')
    | halfOpen =>
      have hnot : ¬ s.Stuck := fun hstuck => by
        have := hcooling.opened.symm.trans hstuck.halfOpen
        cases this
      have hends (op : Op K V E) (hop : op.isFruitless = true)
          (hopened : ((s.run kindOf ops).step kindOf op).circuit.state = .opened) :
          ((s.run kindOf ops).step kindOf op).AdmitsTrial V E := by
        obtain ⟨hcooling', hle'⟩ := (hrun.trans (.step kindOf hop)).cooling hcooling hle hopened
        exact hcooling'.admitsTrial hle'
      refine .waits hstate ?_ (fun f hf => ?_) (fun f hf panic => ?_)
      · by_contra hnone
        exact not_trialLost_of_fruitless hops (trialLost_of_stuck hs hnot ops ⟨hstate, hnone⟩)
      · exact hends _ rfl (opened_of_trial (hs.run ops) hstate hf).1
      · exact hends _ rfl ((opened_of_trial (hs.run ops) hstate hf).2 panic)
  · intro name outcome hne
    rw [Metrics.calls_ofEffects, Metrics.calls_ofEffects]
    exact hrun.uncounted name outcome hne

end Traffic

end Breaker
