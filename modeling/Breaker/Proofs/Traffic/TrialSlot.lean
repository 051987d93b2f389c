import Breaker.Proofs.Traffic.Phase
import Mathlib.Data.List.Induction

/-!
# The trial slot

A half-open circuit rejects every call until its trial has ended, so it has to
have one. It has, with one exception: the permit of a call is spent before the
classifier is asked about its error, and a classifier that panics then leaves
the slot taken by nobody. `TrialLost` says that this has happened since the
last transition. It is the only way in which a circuit comes to be half-open
without a trial (`trialLost_of_stuck`), and it does make it so
(`TrialLost.stuck`), until somebody intervenes (`Stuck.run_of_no_manual`).
-/

namespace Breaker.Traffic

variable {K V E : Type} {kindOf : E → K} {s : Traffic K}

/-- A trial of the present generation is in flight. -/
def HasTrial (s : Traffic K) : Prop :=
  ∃ f ∈ s.inFlight, f.permit.trial = true ∧ f.permit.generation = s.circuit.generation

/-- The operation ends the trial of a half-open circuit in an error on which the classifier
panics. -/
def CrashesTrial (kindOf : E → K) (s : Traffic K) (op : Op K V E) : Prop :=
  s.circuit.state = .halfOpen ∧ ∃ id f e panic, op = .finish id (.error e) ∧
    s.flight? id = some f ∧ f.permit.trial = true ∧
    f.permit.generation = s.circuit.generation ∧ s.circuit.classify (kindOf e) = .error panic

/-- The last of the operations that crashed a trial has not been followed by a transition. -/
def TrialLost (kindOf : E → K) (s : Traffic K) (ops : List (Op K V E)) : Prop :=
  ∃ before op after, ops = before ++ op :: after ∧
    (s.run kindOf before).CrashesTrial kindOf op ∧
    (s.run kindOf ops).transitions = (s.run kindOf before).transitions

/-- The circuit is half-open, and there is no trial that could end this. -/
structure Stuck (s : Traffic K) : Prop where
  halfOpen : s.circuit.state = .halfOpen
  noTrial : ¬ s.HasTrial

/-! ## Losing the trial -/

/-- A call whose end takes the trial away was the trial. -/
theorem trial_of_land {id : Nat} {f : Flight} (hs : s.Sound) (hid : s.flight? id = some f)
    (ht : s.HasTrial) (hno : ¬ (s.land id).HasTrial) :
    f.permit.trial = true ∧ f.permit.generation = s.circuit.generation := by
  obtain ⟨g, hg, htrial, hgen⟩ := ht
  by_cases hgid : g.id = id
  · have hgf := hs.eq_of_id_eq hg (mem_of_flight? hid) (hgid.trans (id_of_flight? hid).symm)
    subst hgf
    exact ⟨htrial, hgen⟩
  · exact absurd ⟨g, mem_land.2 ⟨hg, hgid⟩, htrial, hgen⟩ hno

theorem finish_loses {id : Nat} {action : Action V E} (hs : s.Sound)
    (hst : (s.finish kindOf id action).1.circuit.state = .halfOpen)
    (hno : ¬ (s.finish kindOf id action).1.HasTrial) :
    s.circuit.state = .halfOpen ∧ (s.HasTrial → s.CrashesTrial kindOf (.finish id action)) := by
  cases hid : s.flight? id with
  | none =>
    rw [finish_of_none hid] at hst hno
    exact ⟨hst, fun h => absurd h hno⟩
  | some f =>
    rw [finish_of_some hid] at hst hno
    obtain ⟨hc, hcrash⟩ := Circuit.settle_of_halfOpen hst
    simp only [hc] at hst hno
    refine ⟨hst, fun h => ?_⟩
    obtain ⟨ht, hg⟩ := trial_of_land hs hid h hno
    obtain ⟨e, panic, rfl, hv⟩ := hcrash hg.symm ht
    exact ⟨hst, id, f, e, panic, rfl, hid, ht, hg, hv⟩

theorem drop_loses {id : Nat} (hs : s.Sound)
    (hst : (s.drop id : Traffic K × List Effect × Reply V E).1.circuit.state = .halfOpen)
    (hno : ¬ (s.drop id : Traffic K × List Effect × Reply V E).1.HasTrial) :
    s.circuit.state = .halfOpen ∧ ¬ s.HasTrial := by
  cases hid : s.flight? id with
  | none =>
    rw [drop_of_none hid] at hst hno
    exact ⟨hst, hno⟩
  | some f =>
    rw [drop_of_some hid] at hst hno
    obtain ⟨hc, hlive⟩ := Circuit.abandon_of_halfOpen hst
    simp only [hc] at hst hno
    refine ⟨hst, fun h => ?_⟩
    obtain ⟨ht, hg⟩ := trial_of_land hs hid h hno
    exact hlive ⟨hg.symm, ht⟩

/-- A call that arrives leaves a half-open circuit with the trial it had, or becomes its trial. -/
theorem start_loses {id : Nat}
    (hst : (s.start id : Traffic K × List Effect × Reply V E).1.circuit.state = .halfOpen)
    (hno : ¬ (s.start id : Traffic K × List Effect × Reply V E).1.HasTrial) :
    s.circuit.state = .halfOpen ∧ ¬ s.HasTrial := by
  cases hid : s.flight? id with
  | some f =>
    rw [start_of_taken hid] at hst hno
    exact ⟨hst, hno⟩
  | none =>
    cases h : (s.circuit.arrive s.clock).2.2 with
    | error e =>
      rw [start_of_error hid h] at hst hno
      exact ⟨hst, hno⟩
    | ok p =>
      rw [start_of_ok hid h] at hst hno
      obtain ⟨hgen, ⟨hcl, heq, -⟩ | ⟨-, -, ht⟩⟩ := Circuit.permit_of_arrive h
      · rw [← heq] at hcl
        exact absurd (hcl.symm.trans hst) (by decide)
      · exact absurd ⟨_, List.mem_append_right _ (List.mem_singleton_self _), ht, hgen⟩ hno

/-- A half-open circuit is left without a trial only where it had none, or by a crash. -/
theorem loses_step {op : Op K V E} (hs : s.Sound)
    (hst : (s.step kindOf op).circuit.state = .halfOpen)
    (hno : ¬ (s.step kindOf op).HasTrial) :
    s.circuit.state = .halfOpen ∧ (s.HasTrial → s.CrashesTrial kindOf op) := by
  cases op with
  | advance nanos => exact ⟨hst, fun h => absurd h hno⟩
  | start id =>
    obtain ⟨hst, hnone⟩ := start_loses hst hno
    exact ⟨hst, fun h => absurd h hnone⟩
  | finish id action => exact finish_loses hs hst hno
  | drop id =>
    obtain ⟨hst, hnone⟩ := drop_loses hs hst hno
    exact ⟨hst, fun h => absurd h hnone⟩
  | bindClassifier g =>
    refine ⟨(Circuit.state_bindClassifier g).symm.trans hst, ?_⟩
    rintro ⟨f, hf, ht, hgen⟩
    exact absurd ⟨f, hf, ht, hgen.trans (Circuit.generation_bindClassifier g).symm⟩ hno
  | snapshot => exact ⟨hst, fun h => absurd h hno⟩
  | forceOpen => exact absurd (Circuit.state_forceOpen.symm.trans hst) (by decide)
  | forceClosed => exact absurd (Circuit.state_forceClosed.symm.trans hst) (by decide)
  | reset => exact absurd (Circuit.state_forceClosed.symm.trans hst) (by decide)

theorem TrialLost.snoc {ops : List (Op K V E)} {op : Op K V E} (h : TrialLost kindOf s ops)
    (ht : (s.run kindOf (ops ++ [op])).transitions = (s.run kindOf ops).transitions) :
    TrialLost kindOf s (ops ++ [op]) := by
  obtain ⟨before, crash, after, rfl, hc, heq⟩ := h
  exact ⟨before, crash, after ++ [op], by simp only [List.append_assoc, List.cons_append], hc,
    ht.trans heq⟩

/-- Without a bound on the transitions: a stuck circuit has lost its trial to the classifier. -/
theorem trialLost_of_stuck (hs : s.Sound) (h : ¬ s.Stuck) (ops : List (Op K V E))
    (hstuck : (s.run kindOf ops).Stuck) : TrialLost kindOf s ops := by
  induction ops using List.reverseRecOn with
  | nil => exact absurd hstuck h
  | append_singleton ops op ih =>
    have hsnoc := run_snoc kindOf s ops op
    rw [hsnoc] at hstuck
    obtain ⟨hst, hcrash⟩ := loses_step (hs.run ops) hstuck.halfOpen hstuck.noTrial
    have ht := transitions_of_state (hstuck.halfOpen.trans hst.symm)
    by_cases htrial : (s.run kindOf ops).HasTrial
    · exact ⟨ops, op, [], rfl, hcrash htrial, by rw [hsnoc, ht]⟩
    · exact (ih ⟨hst, htrial⟩).snoc (by rw [hsnoc, ht])

/-! ## What follows from it -/

theorem CrashesTrial.stuck {op : Op K V E} (hs : s.Sound) (hb : s.transitions < UInt64.size)
    (h : s.CrashesTrial kindOf op) :
    (s.step kindOf op).Stuck ∧ (s.step kindOf op).transitions = s.transitions := by
  obtain ⟨hst, id, f, e, panic, rfl, hid, ht, hg, hv⟩ := h
  have hstep : s.step kindOf (.finish id (.error e) : Op K V E) = s.land id := by
    show (s.finish kindOf id (.error e)).1 = s.land id
    rw [finish_of_some hid, Circuit.settle_crashed hv]
    exact (s.land id).book_nil
  rw [hstep]
  refine ⟨⟨hst, ?_⟩, rfl⟩
  rintro ⟨g, hgm, -, hgg⟩
  obtain ⟨hgs, hgid⟩ := mem_land.1 hgm
  have hf := mem_of_flight? hid
  have hfe := (hs.generation_eq_iff hb hf).1 hg.symm
  have hge := (hs.generation_eq_iff hb hgs).1 hgg.symm
  rw [hs.alone hst g hgs f hf hge hfe] at hgid
  exact hgid (id_of_flight? hid)

/-- Only a transition gets a stuck circuit going again. -/
theorem Stuck.step {op : Op K V E} (h : s.Stuck)
    (ht : (s.step kindOf op).transitions = s.transitions) : (s.step kindOf op).Stuck := by
  have hc := course_step kindOf s op
  have hsw : Effect.switches (s.effects kindOf op) = 0 := by
    have := hc.transitions
    omega
  cases hc.advance.turn with
  | turns switches state generation => omega
  | stays switches state generation =>
    refine ⟨state.trans h.halfOpen, ?_⟩
    rintro ⟨f, hf, htrial, hgen⟩
    rcases hc.mem hf with hf | hb
    · exact h.noTrial ⟨f, hf, htrial, hgen.trans generation⟩
    · have hp := (Circuit.permit_of_arrive hb.granted).2
      rw [h.halfOpen] at hp
      rcases hp with ⟨hcl, -, -⟩ | ⟨hop, -, -⟩
      · cases hcl
      · cases hop

theorem Stuck.run {ops : List (Op K V E)} (h : s.Stuck)
    (ht : (s.run kindOf ops).transitions = s.transitions) : (s.run kindOf ops).Stuck := by
  induction ops generalizing s with
  | nil => exact h
  | cons op ops ih =>
    have hle := transitions_le_step kindOf s op
    have hle' := transitions_le_run kindOf (s.step kindOf op) ops
    rw [run_cons] at ht
    exact ih (h.step (by omega)) (by rw [ht]; omega)

theorem TrialLost.stuck {ops : List (Op K V E)} (hs : s.Sound)
    (hb : (s.run kindOf ops).transitions < UInt64.size) (h : TrialLost kindOf s ops) :
    (s.run kindOf ops).Stuck := by
  obtain ⟨before, op, after, rfl, hcrash, ht⟩ := h
  have hrun : s.run kindOf (before ++ op :: after) =
      ((s.run kindOf before).step kindOf op).run kindOf after := by
    rw [run_append, run_cons]
  rw [hrun] at hb ht ⊢
  obtain ⟨hstuck, heq⟩ := hcrash.stuck (hs.run before) (by omega)
  exact hstuck.run (ht.trans heq.symm)

/-- As long as nobody intervenes, a stuck circuit stays so. -/
theorem Stuck.run_of_no_manual {ops : List (Op K V E)} (hs : s.Sound)
    (hb : s.transitions < UInt64.size) (h : s.Stuck) (hm : ∀ op ∈ ops, op.isManual = false) :
    (s.run kindOf ops).Stuck := by
  induction ops generalizing s with
  | nil => exact h
  | cons op ops ih =>
    have hp : s.Passive op := by
      refine ⟨hm op List.mem_cons_self, ?_, ?_⟩
      · intro id f _ hid he
        have hf := mem_of_flight? hid
        rcases hs.current f hf he with ⟨hcl, -⟩ | ⟨-, htrial⟩
        · exact absurd (hcl.symm.trans h.halfOpen) (by decide)
        · exact h.noTrial ⟨f, hf, htrial, ((hs.generation_eq_iff hb hf).2 he).symm⟩
      · intro id _ _
        rw [Circuit.arrive_of_halfOpen h.halfOpen]
        exact ⟨_, rfl⟩
    have ht := transitions_of_state (samePhase_step hs hb hp kindOf).state_eq
    exact ih (hs.step op) (ht ▸ hb) (h.step ht) fun op' hop' => hm op' (List.mem_cons_of_mem _ hop')

/-! ## The slot and the classifier -/

/-- **A half-open circuit has a trial in flight** unless the classifier has panicked on the error of
its trial, so without calls in flight it is closed or opened; and if the classifier has, there is
none. -/
theorem halfOpen_trial_or_lost (kindOf : E → K) (name : String) (policy : Policy) (now : Instant)
    (ops : List (Op K V E)) :
    let start : Traffic K := fresh name policy now
    let s := start.run kindOf ops
    (s.circuit.state = .halfOpen → s.HasTrial ∨ TrialLost kindOf start ops) ∧
      (s.inFlight = [] → ¬ TrialLost kindOf start ops →
        s.circuit.state = .closed ∨ s.circuit.state = .opened) ∧
      (s.transitions < UInt64.size → TrialLost kindOf start ops →
        s.circuit.state = .halfOpen ∧ ¬ s.HasTrial) := by
  intro start s
  have hfresh : ¬ start.Stuck := fun h => nomatch h.halfOpen
  have hlost : s.circuit.state = .halfOpen → s.HasTrial ∨ TrialLost kindOf start ops := by
    intro hst
    by_cases ht : s.HasTrial
    · exact .inl ht
    · exact .inr (trialLost_of_stuck (sound_fresh name policy now) hfresh ops ⟨hst, ht⟩)
  refine ⟨hlost, ?_, ?_⟩
  · intro hnone hnot
    cases hst : s.circuit.state with
    | closed => exact .inl rfl
    | opened => exact .inr rfl
    | halfOpen =>
      rcases hlost hst with ⟨f, hf, -⟩ | hl
      · rw [hnone] at hf
        cases hf
      · exact absurd hl hnot
  · intro hb hl
    have hstuck := hl.stuck (sound_fresh name policy now) hb
    exact ⟨hstuck.halfOpen, hstuck.noTrial⟩

/-- The classifier panics on the error of the trial. -/
def crashRun : List (Op Unit Unit Unit) :=
  [.bindClassifier fun _ => .error ⟨"classifier bug"⟩, .forceOpen,
    .advance Policy.standard.resetTimeout.nanos, .start 0, .finish 0 (.error ())]

theorem crash_leaves_no_trial :
    let s := (fresh "db" .standard 0 : Traffic Unit).run id crashRun
    s.circuit.state = .halfOpen ∧ s.inFlight = [] ∧ ¬ s.HasTrial := by
  refine ⟨by decide, by decide, ?_⟩
  rintro ⟨f, hf, -⟩
  exact nomatch hf

/-- A trial in flight, no call at all, and a trial that has been lost. -/
theorem trial_kept_and_lost :
    let start : Traffic Unit := fresh "db" .standard 0
    ((start.run id (crashRun.take 4)).circuit.state = .halfOpen ∧
        ((start.run id (crashRun.take 4)).HasTrial ∨ TrialLost id start (crashRun.take 4))) ∧
      (start.circuit.state = .closed ∨ start.circuit.state = .opened) ∧
      (start.run id crashRun).circuit.state = .halfOpen ∧ ¬ (start.run id crashRun).HasTrial := by
  have hhalf : ((fresh "db" .standard 0 : Traffic Unit).run id (crashRun.take 4)).circuit.state =
      .halfOpen := by decide
  have hnot : ¬ TrialLost id (fresh "db" .standard 0 : Traffic Unit)
      ([] : List (Op Unit Unit Unit)) := by
    rintro ⟨before, op, after, h, -⟩
    cases before <;> cases h
  have hlost : TrialLost id (fresh "db" .standard 0 : Traffic Unit) crashRun :=
    ⟨crashRun.take 4, .finish 0 (.error ()), [], rfl,
      ⟨by decide, 0, ⟨0, ⟨2, true⟩, 2⟩, (), ⟨"classifier bug"⟩, rfl, by decide, by decide,
        by decide, rfl⟩,
      by decide⟩
  exact ⟨⟨hhalf, (halfOpen_trial_or_lost id "db" .standard 0 (crashRun.take 4)).1 hhalf⟩,
    (halfOpen_trial_or_lost id "db" .standard 0 []).2.1 rfl hnot,
    (halfOpen_trial_or_lost id "db" .standard 0 crashRun).2.2 (by decide) hlost⟩

end Breaker.Traffic
