import Breaker.Proofs.Circuit.HalfOpen
import Breaker.Proofs.Traffic.Sound

/-!
# Within a phase

Between two transitions a circuit keeps its state, its generation and the time
of its opening. `samePhase_step` says which steps cannot end a phase: those that
are not manual control, let no call in and end no call of the present epoch.
The end of a call of an earlier epoch does nothing at all
(`finish_of_stale`, `drop_of_stale`), and only the end of one of the present
epoch in an error that trips is a failure that counts (`perform_of_trips`).
-/

namespace Breaker

/-- The call that an operation ends. -/
def Op.ended? {K V E : Type} : Op K V E → Option Nat
  | finish id _ | drop id => some id
  | _ => none

theorem Op.eq_of_ended? {K V E : Type} {op : Op K V E} {id : Nat} (h : op.ended? = some id) :
    (∃ action, op = finish id action) ∨ op = drop id := by
  cases op with
  | finish id action =>
    cases h
    exact .inl ⟨action, rfl⟩
  | drop id =>
    cases h
    exact .inr rfl
  | _ => cases h

namespace Circuit

variable {K : Type} {c c' c'' : Circuit K}

/-- `c` and `c'` are in the same phase. -/
structure SamePhase (c c' : Circuit K) : Prop where
  state_eq : c'.state = c.state
  generation_eq : c'.generation = c.generation
  openedAt_eq : c'.openedAt = c.openedAt

theorem SamePhase.refl (c : Circuit K) : SamePhase c c := ⟨rfl, rfl, rfl⟩

theorem SamePhase.trans (h : SamePhase c c') (h' : SamePhase c' c'') : SamePhase c c'' :=
  ⟨h'.state_eq.trans h.state_eq, h'.generation_eq.trans h.generation_eq,
    h'.openedAt_eq.trans h.openedAt_eq⟩

theorem samePhase_bindClassifier (c : Circuit K) (f : Classifier K) :
    SamePhase c (c.bindClassifier f).1 := by
  unfold bindClassifier
  split
  · exact .refl c
  · exact ⟨rfl, rfl, rfl⟩

end Circuit

namespace Traffic

open Circuit (SamePhase)

variable {K V E : Type} {kindOf : E → K} {s : Traffic K} {id : Nat} {f : Flight}

/-! ## Calls of earlier epochs -/

theorem finish_of_stale (hs : s.Sound) (hb : s.transitions < UInt64.size)
    (hid : s.flight? id = some f) (he : f.epoch ≠ s.transitions) (action : Action V E) :
    (s.finish kindOf id action).1 = s.land id ∧ (s.finish kindOf id action).2.1 = [] := by
  have hg : s.circuit.generation ≠ f.permit.generation := fun h =>
    he ((hs.generation_eq_iff hb (mem_of_flight? hid)).1 h)
  obtain ⟨hc, hnone⟩ := Circuit.settle_of_stale hg s.clock kindOf action
  rw [finish_of_some hid, hc, hnone]
  exact ⟨(s.land id).book_nil, rfl⟩

theorem drop_of_stale (hs : s.Sound) (hb : s.transitions < UInt64.size)
    (hid : s.flight? id = some f) (he : f.epoch ≠ s.transitions) :
    (s.drop id : Traffic K × List Effect × Reply V E).1 = s.land id ∧
      (s.drop id : Traffic K × List Effect × Reply V E).2.1 = [] := by
  have hg : s.circuit.generation ≠ f.permit.generation := fun h =>
    he ((hs.generation_eq_iff hb (mem_of_flight? hid)).1 h)
  rw [drop_of_some hid, Circuit.abandon_of_dead fun hd => hg hd.2.1]
  exact ⟨(s.land id).book_nil, rfl⟩

/-- A step that keeps the state makes no transition. -/
theorem transitions_of_state {op : Op K V E}
    (h : (s.step kindOf op).circuit.state = s.circuit.state) :
    (s.step kindOf op).transitions = s.transitions := by
  have hc := course_step kindOf s op
  cases hc.advance.turn with
  | stays switches state generation => rw [hc.transitions, switches, Nat.add_zero]
  | turns switches state generation => exact absurd h state

/-! ## Calls that are turned away -/

/-- The answer to a call that is rejected with `e`; its action is not run. -/
structure Rejected (s : Traffic K) (e : OpenError) (out : Traffic K × List Effect × Reply V E) :
    Prop where
  reply_eq : out.2.2 = .rejected e
  circuit_eq : out.1.circuit = s.circuit
  inFlight_eq : out.1.inFlight = s.inFlight

/-- Whoever arrives now is rejected with `e`. -/
def Rejects (V E : Type) (s : Traffic K) (e : OpenError) : Prop :=
  ∀ id, s.flight? id = none → s.Rejected e (s.start id : Traffic K × List Effect × Reply V E)

theorem rejects_of_arrive {e : OpenError} (h : (s.circuit.arrive s.clock).2.2 = .error e) :
    s.Rejects V E e := by
  intro id hid
  rw [start_of_error hid h]
  exact ⟨rfl, rfl, rfl⟩

/-! ## Failures that count -/

/-- Whether the operation ends a call of the present epoch in an error that trips. -/
def trips (kindOf : E → K) (s : Traffic K) : Op K V E → Bool
  | .finish id (.error e) =>
    match s.flight? id, s.circuit.classify (kindOf e) with
    | some f, .ok verdict => f.epoch == s.transitions && verdict.trips
    | _, _ => false
  | _ => false

theorem exists_of_trips {op : Op K V E} (h : s.trips kindOf op = true) :
    ∃ id f e verdict, op = .finish id (.error e) ∧ s.flight? id = some f ∧
      f.epoch = s.transitions ∧ s.circuit.classify (kindOf e) = .ok verdict ∧
      verdict.trips = true := by
  unfold trips at h
  split at h
  · rename_i id e
    split at h
    · rename_i f verdict hid hv
      rw [Bool.and_eq_true, beq_iff_eq] at h
      exact ⟨id, f, e, verdict, rfl, hid, h.1, hv, h.2⟩
    · cases h
  · cases h

/-- Such an operation is booked as a failure, on a circuit that is closed or waits for it. -/
theorem perform_of_trips {op : Op K V E} (hs : s.Sound) (hb : s.transitions < UInt64.size)
    (h : s.trips kindOf op = true) :
    s.circuit.state ≠ .opened ∧ (s.step kindOf op).clock = s.clock ∧
      (s.step kindOf op).circuit = (s.circuit.recordFailure s.clock).1 ∧
      s.effects kindOf op = (s.circuit.recordFailure s.clock).2 := by
  obtain ⟨id, f, e, verdict, rfl, hid, he, hv, ht⟩ := exists_of_trips h
  have hf := mem_of_flight? hid
  have hg := (hs.generation_eq_iff hb hf).2 he
  have hne : s.circuit.state ≠ .opened := by
    rcases hs.current f hf he with ⟨hst, -⟩ | ⟨hst, -⟩
    · rw [hst]
      decide
    · rw [hst]
      decide
  have hrecord : s.circuit.recordClassified s.clock verdict = s.circuit.recordFailure s.clock := by
    unfold Circuit.recordClassified
    rw [if_pos ht]
  refine ⟨hne, ?_⟩
  show (s.finish kindOf id (.error e) : Traffic K × List Effect × Reply V E).1.clock = _ ∧
    (s.finish kindOf id (.error e) : Traffic K × List Effect × Reply V E).1.circuit = _ ∧
    (s.finish kindOf id (.error e) : Traffic K × List Effect × Reply V E).2.1 = _
  rw [finish_of_some hid, Circuit.settle_error hg hv, hrecord]
  exact ⟨rfl, rfl, rfl⟩

/-! ## Steps that end no phase -/

/-- The steps that let a phase go on. -/
structure Passive (s : Traffic K) (op : Op K V E) : Prop where
  manual : op.isManual = false
  stale : ∀ id f, op.ended? = some id → s.flight? id = some f → f.epoch ≠ s.transitions
  rejected : ∀ id, op = .start id → s.flight? id = none →
    ∃ e, (s.circuit.arrive s.clock).2.2 = .error e

theorem samePhase_step {op : Op K V E} (hs : s.Sound) (hb : s.transitions < UInt64.size)
    (hp : s.Passive op) (kindOf : E → K) : SamePhase s.circuit (s.step kindOf op).circuit := by
  cases op with
  | advance nanos => exact .refl _
  | start id =>
    show SamePhase _ (s.start id : Traffic K × List Effect × Reply V E).1.circuit
    cases hid : s.flight? id with
    | some f =>
      rw [start_of_taken hid]
      exact .refl _
    | none =>
      obtain ⟨e, he⟩ := hp.rejected id rfl hid
      rw [start_of_error hid he]
      exact .refl _
  | finish id action =>
    show SamePhase _ (s.finish kindOf id action).1.circuit
    cases hid : s.flight? id with
    | some f =>
      rw [(finish_of_stale hs hb hid (hp.stale id f rfl hid) action).1]
      exact .refl _
    | none =>
      rw [finish_of_none hid]
      exact .refl _
  | drop id =>
    show SamePhase _ (s.drop id : Traffic K × List Effect × Reply V E).1.circuit
    cases hid : s.flight? id with
    | some f =>
      rw [(drop_of_stale hs hb hid (hp.stale id f rfl hid)).1]
      exact .refl _
    | none =>
      rw [drop_of_none hid]
      exact .refl _
  | bindClassifier g => exact s.circuit.samePhase_bindClassifier g
  | snapshot => exact ⟨rfl, rfl, rfl⟩
  | forceOpen => exact nomatch hp.manual
  | forceClosed => exact nomatch hp.manual
  | reset => exact nomatch hp.manual

end Traffic

end Breaker
