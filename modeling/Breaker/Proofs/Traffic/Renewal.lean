import Breaker.Proofs.Circuit.Ageless
import Breaker.Proofs.Traffic.Stale
import Breaker.Proofs.Traffic.Story

/-!
# Cleared circuits are like new

To clear a circuit is to make it `renewed`, but for its age and for the calls still in flight. From
then on it and a new circuit are `Twins`: an operation that touches none of those calls does the
same to both (`Twins.perform`), for new calls lag alike behind the generations of the two circuits.
The old calls could still make a difference only if no transition has happened since their
admission; once one has, their ends leave the twins as they are (`Twins.run_displaced`).
-/

namespace Breaker

/-- The call that an operation starts or ends. -/
def Op.call? {K V E : Type} : Op K V E → Option Nat
  | start id | finish id _ | drop id => some id
  | _ => none

/-- The answer without the age of a state. -/
def Reply.ageless {V E : Type} : Reply V E → Reply V E
  | viewed s => viewed s.ageless
  | reply => reply

namespace Traffic

open Circuit (Advance Lag SameButAge)

variable {K V E : Type} {kindOf : E → K} {s a b : Traffic K}

/-- The operation starts or ends a call that is in flight in `s`. -/
def touches (s : Traffic K) (op : Op K V E) : Bool :=
  op.call?.any fun id => (s.flight? id).isSome

/-- A new circuit with the name, the policy and the classifier of this one, made now. -/
def renewed (s : Traffic K) : Traffic K where
  circuit := { (Circuit.create s.circuit.name s.circuit.policy s.clock : Circuit K) with
    classifier := s.circuit.classifier }
  clock := s.clock

/-- Since `told`, the two have gone through the same, and one sees no difference between their
circuits but the age; the next operation does the same to both, if it touches no call of `s`. -/
structure Indistinct (kindOf : E → K) (s : Traffic K) (told : List Effect) (a b : Traffic K) :
    Prop where
  circuit : a.circuit.ageless = b.circuit.ageless
  journal : a.journal = told ++ b.journal
  next : ∀ op : Op K V E, s.touches op = false →
    (a.reply kindOf op).ageless = (b.reply kindOf op).ageless ∧
      a.effects kindOf op = b.effects kindOf op

section Flights

variable {id other : Nat} {f : Flight} {effects : List Effect}

/-! ## Calls in flight -/

theorem flight?_eq_none_of_touches {op : Op K V E} (h : s.touches op = false)
    (hop : op.call? = some id) : s.flight? id = none := by
  simpa only [touches, hop, Option.any_some, Option.isSome_eq_false_iff, Option.isNone_iff_eq_none]
    using h

theorem flight?_land_self : (s.land id).flight? id = none := by
  refine List.find?_eq_none.2 fun f hf => ?_
  rw [beq_iff_eq]
  exact (mem_land.1 hf).2

theorem flight?_board_of_ne {p : Permit} (h : other ≠ id) :
    (s.board other p).flight? id = s.flight? id := by
  simp only [flight?, board, List.find?_append, List.find?_singleton, beq_iff_eq, h, ↓reduceIte,
    Option.or_none]

theorem flight?_of_land (h : (s.land other).flight? id = some f) : s.flight? id = some f := by
  by_cases hne : other = id
  · rw [hne, flight?_land_self] at h
    cases h
  · rwa [flight?_land_of_ne hne] at h

/-- Only its start puts a call in flight. -/
theorem flight?_of_step {op : Op K V E} (h : (s.step kindOf op).flight? id = some f)
    (hop : op ≠ .start id) : s.flight? id = some f := by
  cases op with
  | start other =>
    change (s.start other : Traffic K × List Effect × Reply V E).1.flight? id = some f at h
    cases hid : s.flight? other with
    | some g =>
      rw [start_of_taken hid] at h
      exact h
    | none =>
      have hne : other ≠ id := fun heq => hop (congrArg Op.start heq)
      cases ha : (s.circuit.arrive s.clock).2.2 with
      | ok p =>
        rw [start_of_ok hid ha] at h
        rw [flight?_board_of_ne hne] at h
        exact h
      | error e =>
        rw [start_of_error hid ha] at h
        exact h
  | finish other action =>
    change (s.finish kindOf other action).1.flight? id = some f at h
    cases hid : s.flight? other with
    | none =>
      rw [finish_of_none hid] at h
      exact h
    | some g =>
      rw [finish_of_some hid] at h
      exact flight?_of_land h
  | drop other =>
    change (s.drop other : Traffic K × List Effect × Reply V E).1.flight? id = some f at h
    cases hid : s.flight? other with
    | none =>
      rw [drop_of_none hid] at h
      exact h
    | some g =>
      rw [drop_of_some hid] at h
      exact flight?_of_land h
  | advance nanos => exact h
  | bindClassifier g => exact h
  | snapshot => exact h
  | forceOpen => exact h
  | forceClosed => exact h
  | reset => exact h

/-! ## Twins -/

/-- The two are the same but for their age and for the calls that are in flight in `s`. -/
structure Twins (s a b : Traffic K) : Prop where
  clock_eq : a.clock = b.clock
  circuit : a.circuit.ageless = b.circuit.ageless
  flight : ∀ id, s.flight? id = none → (a.flight? id = none ↔ b.flight? id = none)
  lag : ∀ id f g, s.flight? id = none → a.flight? id = some f → b.flight? id = some g →
    Lag a.circuit b.circuit f.permit g.permit

/-- An operation has done the same to both and answers the same. -/
structure SameCourse (s : Traffic K) (out out' : Traffic K × List Effect × Reply V E) : Prop where
  twins : Twins s out.1 out'.1
  effects : out.2.1 = out'.2.1
  reply : out.2.2.ageless = out'.2.2.ageless

namespace Twins

/-! ### What makes up an operation -/

theorem book {c d : Circuit K} (h : Twins s a b) (hc : Advance a.clock a.circuit c effects)
    (hd : Advance b.clock b.circuit d effects) (hcd : c.ageless = d.ageless) :
    Twins s (a.book c effects) (b.book d effects) where
  clock_eq := h.clock_eq
  circuit := hcd
  flight := h.flight
  lag id f g hid hf hg := (h.lag id f g hid hf hg).turn hc.turn hd.turn

theorem land (h : Twins s a b) (id : Nat) : Twins s (a.land id) (b.land id) where
  clock_eq := h.clock_eq
  circuit := h.circuit
  flight other hother := by
    by_cases hne : id = other
    · rw [← hne, flight?_land_self, flight?_land_self]
    · rw [flight?_land_of_ne hne, flight?_land_of_ne hne]
      exact h.flight other hother
  lag other f g hother hf hg := h.lag other f g hother (flight?_of_land hf) (flight?_of_land hg)

theorem board {p q : Permit} (h : Twins s a b) (hlag : Lag a.circuit b.circuit p q)
    (ha : a.flight? id = none) (hb : b.flight? id = none) :
    Twins s (a.board id p) (b.board id q) where
  clock_eq := h.clock_eq
  circuit := h.circuit
  flight other hother := by
    by_cases hne : id = other
    · rw [← hne, flight?_board_of_none ha, flight?_board_of_none hb]
      exact ⟨nofun, nofun⟩
    · rw [flight?_board_of_ne hne, flight?_board_of_ne hne]
      exact h.flight other hother
  lag other f g hother hf hg := by
    by_cases hne : id = other
    · rw [← hne, flight?_board_of_none ha] at hf
      rw [← hne, flight?_board_of_none hb] at hg
      cases hf
      cases hg
      exact hlag
    · rw [flight?_board_of_ne hne] at hf hg
      exact h.lag other f g hother hf hg

/-- An old call that ends without a trace was no part of the twins. -/
theorem landOld (h : Twins s a b) (hid : s.flight? id ≠ none) : Twins s (a.land id) b where
  clock_eq := h.clock_eq
  circuit := h.circuit
  flight other hother := by
    have hne : id ≠ other := by
      rintro rfl
      exact hid hother
    rw [flight?_land_of_ne hne]
    exact h.flight other hother
  lag other f g hother hf hg := h.lag other f g hother (flight?_of_land hf) hg

theorem exists_flight (h : Twins s a b) (hid : s.flight? id = none) (ha : a.flight? id = some f) :
    ∃ g, b.flight? id = some g := by
  refine Option.ne_none_iff_exists'.1 fun hb => ?_
  rw [(h.flight id hid).2 hb] at ha
  cases ha

/-! ### Operations -/

/-- An operation of the circuit that cannot tell its age does the same to both. -/
theorem tells {op : Circuit K → Instant → Circuit K × List Effect} (h : Twins s a b)
    (hop : ∀ (c : Circuit K) g t now, SameButAge (op c now) (op (c.aged g t) now))
    (hadvance : ∀ (c : Circuit K) now, Advance now c (op c now).1 (op c now).2)
    (reply : Reply V E) :
    SameCourse s
      (a.book (op a.circuit a.clock).1 (op a.circuit a.clock).2, (op a.circuit a.clock).2, reply)
      (b.book (op b.circuit b.clock).1 (op b.circuit b.clock).2, (op b.circuit b.clock).2,
        reply) := by
  have hsame := hop a.circuit b.circuit.generation b.circuit.lastChange b.clock
  have hb := hadvance b.circuit b.clock
  have ha := hadvance a.circuit a.clock
  rw [← Circuit.eq_aged h.circuit] at hsame
  rw [← hsame.rest] at hb ⊢
  rw [h.clock_eq] at ha ⊢
  exact ⟨h.book (h.clock_eq ▸ ha) hb hsame.circuit, rfl, rfl⟩

/-- What arrives at both is let in by both or turned away by both. -/
theorem arrive (h : Twins s a b) (ha : a.flight? id = none) (hb : b.flight? id = none) :
    SameCourse (V := V) (E := E) s (a.start id) (b.start id) := by
  have hsame := Circuit.arrive_aged a.circuit b.circuit.generation b.circuit.lastChange b.clock
  rw [← Circuit.eq_aged h.circuit] at hsame
  obtain ⟨hcircuit, heffects, hanswer⟩ := hsame
  rw [← h.clock_eq] at hcircuit heffects hanswer
  have hadvance := b.circuit.advance_arrive b.clock
  rw [← h.clock_eq, ← heffects] at hadvance
  have hbook := h.book (a.circuit.advance_arrive a.clock) (h.clock_eq ▸ hadvance) hcircuit
  cases hp : (a.circuit.arrive a.clock).2.2 with
  | ok p =>
    cases hq : (b.circuit.arrive a.clock).2.2 with
    | error e =>
      rw [hp, hq] at hanswer
      cases hanswer
    | ok q =>
      rw [hp, hq] at hanswer
      have htrial : p.trial = q.trial := Except.ok.inj hanswer
      rw [start_of_ok ha hp, start_of_ok hb (h.clock_eq ▸ hq), ← h.clock_eq, ← heffects]
      exact ⟨hbook.board (.granted hp hq htrial) ha hb, rfl, rfl⟩
  | error e =>
    cases hq : (b.circuit.arrive a.clock).2.2 with
    | ok q =>
      rw [hp, hq] at hanswer
      cases hanswer
    | error e' =>
      rw [hp, hq] at hanswer
      cases hanswer
      rw [Circuit.arrive_fst_of_error hp, Circuit.arrive_fst_of_error hq] at hbook
      rw [start_of_error ha hp, start_of_error hb (h.clock_eq ▸ hq), ← h.clock_eq, ← heffects]
      exact ⟨hbook, rfl, rfl⟩

theorem start (h : Twins s a b) (hid : s.flight? id = none) :
    SameCourse (V := V) (E := E) s (a.start id) (b.start id) := by
  cases ha : a.flight? id with
  | none => exact h.arrive ha ((h.flight id hid).1 ha)
  | some f =>
    obtain ⟨g, hb⟩ := h.exists_flight hid ha
    rw [start_of_taken ha, start_of_taken hb]
    exact ⟨h, rfl, rfl⟩

theorem finish (h : Twins s a b) (hid : s.flight? id = none) (action : Action V E) :
    SameCourse s (a.finish kindOf id action) (b.finish kindOf id action) := by
  cases ha : a.flight? id with
  | none =>
    rw [finish_of_none ha, finish_of_none ((h.flight id hid).1 ha)]
    exact ⟨h, rfl, rfl⟩
  | some f =>
    obtain ⟨g, hb⟩ := h.exists_flight hid ha
    have hlag := h.lag id f g hid ha hb
    rw [Circuit.eq_aged h.circuit] at hlag
    have hsame := Circuit.settle_aged hlag b.clock kindOf action
    have hadvance := a.circuit.advance_settle b.clock f.permit kindOf action
    have hadvance' := b.circuit.advance_settle b.clock g.permit kindOf action
    rw [← Circuit.eq_aged h.circuit] at hsame
    rw [finish_of_some ha, finish_of_some hb, h.clock_eq, ← hsame.rest]
    rw [← hsame.rest] at hadvance'
    exact ⟨(h.land id).book (h.clock_eq ▸ hadvance) hadvance' hsame.circuit, rfl, rfl⟩

theorem drop (h : Twins s a b) (hid : s.flight? id = none) :
    SameCourse (V := V) (E := E) s (a.drop id) (b.drop id) := by
  cases ha : a.flight? id with
  | none =>
    rw [drop_of_none ha, drop_of_none ((h.flight id hid).1 ha)]
    exact ⟨h, rfl, rfl⟩
  | some f =>
    obtain ⟨g, hb⟩ := h.exists_flight hid ha
    have hlag := h.lag id f g hid ha hb
    rw [Circuit.eq_aged h.circuit] at hlag
    have hsame := Circuit.abandon_aged hlag b.clock
    have hadvance := a.circuit.advance_abandon b.clock f.permit
    have hadvance' := b.circuit.advance_abandon b.clock g.permit
    rw [← Circuit.eq_aged h.circuit] at hsame
    rw [drop_of_some ha, drop_of_some hb, h.clock_eq, ← hsame.rest]
    rw [← hsame.rest] at hadvance'
    exact ⟨(h.land id).book (h.clock_eq ▸ hadvance) hadvance' hsame.circuit, rfl, rfl⟩

/-- An operation cannot tell twins apart if it touches no call of `s`. -/
theorem perform (kindOf : E → K) (h : Twins s a b) {op : Op K V E} (hop : s.touches op = false) :
    SameCourse s (a.perform kindOf op) (b.perform kindOf op) := by
  cases op with
  | advance nanos =>
    exact ⟨⟨congrArg (· + nanos) h.clock_eq, h.circuit, h.flight, h.lag⟩, rfl, rfl⟩
  | start id => exact h.start (flight?_eq_none_of_touches hop rfl)
  | finish id action => exact h.finish (flight?_eq_none_of_touches hop rfl) action
  | drop id => exact h.drop (flight?_eq_none_of_touches hop rfl)
  | bindClassifier f =>
    have hsame := Circuit.bindClassifier_aged a.circuit b.circuit.generation b.circuit.lastChange f
    rw [← Circuit.eq_aged h.circuit] at hsame
    exact ⟨h.book (a.circuit.advance_bindClassifier a.clock f)
      (b.circuit.advance_bindClassifier b.clock f) hsame.circuit, rfl,
      congrArg Reply.bound hsame.rest⟩
  | snapshot =>
    have hsame := Circuit.snapshot_aged a.circuit b.circuit.generation b.circuit.lastChange b.clock
    rw [← Circuit.eq_aged h.circuit] at hsame
    obtain ⟨hcircuit, hview⟩ := hsame
    have hadvance := a.circuit.advance_snapshot a.clock
    have hbook := h.book hadvance (b.circuit.advance_snapshot b.clock) (h.clock_eq ▸ hcircuit)
    exact ⟨hbook, rfl, congrArg Reply.viewed (h.clock_eq ▸ hview)⟩
  | forceOpen =>
    exact h.tells Circuit.forceOpen_aged Circuit.advance_forceOpen .done
  | forceClosed => exact h.tells Circuit.forceClosed_aged Circuit.advance_forceClosed .done
  | reset => exact h.tells Circuit.forceClosed_aged Circuit.advance_forceClosed .done

theorem step (kindOf : E → K) (h : Twins s a b) {op : Op K V E} (hop : s.touches op = false) :
    Twins s (a.step kindOf op) (b.step kindOf op) := (h.perform kindOf hop).twins

/-! ### Runs -/

theorem indistinct (kindOf : E → K) (h : Twins s a b) {told : List Effect}
    (hj : a.journal = told ++ b.journal) : Indistinct (V := V) kindOf s told a b where
  circuit := h.circuit
  journal := hj
  next _ hop := ⟨(h.perform kindOf hop).reply, (h.perform kindOf hop).effects⟩

theorem journal_step (kindOf : E → K) (h : Twins s a b) {told : List Effect} {op : Op K V E}
    (hop : s.touches op = false) (hj : a.journal = told ++ b.journal) :
    (a.step kindOf op).journal = told ++ (b.step kindOf op).journal := by
  have heffects : a.effects kindOf op = b.effects kindOf op := (h.perform kindOf hop).effects
  rw [(course_step kindOf a op).journal, (course_step kindOf b op).journal, hj, heffects,
    List.append_assoc]

/-- Twins stay twins as long as no old call is touched. -/
theorem run (kindOf : E → K) {told : List Effect} {ops : List (Op K V E)} (h : Twins s a b)
    (hj : a.journal = told ++ b.journal) (hops : ∀ op ∈ ops, s.touches op = false) :
    Indistinct (V := V) kindOf s told (a.run kindOf ops) (b.run kindOf ops) := by
  induction ops generalizing a b with
  | nil => exact h.indistinct kindOf hj
  | cons op ops ih =>
    obtain ⟨hop, hops⟩ := List.forall_mem_cons.1 hops
    exact ih (h.step kindOf hop) (h.journal_step kindOf hop hj) hops

end Twins

/-! ## Old calls -/

/-- Every call of `s` that is still in flight has seen a transition. -/
def Outlived (s a : Traffic K) : Prop :=
  ∀ id f, s.flight? id ≠ none → a.flight? id = some f → f.epoch < a.transitions

theorem Outlived.step {op : Op K V E} (h : Outlived s a)
    (hop : ∀ id, op = .start id → s.flight? id = none) : Outlived s (a.step kindOf op) := by
  intro id f hid hf
  have hne : op ≠ .start id := fun heq => hid (hop id heq)
  exact Nat.lt_of_lt_of_le (h id f hid (flight?_of_step hf hne)) (transitions_le_step kindOf a op)

/-- An operation that touches an old call and does not start it ends it. -/
theorem exists_ended_of_touches {op : Op K V E} (h : s.touches op = true)
    (hop : ∀ id, op = .start id → s.flight? id = none) :
    ∃ id, op.ended? = some id ∧ s.flight? id ≠ none := by
  cases op with
  | start id =>
    have hsome : (s.flight? id).isSome = true := h
    rw [hop id rfl] at hsome
    cases hsome
  | finish id action => exact ⟨id, rfl, Option.ne_none_iff_isSome.2 h⟩
  | drop id => exact ⟨id, rfl, Option.ne_none_iff_isSome.2 h⟩
  | advance nanos => cases h
  | bindClassifier f => cases h
  | snapshot => cases h
  | forceOpen => cases h
  | forceClosed => cases h
  | reset => cases h

/-- The end of a call that has seen a transition does no more than to end it, and neither does the
end of a call that is not in flight. -/
theorem step_of_outlived (kindOf : E → K) (hs : a.Sound) (hb : a.transitions < UInt64.size)
    (h : Outlived s a) {op : Op K V E} (hid : s.flight? id ≠ none) (hop : op.ended? = some id) :
    (a.step kindOf op = a ∨ a.step kindOf op = a.land id) ∧ a.effects kindOf op = [] := by
  cases ha : a.flight? id with
  | none =>
    obtain ⟨action, rfl⟩ | rfl := Op.eq_of_ended? hop
    · have hnone : a.finish kindOf id action = (a, [], .misnamed) := finish_of_none ha action
      exact ⟨.inl (congrArg Prod.fst hnone), congrArg (·.2.1) hnone⟩
    · have hnone := drop_of_none (V := V) (E := E) ha
      exact ⟨.inl (congrArg Prod.fst hnone), congrArg (·.2.1) hnone⟩
  | some f =>
    have hne : f.epoch ≠ a.transitions := Nat.ne_of_lt (h id f hid ha)
    obtain ⟨action, rfl⟩ | rfl := Op.eq_of_ended? hop
    · have hstale : (a.finish kindOf id action).1 = a.land id ∧
          (a.finish kindOf id action).2.1 = [] := finish_of_stale hs hb ha hne action
      exact ⟨.inr hstale.1, hstale.2⟩
    · obtain ⟨hland, hnone⟩ := drop_of_stale (V := V) (E := E) hs hb ha hne
      exact ⟨.inr hland, hnone⟩

/-- Twins stay twins whatever becomes of old calls that have seen a transition. -/
theorem Twins.run_displaced (kindOf : E → K) {told : List Effect} {ops : List (Op K V E)}
    (h : Twins s a b) (hj : a.journal = told ++ b.journal) (hs : a.Sound) (ho : Outlived s a)
    (hops : ∀ op ∈ ops, ∀ id, op = .start id → s.flight? id = none)
    (hb : (a.run kindOf ops).transitions < UInt64.size) :
    Indistinct (V := V) kindOf s told (a.run kindOf ops)
      (b.run kindOf (ops.filter fun op => !s.touches op)) := by
  induction ops generalizing a b with
  | nil => exact h.indistinct kindOf hj
  | cons op ops ih =>
    obtain ⟨hop, hops⟩ := List.forall_mem_cons.1 hops
    have hs' : (a.step kindOf op).Sound := hs.step op
    have ho' : Outlived s (a.step kindOf op) := ho.step hop
    cases htouch : s.touches op with
    | false =>
      rw [List.filter_cons_of_pos (by rw [htouch]; rfl)]
      exact ih (h.step kindOf htouch) (h.journal_step kindOf htouch hj) hs' ho' hops hb
    | true =>
      rw [List.filter_cons_of_neg (by rw [htouch]; decide)]
      obtain ⟨id, hended, hid⟩ := exists_ended_of_touches htouch hop
      have hle : a.transitions ≤ (a.run kindOf (op :: ops)).transitions :=
        transitions_le_run kindOf a (op :: ops)
      obtain ⟨hstep, hnone⟩ :=
        step_of_outlived kindOf hs (Nat.lt_of_le_of_lt hle hb) ho hid hended
      have hj' : (a.step kindOf op).journal = told ++ b.journal := by
        rw [(course_step kindOf a op).journal, hnone, List.append_nil, hj]
      refine ih ?_ hj' hs' ho' hops hb
      rcases hstep with hstep | hstep
      · rw [hstep]
        exact h
      · rw [hstep]
        exact h.landOld hid

end Flights

/-! ## Clearing -/

/-- What clearing leaves of a circuit is a new one, but for its age. -/
theorem ageless_forceClosed (hs : s.Sound) :
    (s.circuit.forceClosed s.clock).1.ageless = s.renewed.circuit.ageless := by
  have hc := hs.coherent
  by_cases h : s.circuit.state = .closed
  · have hopened := hc.unopened h
    have hpublished := hc.published_eq.trans h
    simp only [Circuit.forceClosed, Circuit.transition_self h, Circuit.ageless, renewed,
      Circuit.create, h, hopened, hpublished]
  · simp only [Circuit.forceClosed, Circuit.transition, h, ↓reduceIte, Circuit.ageless, renewed,
      Circuit.create, Circuit.openedAfter]

theorem step_of_clearing {clear : Op K V E} (h : clear.isClearing = true) :
    s.step kindOf clear =
      s.book (s.circuit.forceClosed s.clock).1 (s.circuit.forceClosed s.clock).2 := by
  cases clear with
  | forceClosed => rfl
  | reset => rfl
  | _ => cases h

theorem twins_renewed (hs : s.Sound) {clear : Op K V E} (h : clear.isClearing = true) :
    Twins s (s.step kindOf clear) s.renewed := by
  rw [step_of_clearing h]
  exact
    { clock_eq := rfl
      circuit := ageless_forceClosed hs
      flight := fun id hid => ⟨fun _ => rfl, fun _ => hid⟩
      lag := fun _ _ _ hid hf _ => nomatch hid.symm.trans hf }

/-- Unless the circuit was closed, to clear it is a transition, which all calls in flight have
seen. -/
theorem outlived_of_clearing (hs : s.Sound) {clear : Op K V E} (h : clear.isClearing = true)
    (hne : s.circuit.state ≠ .closed) : Outlived s (s.step kindOf clear) := by
  have hclosed : (s.step kindOf clear).circuit.state = .closed := by
    rw [step_of_clearing h]
    exact Circuit.state_forceClosed
  have ht : (s.step kindOf clear).transitions = s.transitions + 1 :=
    transitions_of_state_ne (by rw [hclosed]; exact hne.symm)
  intro id f _ hf
  rw [step_of_clearing h] at hf
  have hle := hs.epoch_le f (mem_of_flight? hf)
  omega

/-- **A circuit that has been cleared is like new.** Whatever happened before, a run that touches
none of the calls that were in flight then goes as it would with a new circuit. If the circuit was
not closed, those calls may end at any point of the run, and it still goes as it would with a new
circuit that never heard of them. -/
theorem cleared_like_new (kindOf : E → K) (name : String) (policy : Policy) (now : Instant)
    (before : List (Op K V E)) (clear : Op K V E) (later : List (Op K V E)) :
    clear.isClearing = true →
      let s := (fresh name policy now).run kindOf before
      let cleared := s.step kindOf clear
      ((∀ op ∈ later, s.touches op = false) →
        Indistinct (V := V) kindOf s cleared.journal (cleared.run kindOf later)
          (s.renewed.run kindOf later)) ∧
      (s.circuit.state ≠ .closed → (∀ op ∈ later, ∀ id, op = .start id → s.flight? id = none) →
        (cleared.run kindOf later).transitions < UInt64.size →
        Indistinct (V := V) kindOf s cleared.journal (cleared.run kindOf later)
          (s.renewed.run kindOf (later.filter fun op => !s.touches op))) := by
  intro hclear s cleared
  have hs : s.Sound := sound_run name policy now before
  have htwins : Twins s cleared s.renewed := twins_renewed hs hclear
  have hjournal : cleared.journal = cleared.journal ++ s.renewed.journal :=
    (List.append_nil _).symm
  constructor
  · exact htwins.run kindOf hjournal
  · intro hne hstarts hb
    have hout : Outlived s cleared := outlived_of_clearing hs hclear hne
    exact htwins.run_displaced kindOf hjournal (hs.step clear) hout hstarts hb

/-- The call `1` is the trial of a circuit that was opened by hand with the call `0` in flight. -/
def midTrial : List (Op Unit Unit Unit) :=
  [.start 0, .forceOpen, .advance Policy.standard.resetTimeout.nanos, .start 1]

/-- The trial comes to its end between the start and the end of a new call. -/
def aftermath : List (Op Unit Unit Unit) :=
  [.start 2, .finish 1 (.ok ()), .finish 2 (.error ()), .drop 0]

/-- After a reset during a trial, the failure of a new call opens the circuit, with the end of the
trial in between or without. -/
theorem cleared_like_new_midTrial :
    let s : Traffic Unit := (fresh "db" .standard 0).run id midTrial
    let cleared := s.step id (.reset : Op Unit Unit Unit)
    let plain : List (Op Unit Unit Unit) := [.start 2, .finish 2 (.error ())]
    s.circuit.state = .halfOpen ∧ (s.renewed.run id plain).circuit.state = .opened ∧
      Indistinct (V := Unit) id s cleared.journal (cleared.run id plain) (s.renewed.run id plain) ∧
      Indistinct (V := Unit) id s cleared.journal (cleared.run id aftermath)
        (s.renewed.run id plain) := by
  intro s cleared plain
  obtain ⟨huntouched, -⟩ := cleared_like_new id "db" .standard 0 midTrial .reset plain rfl
  obtain ⟨-, hdisplaced⟩ := cleared_like_new id "db" .standard 0 midTrial .reset aftermath rfl
  have hstarts : ∀ op ∈ aftermath, ∀ id, op = .start id → s.flight? id = none := by
    intro op hop id heq
    subst heq
    have hid : id = 2 := by simpa [aftermath] using hop
    subst hid
    rfl
  exact ⟨by decide, by decide, huntouched (by decide), hdisplaced (by decide) hstarts (by decide)⟩

end Traffic

end Breaker
