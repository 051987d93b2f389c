import Breaker.Proofs.Traffic
import Mathlib.Data.List.Pairwise

/-!
# Sound traffic

`Sound` is the invariant of a circuit under traffic. The generation is the
number of transitions, as far as 64 bits hold it, and a permit carries the
generation of the epoch in which its call was admitted. A call of the present
epoch is an ordinary one of a closed circuit or the only trial of a half-open
one, and an opened circuit has none. Every run from a fresh circuit is sound
(`sound_run`), however many transitions it makes; only to conclude from a
generation to an epoch there must have been fewer than `2 ^ 64` of them
(`Sound.generation_eq_iff`).
-/

namespace Breaker.Traffic

open Circuit (Advance Coherent)

variable {K V E : Type} {kindOf : E → K} {s s' : Traffic K} {id : Nat} {f : Flight}
  {effects : List Effect}

/-! ## What a step can do -/

/-- `s'` and the effects come from `s` by one step. -/
inductive Course (s s' : Traffic K) (effects : List Effect) : Prop where
  | waits (nanos : Nat) (after : s' = { s with clock := s.clock + nanos }) (none : effects = [])
  | tells (c : Circuit K) (advance : Advance s.clock s.circuit c effects)
      (after : s' = s.book c effects)
  | boards (id : Nat) (p : Permit) (named : s.flight? id = none)
      (granted : (s.circuit.arrive s.clock).2.2 = .ok p)
      (told : effects = (s.circuit.arrive s.clock).2.1)
      (after : s' = (s.book (s.circuit.arrive s.clock).1 effects).board id p)
  | lands (id : Nat) (f : Flight) (c : Circuit K) (named : s.flight? id = some f)
      (advance : Advance s.clock s.circuit c effects) (after : s' = (s.land id).book c effects)

theorem Course.idle : Course s s [] := .waits 0 rfl rfl

theorem course_start (s : Traffic K) (id : Nat) :
    Course s (s.start id : Traffic K × List Effect × Reply V E).1
      (s.start id : Traffic K × List Effect × Reply V E).2.1 := by
  cases hid : s.flight? id with
  | some f =>
    rw [start_of_taken hid]
    exact .idle
  | none =>
    cases h : (s.circuit.arrive s.clock).2.2 with
    | ok p =>
      rw [start_of_ok hid h]
      exact .boards id p hid h rfl rfl
    | error e =>
      rw [start_of_error hid h]
      have ha := s.circuit.advance_arrive s.clock
      rw [Circuit.arrive_fst_of_error h] at ha
      exact .tells s.circuit ha rfl

theorem course_finish (s : Traffic K) (id : Nat) (action : Action V E) :
    Course s (s.finish kindOf id action).1 (s.finish kindOf id action).2.1 := by
  cases hid : s.flight? id with
  | some f =>
    rw [finish_of_some hid]
    exact .lands id f _ hid (s.circuit.advance_settle s.clock f.permit kindOf action) rfl
  | none =>
    rw [finish_of_none hid]
    exact .idle

theorem course_drop (s : Traffic K) (id : Nat) :
    Course s (s.drop id : Traffic K × List Effect × Reply V E).1
      (s.drop id : Traffic K × List Effect × Reply V E).2.1 := by
  cases hid : s.flight? id with
  | some f =>
    rw [drop_of_some hid]
    exact .lands id f _ hid (s.circuit.advance_abandon s.clock f.permit) rfl
  | none =>
    rw [drop_of_none hid]
    exact .idle

theorem course_step (kindOf : E → K) (s : Traffic K) (op : Op K V E) :
    Course s (s.step kindOf op) (s.effects kindOf op) := by
  cases op with
  | advance nanos => exact .waits nanos rfl rfl
  | start id => exact course_start s id
  | finish id action => exact course_finish s id action
  | drop id => exact course_drop s id
  | bindClassifier f => exact .tells _ (s.circuit.advance_bindClassifier s.clock f) rfl
  | snapshot => exact .tells _ (s.circuit.advance_snapshot s.clock) rfl
  | forceOpen => exact .tells _ (s.circuit.advance_forceOpen s.clock) rfl
  | forceClosed => exact .tells _ (s.circuit.advance_forceClosed s.clock) rfl
  | reset => exact .tells _ (s.circuit.advance_forceClosed s.clock) rfl

namespace Course

theorem advance (h : Course s s' effects) : Advance s.clock s.circuit s'.circuit effects := by
  cases h with
  | waits nanos after none =>
    subst after none
    exact .refl _ rfl
  | tells c advance after =>
    subst after
    exact advance
  | boards id p named granted told after =>
    subst after told
    exact s.circuit.advance_arrive s.clock
  | lands id f c named advance after =>
    subst after
    exact advance

theorem transitions (h : Course s s' effects) :
    s'.transitions = s.transitions + Effect.switches effects := by
  cases h with
  | waits nanos after none =>
    subst after none
    rfl
  | tells c advance after => rw [after, transitions_book]
  | boards id p named granted told after => rw [after, transitions_board, transitions_book]
  | lands id f c named advance after => rw [after, transitions_book, transitions_land]

theorem clock_le (h : Course s s' effects) : s.clock ≤ s'.clock := by
  cases h with
  | waits nanos after none =>
    rw [after]
    exact Nat.le_add_right ..
  | tells c advance after => rw [after]; exact Nat.le_refl _
  | boards id p named granted told after => rw [after]; exact Nat.le_refl _
  | lands id f c named advance after => rw [after]; exact Nat.le_refl _

/-- `f` has been admitted by the step. -/
structure Boarded (s s' : Traffic K) (f : Flight) : Prop where
  id_ne : ∀ g ∈ s.inFlight, g.id ≠ f.id
  granted : (s.circuit.arrive s.clock).2.2 = .ok f.permit
  circuit_eq : s'.circuit = (s.circuit.arrive s.clock).1
  epoch_eq : f.epoch = s'.transitions
  inFlight_eq : s'.inFlight = s.inFlight ++ [f]

/-- A step admits one call, or it admits none. -/
theorem inFlight (h : Course s s' effects) :
    s'.inFlight.Sublist s.inFlight ∨ ∃ f, Boarded s s' f := by
  cases h with
  | waits nanos after none =>
    rw [after]
    exact .inl (.refl _)
  | tells c advance after =>
    rw [after]
    exact .inl (.refl _)
  | boards id p named granted told after =>
    rw [after]
    exact .inr ⟨_, id_ne_of_flight?_eq_none named, granted, rfl, rfl, rfl⟩
  | lands id f c named advance after =>
    rw [after]
    exact .inl List.filter_sublist

theorem mem (h : Course s s' effects) (hf : f ∈ s'.inFlight) :
    f ∈ s.inFlight ∨ Boarded s s' f := by
  rcases h.inFlight with hsub | ⟨g, hg⟩
  · exact .inl (hsub.subset hf)
  · rw [hg.inFlight_eq, List.mem_append, List.mem_singleton] at hf
    rcases hf with hf | rfl
    · exact .inl hf
    · exact .inr hg

theorem Boarded.eq {g : Flight} (hf : Boarded s s' f) (hg : Boarded s s' g) : f = g := by
  have h := hf.inFlight_eq.symm.trans hg.inFlight_eq
  simpa using h

end Course

/-! ## The invariant -/

structure Sound (s : Traffic K) : Prop where
  coherent : s.circuit.Coherent s.clock
  generation_eq : s.circuit.generation = UInt64.ofNat s.transitions
  ids : s.inFlight.Pairwise fun f g => f.id ≠ g.id
  epoch_le : ∀ f ∈ s.inFlight, f.epoch ≤ s.transitions
  stamp : ∀ f ∈ s.inFlight, f.permit.generation = UInt64.ofNat f.epoch
  current : ∀ f ∈ s.inFlight, f.epoch = s.transitions →
    (s.circuit.state = .closed ∧ f.permit.trial = false) ∨
      (s.circuit.state = .halfOpen ∧ f.permit.trial = true)
  alone : s.circuit.state = .halfOpen → ∀ f ∈ s.inFlight, ∀ g ∈ s.inFlight,
    f.epoch = s.transitions → g.epoch = s.transitions → f = g

theorem sound_fresh (name : String) (policy : Policy) (now : Instant) :
    (fresh name policy now : Traffic K).Sound where
  coherent := .create name policy now
  generation_eq := rfl
  ids := .nil
  epoch_le := List.forall_mem_nil _
  stamp := List.forall_mem_nil _
  current := List.forall_mem_nil _
  alone _ := List.forall_mem_nil _

namespace Sound

/-- The generation goes along with the transitions. -/
theorem generation_course (hs : s.Sound) (h : Course s s' effects) :
    s'.circuit.generation = UInt64.ofNat s'.transitions := by
  rw [h.transitions]
  cases h.advance.turn with
  | stays switches state generation =>
    rw [switches, generation, hs.generation_eq, Nat.add_zero]
  | turns switches state generation =>
    rw [switches, generation, hs.generation_eq, UInt64.ofNat_add]
    rfl

/-- A call of the epoch after a step that was in flight before it saw no transition. -/
theorem stays_of_epoch (hs : s.Sound) (h : Course s s' effects) (hf : f ∈ s.inFlight)
    (he : f.epoch = s'.transitions) :
    f.epoch = s.transitions ∧ s'.circuit.state = s.circuit.state := by
  have hle := hs.epoch_le f hf
  have ht := h.transitions
  cases h.advance.turn with
  | stays switches state generation => exact ⟨by omega, state⟩
  | turns switches state generation => omega

/-- A call that is admitted into a half-open circuit is the first one of its epoch. -/
theorem epoch_ne_of_boarded (hs : s.Sound) (h : Course s s' effects) {g : Flight}
    (hg : Course.Boarded s s' g) (hst : s'.circuit.state = .halfOpen) (hf : f ∈ s.inFlight) :
    f.epoch ≠ s'.transitions := by
  intro he
  have hstay := (hs.stays_of_epoch h hf he).2
  rcases (Circuit.permit_of_arrive hg.granted).2 with ⟨hcl, -, -⟩ | ⟨hop, -, -⟩
  · rw [hstay, hcl] at hst
    cases hst
  · rw [hstay, hop] at hst
    cases hst

theorem course (hs : s.Sound) (h : Course s s' effects) : s'.Sound where
  coherent := (h.advance.coherent hs.coherent).mono h.clock_le
  generation_eq := hs.generation_course h
  ids := by
    rcases h.inFlight with hsub | ⟨g, hg⟩
    · exact hs.ids.sublist hsub
    · rw [hg.inFlight_eq, List.pairwise_append]
      refine ⟨hs.ids, List.pairwise_singleton .., ?_⟩
      intro f hf g' hg'
      rw [List.mem_singleton.1 hg']
      exact hg.id_ne f hf
  epoch_le f hf := by
    rcases h.mem hf with hf | hb
    · exact Nat.le_trans (hs.epoch_le f hf) (h.transitions ▸ Nat.le_add_right ..)
    · exact Nat.le_of_eq hb.epoch_eq
  stamp f hf := by
    rcases h.mem hf with hf | hb
    · exact hs.stamp f hf
    · rw [(Circuit.permit_of_arrive hb.granted).1, ← hb.circuit_eq, hs.generation_course h,
        hb.epoch_eq]
  current f hf he := by
    rcases h.mem hf with hf | hb
    · obtain ⟨he', hst⟩ := hs.stays_of_epoch h hf he
      rw [hst]
      exact hs.current f hf he'
    · rw [hb.circuit_eq]
      rcases (Circuit.permit_of_arrive hb.granted).2 with ⟨hcl, heq, ht⟩ | ⟨-, hho, ht⟩
      · exact .inl ⟨heq.symm ▸ hcl, ht⟩
      · exact .inr ⟨hho, ht⟩
  alone hst f hf g hg hef heg := by
    rcases h.mem hf with hf | hbf <;> rcases h.mem hg with hg | hbg
    · obtain ⟨hef', hstay⟩ := hs.stays_of_epoch h hf hef
      obtain ⟨heg', -⟩ := hs.stays_of_epoch h hg heg
      exact hs.alone (hstay ▸ hst) f hf g hg hef' heg'
    · exact absurd hef (hs.epoch_ne_of_boarded h hbg hst hf)
    · exact absurd heg (hs.epoch_ne_of_boarded h hbf hst hg)
    · exact hbf.eq hbg

theorem step (hs : s.Sound) (op : Op K V E) : (s.step kindOf op).Sound :=
  hs.course (course_step kindOf s op)

theorem run (hs : s.Sound) (ops : List (Op K V E)) : (s.run kindOf ops).Sound := by
  induction ops generalizing s with
  | nil => exact hs
  | cons op ops ih => exact ih (hs.step op)

theorem eq_of_id_eq (hs : s.Sound) {g : Flight} (hf : f ∈ s.inFlight) (hg : g ∈ s.inFlight)
    (h : f.id = g.id) : f = g := by
  have symm : Std.Symm fun f g : Flight => f.id ≠ g.id := ⟨fun _ _ hne => hne.symm⟩
  by_contra hne
  exact hs.ids.forall hf hg hne h

/-! ## Generations and epochs -/

/-- Before the generation comes round again, it tells the epochs apart. -/
theorem generation_eq_iff (hs : s.Sound) (hb : s.transitions < UInt64.size) (hf : f ∈ s.inFlight) :
    s.circuit.generation = f.permit.generation ↔ f.epoch = s.transitions := by
  have hle := hs.epoch_le f hf
  rw [hs.generation_eq, hs.stamp f hf]
  constructor
  · intro h
    have h' := congrArg UInt64.toNat h
    rw [UInt64.toNat_ofNat_of_lt' hb, UInt64.toNat_ofNat_of_lt' (Nat.lt_of_le_of_lt hle hb)] at h'
    exact h'.symm
  · intro h
    rw [h]

end Sound

/-! ## Runs -/

theorem sound_run (name : String) (policy : Policy) (now : Instant) (ops : List (Op K V E)) :
    ((fresh name policy now).run kindOf ops).Sound := (sound_fresh name policy now).run ops

theorem transitions_le_step (kindOf : E → K) (s : Traffic K) (op : Op K V E) :
    s.transitions ≤ (s.step kindOf op).transitions := by
  rw [(course_step kindOf s op).transitions]
  exact Nat.le_add_right ..

theorem transitions_le_run (kindOf : E → K) (s : Traffic K) (ops : List (Op K V E)) :
    s.transitions ≤ (s.run kindOf ops).transitions := by
  induction ops generalizing s with
  | nil => exact Nat.le_refl _
  | cons op ops ih => exact Nat.le_trans (transitions_le_step kindOf s op) (ih (s.step kindOf op))

theorem clock_le_run (kindOf : E → K) (s : Traffic K) (ops : List (Op K V E)) :
    s.clock ≤ (s.run kindOf ops).clock := by
  induction ops generalizing s with
  | nil => exact Nat.le_refl _
  | cons op ops ih => exact Nat.le_trans (course_step kindOf s op).clock_le (ih (s.step kindOf op))

theorem name_run (kindOf : E → K) (s : Traffic K) (ops : List (Op K V E)) :
    (s.run kindOf ops).circuit.name = s.circuit.name := by
  induction ops generalizing s with
  | nil => rfl
  | cons op ops ih => exact (ih (s.step kindOf op)).trans (course_step kindOf s op).advance.name_eq

theorem policy_run (kindOf : E → K) (s : Traffic K) (ops : List (Op K V E)) :
    (s.run kindOf ops).circuit.policy = s.circuit.policy := by
  induction ops generalizing s with
  | nil => rfl
  | cons op ops ih =>
    exact (ih (s.step kindOf op)).trans (course_step kindOf s op).advance.policy_eq

end Breaker.Traffic
