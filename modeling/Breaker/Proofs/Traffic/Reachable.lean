import Breaker.Json
import Breaker.Session.World
import Breaker.Proofs.Traffic.Sound

/-!
# Reachable circuits

`c.Reachable now permits` says that traffic on a circuit that was once fresh can
have led to `c` at `now` with just these permits out. Every operation that a
session makes on a circuit keeps it so: one that hands out a permit adds it to
the permits, and one that takes a permit back removes it.
-/

namespace Breaker

variable {K : Type}

/-- Traffic of the actions of a session has led from a fresh circuit to `s`. -/
def Traffic.Reached (s : Traffic K) : Prop :=
  ∃ name policy now, ∃ ops : List (Op K Json (Failure K)),
    s = (fresh name policy now).run Failure.kind ops

namespace Traffic

variable {s : Traffic K}

theorem reached_fresh (name : String) (policy : Policy) (now : Instant) :
    (fresh name policy now : Traffic K).Reached := ⟨name, policy, now, [], rfl⟩

theorem Reached.step (h : s.Reached) (op : Op K Json (Failure K)) :
    (s.step Failure.kind op).Reached := by
  obtain ⟨name, policy, now, ops, rfl⟩ := h
  exact ⟨name, policy, now, ops ++ [op], (run_snoc ..).symm⟩

theorem Reached.sound (h : s.Reached) : s.Sound := by
  obtain ⟨name, policy, now, ops, rfl⟩ := h
  exact sound_run name policy now ops

theorem exists_id_lt (l : List Flight) : ∃ n, ∀ f ∈ l, f.id < n := by
  induction l with
  | nil => exact ⟨0, List.forall_mem_nil _⟩
  | cons f l ih =>
    obtain ⟨n, hn⟩ := ih
    refine ⟨max n (f.id + 1), ?_⟩
    intro g hg
    rcases List.mem_cons.1 hg with rfl | hg
    · omega
    · have := hn g hg
      omega

/-- There is always a name for one more call. -/
theorem exists_flight?_eq_none (s : Traffic K) : ∃ id, s.flight? id = none := by
  obtain ⟨n, hn⟩ := exists_id_lt s.inFlight
  refine ⟨n, List.find?_eq_none.2 fun f hf => ?_⟩
  rw [beq_iff_eq]
  exact Nat.ne_of_lt (hn f hf)

theorem Sound.flight?_eq_some (hs : s.Sound) {f : Flight} (hf : f ∈ s.inFlight) :
    s.flight? f.id = some f := by
  cases h : s.flight? f.id with
  | some g => rw [hs.eq_of_id_eq (mem_of_flight? h) hf (id_of_flight? h)]
  | none => exact absurd rfl (id_ne_of_flight?_eq_none h f hf)

/-- A call that ends gives back its own permit and no other. -/
theorem Sound.perm_land (hs : s.Sound) {f : Flight} (hf : f ∈ s.inFlight) :
    s.inFlight.Perm (f :: (s.land f.id).inFlight) := by
  have hnodup : s.inFlight.Nodup := hs.ids.imp fun hne heq => hne (congrArg Flight.id heq)
  have hnot : f ∉ (s.land f.id).inFlight := fun h => (mem_land.1 h).2 rfl
  rw [List.perm_ext_iff_of_nodup hnodup (List.nodup_cons.2 ⟨hnot, hnodup.filter _⟩)]
  intro g
  rw [List.mem_cons, mem_land]
  constructor
  · intro hg
    by_cases hid : g.id = f.id
    · exact .inl (hs.eq_of_id_eq hg hf hid)
    · exact .inr ⟨hg, hid⟩
  · rintro (rfl | ⟨hg, -⟩)
    · exact hf
    · exact hg

end Traffic

namespace Circuit

open Traffic (start_of_ok start_of_error finish_of_some drop_of_some)

/-- Traffic can have led to `c` at `now` while the calls in flight hold these permits. -/
def Reachable (c : Circuit K) (now : Instant) (permits : List Permit) : Prop :=
  ∃ s : Traffic K, s.Reached ∧ s.circuit = c ∧ s.clock = now ∧
    (s.inFlight.map Flight.permit).Perm permits

variable {c : Circuit K} {now : Instant} {permits : List Permit} {p : Permit}

namespace Reachable

theorem perm {permits' : List Permit} (h : c.Reachable now permits)
    (hp : permits.Perm permits') : c.Reachable now permits' := by
  obtain ⟨s, hs, hc, hnow, hperm⟩ := h
  exact ⟨s, hs, hc, hnow, hperm.trans hp⟩

theorem create (name : String) (policy : Policy) (now : Instant) :
    (Circuit.create name policy now : Circuit K).Reachable now [] :=
  ⟨.fresh name policy now, Traffic.reached_fresh name policy now, rfl, rfl, .nil⟩

theorem later {now' : Instant} (h : c.Reachable now permits) (hle : now ≤ now') :
    c.Reachable now' permits := by
  obtain ⟨s, hs, rfl, rfl, hperm⟩ := h
  exact ⟨_, hs.step (.advance (now' - s.clock)), rfl, Nat.add_sub_of_le hle, hperm⟩

theorem arrive_ok (h : c.Reachable now permits) (hp : (c.arrive now).2.2 = .ok p) :
    (c.arrive now).1.Reachable now (p :: permits) := by
  obtain ⟨s, hs, rfl, rfl, hperm⟩ := h
  obtain ⟨id, hid⟩ := s.exists_flight?_eq_none
  refine ⟨_, hs.step (.start id), ?_⟩
  show (s.start id : Traffic K × List Effect × Reply Json (Failure K)).1.circuit = _ ∧
    (s.start id : Traffic K × List Effect × Reply Json (Failure K)).1.clock = _ ∧
    List.Perm ((s.start id : Traffic K × List Effect × Reply Json (Failure K)).1.inFlight.map _) _
  rw [start_of_ok hid hp]
  refine ⟨rfl, rfl, ?_⟩
  show ((s.inFlight ++ [_]).map Flight.permit).Perm _
  rw [List.map_append]
  exact (List.perm_append_comm.trans (hperm.cons p))

theorem arrive_error {e : OpenError} (h : c.Reachable now permits)
    (he : (c.arrive now).2.2 = .error e) : (c.arrive now).1.Reachable now permits := by
  rw [arrive_fst_of_error he]
  exact h

/-- The call that holds a permit. -/
theorem exists_flight (h : c.Reachable now (p :: permits)) :
    ∃ s : Traffic K, s.Reached ∧ s.circuit = c ∧ s.clock = now ∧ ∃ f : Flight, f.permit = p ∧
      s.flight? f.id = some f ∧ ((s.land f.id).inFlight.map Flight.permit).Perm permits := by
  obtain ⟨s, hs, hc, hnow, hperm⟩ := h
  obtain ⟨f, hf, rfl⟩ := List.mem_map.1 (hperm.mem_iff.2 List.mem_cons_self)
  have hland := (hs.sound.perm_land hf).map Flight.permit
  exact ⟨s, hs, hc, hnow, f, rfl, hs.sound.flight?_eq_some hf, (hland.symm.trans hperm).cons_inv⟩

theorem settle (h : c.Reachable now (p :: permits)) (action : Action Json (Failure K)) :
    (c.settle now p Failure.kind action).1.Reachable now permits := by
  obtain ⟨s, hs, rfl, rfl, f, rfl, hid, hperm⟩ := h.exists_flight
  refine ⟨_, hs.step (.finish f.id action), ?_⟩
  show (s.finish Failure.kind f.id action).1.circuit = _ ∧
    (s.finish Failure.kind f.id action).1.clock = _ ∧
    List.Perm ((s.finish Failure.kind f.id action).1.inFlight.map _) _
  rw [finish_of_some hid]
  exact ⟨rfl, rfl, hperm⟩

theorem abandon (h : c.Reachable now (p :: permits)) :
    (c.abandon now p).1.Reachable now permits := by
  obtain ⟨s, hs, rfl, rfl, f, rfl, hid, hperm⟩ := h.exists_flight
  refine ⟨_, hs.step (.drop f.id), ?_⟩
  show (s.drop f.id : Traffic K × List Effect × Reply Json (Failure K)).1.circuit = _ ∧
    (s.drop f.id : Traffic K × List Effect × Reply Json (Failure K)).1.clock = _ ∧
    List.Perm ((s.drop f.id : Traffic K × List Effect × Reply Json (Failure K)).1.inFlight.map _) _
  rw [drop_of_some hid]
  exact ⟨rfl, rfl, hperm⟩

theorem bindClassifier (h : c.Reachable now permits) (f : Classifier K) :
    (c.bindClassifier f).1.Reachable now permits := by
  obtain ⟨s, hs, rfl, rfl, hperm⟩ := h
  exact ⟨_, hs.step (.bindClassifier f), rfl, rfl, hperm⟩

theorem snapshot (h : c.Reachable now permits) : (c.snapshot now).1.Reachable now permits := by
  obtain ⟨s, hs, rfl, rfl, hperm⟩ := h
  exact ⟨_, hs.step .snapshot, rfl, rfl, hperm⟩

theorem forceOpen (h : c.Reachable now permits) : (c.forceOpen now).1.Reachable now permits := by
  obtain ⟨s, hs, rfl, rfl, hperm⟩ := h
  exact ⟨_, hs.step .forceOpen, rfl, rfl, hperm⟩

theorem forceClosed (h : c.Reachable now permits) :
    (c.forceClosed now).1.Reachable now permits := by
  obtain ⟨s, hs, rfl, rfl, hperm⟩ := h
  exact ⟨_, hs.step .forceClosed, rfl, rfl, hperm⟩

end Reachable

end Circuit

end Breaker
