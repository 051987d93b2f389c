import Breaker.Proofs.Traffic.Trial

/-!
# Well-formed traffic

The fields of a circuit, the clock and the permits of the calls in flight fit together in every
state of the circuit (`WellFormed`). For states in which they would not, the operations have
branches that cut an overlong window, let a failure of an opened circuit pass and take a forgotten
cooldown for over; `Strays` lists them, and no operation of any run comes to one of them.
-/

namespace Breaker.Traffic

variable {K V E : Type} {kindOf : E → K} {s : Traffic K}

/-- The calls in flight that were admitted in the present generation. -/
def current (s : Traffic K) : List Flight :=
  s.inFlight.filter fun f => f.permit.generation == s.circuit.generation

/-- What goes with each state of the circuit. -/
structure WellFormed (s : Traffic K) : Prop where
  unopened : s.circuit.state = .closed → s.circuit.openedAt = none
  sorted : s.circuit.state = .closed → s.circuit.failures.Pairwise (· ≤ ·)
  past : s.circuit.state = .closed → ∀ t ∈ s.circuit.failures, t ≤ s.clock
  short : s.circuit.state = .closed → s.circuit.failures.length < s.circuit.policy.count
  opened : s.circuit.state ≠ .closed → ∃ t, s.circuit.openedAt = some t ∧ t ≤ s.clock
  cleared : s.circuit.state ≠ .closed → s.circuit.failures = []
  noneOut : s.circuit.state = .opened → s.current = []
  ordinary : s.circuit.state = .closed → ∀ f ∈ s.current, f.permit.trial = false
  onTrial : s.circuit.state = .halfOpen → ∀ f ∈ s.current, f.permit.trial = true

/-- The operation ends a call of the present generation in an error that trips. -/
def Counts (kindOf : E → K) (s : Traffic K) (op : Op K V E) : Prop :=
  ∃ id f e verdict, op = .finish id (.error e) ∧ s.flight? id = some f ∧
    s.circuit.generation = f.permit.generation ∧
    s.circuit.classify (kindOf e) = .ok verdict ∧ verdict.trips = true

/-- The operation comes to a branch for states that do not occur. -/
inductive Strays (kindOf : E → K) (s : Traffic K) : Op K V E → Prop
  /-- A failure that counts is booked on an opened circuit. -/
  | opened (op : Op K V E) (counts : s.Counts kindOf op) (state : s.circuit.state = .opened) :
    Strays kindOf s op
  /-- With one more failure the window holds more of them than the threshold. -/
  | overfull (op : Op K V E) (counts : s.Counts kindOf op) (state : s.circuit.state = .closed)
    (excess : s.circuit.policy.count < (s.circuit.inWindow s.clock ++ [s.clock]).length) :
    Strays kindOf s op
  /-- A call arrives at an opened circuit that does not know since when. -/
  | forgotten (id : Nat) (named : s.flight? id = none) (state : s.circuit.state = .opened)
    (unknown : s.circuit.openedAt = none) : Strays kindOf s (.start id)

theorem mem_current {f : Flight} :
    f ∈ s.current ↔ f ∈ s.inFlight ∧ f.permit.generation = s.circuit.generation := by
  simp only [current, List.mem_filter, beq_iff_eq]

/-- The state of the circuit tells what kind of calls it has in the present generation. -/
theorem Sound.trial_of_current (hs : s.Sound) (hb : s.transitions < UInt64.size) {f : Flight}
    (hf : f ∈ s.current) :
    (s.circuit.state = .closed ∧ f.permit.trial = false) ∨
      (s.circuit.state = .halfOpen ∧ f.permit.trial = true) := by
  obtain ⟨hmem, hg⟩ := mem_current.1 hf
  exact hs.current f hmem ((hs.generation_eq_iff hb hmem).1 hg.symm)

theorem Sound.wellFormed (hs : s.Sound) (hb : s.transitions < UInt64.size) : s.WellFormed where
  unopened := hs.coherent.unopened
  sorted _ := hs.coherent.sorted
  past _ := hs.coherent.past
  short _ := hs.coherent.short
  opened := hs.coherent.opened
  cleared := hs.coherent.cleared
  noneOut hst := by
    rw [List.eq_nil_iff_forall_not_mem]
    intro f hf
    rcases hs.trial_of_current hb hf with ⟨hst', -⟩ | ⟨hst', -⟩
    · exact absurd (hst.symm.trans hst') (by decide)
    · exact absurd (hst.symm.trans hst') (by decide)
  ordinary hst f hf := by
    rcases hs.trial_of_current hb hf with ⟨-, ht⟩ | ⟨hst', -⟩
    · exact ht
    · exact absurd (hst.symm.trans hst') (by decide)
  onTrial hst f hf := by
    rcases hs.trial_of_current hb hf with ⟨hst', -⟩ | ⟨-, ht⟩
    · exact absurd (hst.symm.trans hst') (by decide)
    · exact ht

/-- A failure that counts is one of a call of the present generation. -/
theorem Counts.current_ne_nil {op : Op K V E} (h : s.Counts kindOf op) : s.current ≠ [] := by
  obtain ⟨id, f, e, verdict, -, hid, hg, -, -⟩ := h
  exact List.ne_nil_of_mem (mem_current.2 ⟨mem_of_flight? hid, hg.symm⟩)

theorem WellFormed.not_strays (h : s.WellFormed) (op : Op K V E) : ¬ s.Strays kindOf op := by
  intro hstrays
  cases hstrays with
  | opened _ counts state => exact counts.current_ne_nil (h.noneOut state)
  | overfull _ counts state excess =>
    have hle := s.circuit.length_inWindow_le s.clock
    have hlt := h.short state
    rw [List.length_append, List.length_singleton] at excess
    omega
  | forgotten id named state unknown =>
    obtain ⟨t, ht, -⟩ := h.opened (by rw [state]; decide)
    rw [unknown] at ht
    cases ht

/-- **Every run is well-formed, and no operation comes to a branch for ill-formed traffic.** -/
theorem wellFormed_run (kindOf : E → K) (name : String) (policy : Policy) (now : Instant)
    (ops : List (Op K V E)) :
    let s := (fresh name policy now).run kindOf ops
    s.transitions < UInt64.size → s.WellFormed ∧ ∀ op : Op K V E, ¬ s.Strays kindOf op := by
  intro s hb
  have hwf : s.WellFormed := (sound_run name policy now ops).wellFormed hb
  exact ⟨hwf, hwf.not_strays⟩

/-- The failure of the call `1` does not yet open the circuit, and the one of the call `2` will. -/
theorem wellFormed_run_oneShort :
    let s : Traffic Unit := (fresh "db" (.windowed 2 (.ofNanos 10) .zero) 0).run id
      ([.start 1, .start 2, .advance 3, .finish 1 (.error ()), .advance 4] :
        List (Op Unit Unit Unit))
    (s.circuit.failures = [3] ∧ s.current.map Flight.id = [2]) ∧ s.WellFormed ∧
      ¬ s.Strays id (.finish 2 (.error ()) : Op Unit Unit Unit) := by
  obtain ⟨hwf, hstrays⟩ := wellFormed_run id "db" (.windowed 2 (.ofNanos 10) .zero) 0
    ([.start 1, .start 2, .advance 3, .finish 1 (.error ()), .advance 4] :
      List (Op Unit Unit Unit)) (by decide)
  exact ⟨by decide, hwf, hstrays _⟩

end Breaker.Traffic
