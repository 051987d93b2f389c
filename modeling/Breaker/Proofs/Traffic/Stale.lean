import Breaker.Proofs.Traffic.Trial

/-!
# Calls that have outlived their epoch

A transition puts all calls in flight into the past, ordinary ones and trials alike. However such a
call ends, the circuit stays as it is and nothing is told or counted (`Traceless`), also if the
circuit has come back to the state in which it admitted the call; the caller gets the action's own
result all the same (`reply_finish`).
-/

namespace Breaker

/-- The caller gets the result of the action as it is, unless the classifier panics on its error. -/
theorem Circuit.result_settle {K V E : Type} {c : Circuit K} {now : Instant} {p : Permit}
    {kindOf : E → K} {action : Action V E}
    (h : ∀ e, action = .error e → ∃ verdict, c.classify (kindOf e) = .ok verdict) :
    (c.settle now p kindOf action).2.2 = action.result := by
  cases action with
  | ok v => rfl
  | panic panic => rfl
  | error e =>
    obtain ⟨verdict, hv⟩ := h e rfl
    by_cases hg : c.generation = p.generation
    · rw [settle_error hg hv]
      rfl
    · simp only [settle, complete, hv, hg, ↓reduceIte]
      rfl

namespace Traffic

variable {K V E : Type} {kindOf : E → K} {s : Traffic K}

section Ends

variable {id : Nat} {f : Flight} {op : Op K V E} {ops : List (Op K V E)}

/-- The operation takes the call `id` out of flight, and that is all. -/
structure Traceless (kindOf : E → K) (s : Traffic K) (id : Nat) (op : Op K V E) : Prop where
  circuit_eq : (s.step kindOf op).circuit = s.circuit
  effects_eq : s.effects kindOf op = []
  journal_eq : (s.step kindOf op).journal = s.journal
  clock_eq : (s.step kindOf op).clock = s.clock
  mem_inFlight : ∀ f, f ∈ (s.step kindOf op).inFlight ↔ f ∈ s.inFlight ∧ f.id ≠ id

theorem traceless_of_land (hstep : s.step kindOf op = s.land id)
    (hnone : s.effects kindOf op = []) : s.Traceless kindOf id op where
  circuit_eq := by
    rw [hstep]
    rfl
  effects_eq := hnone
  journal_eq := by
    rw [hstep]
    rfl
  clock_eq := by
    rw [hstep]
    rfl
  mem_inFlight f := by
    rw [hstep]
    exact mem_land

theorem traceless_of_stale (hs : s.Sound) (hb : s.transitions < UInt64.size)
    (hid : s.flight? id = some f) (he : f.epoch ≠ s.transitions) (hop : op.ended? = some id) :
    s.Traceless kindOf id op := by
  obtain ⟨action, rfl⟩ | rfl := Op.eq_of_ended? hop
  · have hstale : s.step kindOf (.finish id action) = s.land id ∧
        s.effects kindOf (.finish id action) = [] := finish_of_stale hs hb hid he action
    exact traceless_of_land hstale.1 hstale.2
  · obtain ⟨hland, hnone⟩ := drop_of_stale (V := V) (E := E) hs hb hid he
    exact traceless_of_land hland hnone

/-- What the caller of a call in flight gets when its action ends. -/
theorem reply_finish (hid : s.flight? id = some f) {action : Action V E}
    (h : ∀ e, action = .error e → ∃ verdict, s.circuit.classify (kindOf e) = .ok verdict) :
    s.reply kindOf (.finish id action) = .ended action.result := by
  show (s.finish kindOf id action).2.2 = _
  rw [finish_of_some hid, Circuit.result_settle h]

/-! ## From its admission on -/

/-- A call that is admitted is in flight from then on, in the epoch that this leads to. -/
theorem flight?_of_admitted (h : s.reply kindOf (.start id : Op K V E) = .admitted) :
    ∃ f, (s.step kindOf (.start id : Op K V E)).flight? id = some f ∧
      f.epoch = (s.step kindOf (.start id : Op K V E)).transitions := by
  change (s.start id : Traffic K × List Effect × Reply V E).2.2 = .admitted at h
  show ∃ f, (s.start id : Traffic K × List Effect × Reply V E).1.flight? id = some f ∧
    f.epoch = (s.start id : Traffic K × List Effect × Reply V E).1.transitions
  cases hid : s.flight? id with
  | some g =>
    rw [start_of_taken hid] at h
    cases h
  | none =>
    cases ha : (s.circuit.arrive s.clock).2.2 with
    | error e =>
      rw [start_of_error hid ha] at h
      cases h
    | ok p =>
      rw [start_of_ok hid ha]
      exact ⟨_, flight?_board_of_none hid, rfl⟩

theorem flight?_run (h : s.flight? id = some f) (hops : ∀ op ∈ ops, op.ended? ≠ some id) :
    (s.run kindOf ops).flight? id = some f := by
  induction ops generalizing s with
  | nil => exact h
  | cons op ops ih =>
    exact ih (flight?_step h (hops op List.mem_cons_self)) fun op' hop' =>
      hops op' (List.mem_cons_of_mem _ hop')

end Ends

/-! ## After a transition -/

/-- **A call that has seen a transition ends without a trace**, whichever way it ends, and its
caller gets the action's own result unless the classifier panics on its error. -/
theorem stale_leaves_no_trace (kindOf : E → K) (name : String) (policy : Policy) (now : Instant)
    (before mid : List (Op K V E)) (id : Nat) :
    let s₀ := (fresh name policy now).run kindOf before
    let s₁ := s₀.step kindOf (.start id : Op K V E)
    let s := s₁.run kindOf mid
    s₀.reply kindOf (.start id : Op K V E) = .admitted → (∀ op ∈ mid, op.ended? ≠ some id) →
      s₁.transitions < s.transitions → s.transitions < UInt64.size →
        (∀ op : Op K V E, op.ended? = some id → s.Traceless kindOf id op) ∧
          ∀ action : Action V E,
            (∀ e, action = .error e → ∃ verdict, s.circuit.classify (kindOf e) = .ok verdict) →
            s.reply kindOf (.finish id action) = .ended action.result := by
  intro s₀ s₁ s hadmitted hmid hlt hb
  have hs : s.Sound := ((sound_run name policy now before).step _).run mid
  obtain ⟨f, hid₁, he⟩ := flight?_of_admitted hadmitted
  have hid : s.flight? id = some f := flight?_run hid₁ hmid
  have hstale : f.epoch ≠ s.transitions := by
    rw [he]
    exact Nat.ne_of_lt hlt
  exact ⟨fun op hop => traceless_of_stale hs hb hid hstale hop, fun action h => reply_finish hid h⟩

/-- A failure opens the circuit, and a trial closes it again. -/
def roundTrip : List (Op Unit Unit Unit) :=
  [.start 1, .finish 1 (.error ()), .advance Policy.standard.resetTimeout.nanos, .start 2,
    .finish 2 (.ok ())]

/-- The circuit is as closed as it was when it admitted the call `0`, whose failure would open
it. -/
theorem stale_leaves_no_trace_roundTrip :
    let s : Traffic Unit := ((fresh "db" .standard 0).step id (.start 0 : Op Unit Unit Unit)).run id
      roundTrip
    s.circuit.state = .closed ∧
      s.Traceless id 0 (.finish 0 (.error ()) : Op Unit Unit Unit) ∧
      s.Traceless id 0 (.drop 0 : Op Unit Unit Unit) ∧
      s.reply id (.finish 0 (.error ()) : Op Unit Unit Unit) = .ended (.error (.inner ())) := by
  obtain ⟨htraceless, hreply⟩ := stale_leaves_no_trace id "db" .standard 0 [] roundTrip 0 rfl
    (by decide) (by decide) (by decide)
  exact ⟨by decide, htraceless _ rfl, htraceless _ rfl, hreply (.error ()) fun _ _ => ⟨.trip, rfl⟩⟩

end Traffic

end Breaker
