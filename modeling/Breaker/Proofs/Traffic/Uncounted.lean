import Breaker.Proofs.Traffic.Renewal

/-!
# Calls that do not count

A call that is rejected, or that a closed circuit lets in and that ends in no failure that counts
before the circuit changes its state, leaves no mark on the circuit. `echoes` is all that can be
seen of a run, operation by operation. The echoes of all other operations are the same with the call
taken out of the run, wherever its start and its end stand in it (`uncounted_calls_invisible`).
-/

namespace Breaker.Traffic

variable {K V E : Type} {kindOf : E → K} {s a b : Traffic K}

/-- What can be seen of one operation: the circuit and the time after it, its effects and its
answer. -/
structure Echo (K V E : Type) where
  circuit : Circuit K
  time : Instant
  effects : List Effect
  reply : Reply V E

def echo (kindOf : E → K) (s : Traffic K) (op : Op K V E) : Echo K V E where
  circuit := (s.step kindOf op).circuit
  time := (s.step kindOf op).clock
  effects := s.effects kindOf op
  reply := s.reply kindOf op

/-- What can be seen of each of the operations, in their order. -/
def echoes (kindOf : E → K) (s : Traffic K) : List (Op K V E) → List (Echo K V E)
  | [] => []
  | op :: ops => s.echo kindOf op :: (s.step kindOf op).echoes kindOf ops

/-- The operation ends the call `id` in a way that does not count. -/
inductive Excuses (kindOf : E → K) (s : Traffic K) (id : Nat) : Op K V E → Prop
  | succeeded (v : V) : Excuses kindOf s id (.finish id (.ok v))
  | passed (e : E) (verdict : Classification)
    (classified : s.circuit.classify (kindOf e) = .ok verdict)
    (passes : verdict = .ignore ∨ verdict = .unclassified) :
    Excuses kindOf s id (.finish id (.error e))
  /-- The classifier panics on the error. -/
  | crashed (e : E) (panic : Panic) (crash : s.circuit.classify (kindOf e) = .error panic) :
    Excuses kindOf s id (.finish id (.error e))
  | panicked (panic : Panic) : Excuses kindOf s id (.finish id (.panic panic))
  | dropped : Excuses kindOf s id (.drop id)

/-! ## Traffic that is alike -/

/-- The two differ in what has been told so far, and not in how often the state has changed. -/
structure Alike (a b : Traffic K) : Prop where
  circuit : a.circuit = b.circuit
  clock : a.clock = b.clock
  inFlight : a.inFlight = b.inFlight
  transitions : a.transitions = b.transitions

namespace Alike

theorem book (h : Alike a b) (c : Circuit K) (effects : List Effect) :
    Alike (a.book c effects) (b.book c effects) :=
  ⟨rfl, h.clock, h.inFlight, by simp [h.transitions]⟩

theorem board (h : Alike a b) (id : Nat) (p : Permit) : Alike (a.board id p) (b.board id p) :=
  ⟨h.circuit, h.clock, by simp [Traffic.board, h.inFlight, h.transitions], by simp [h.transitions]⟩

theorem land (h : Alike a b) (id : Nat) : Alike (a.land id) (b.land id) :=
  ⟨h.circuit, h.clock, by simp [Traffic.land, h.inFlight], by simp [h.transitions]⟩

theorem flight? (h : Alike a b) (id : Nat) : a.flight? id = b.flight? id := by
  simp only [Traffic.flight?, h.inFlight]

end Alike

/-- Two outcomes that are alike in what follows and the same in what is seen. -/
structure SameEcho (out out' : Traffic K × List Effect × Reply V E) : Prop where
  alike : Alike out.1 out'.1
  rest : out.2 = out'.2

namespace Alike

theorem start (h : Alike a b) (id : Nat) :
    SameEcho (V := V) (E := E) (a.start id) (b.start id) := by
  cases hid : b.flight? id with
  | some f =>
    rw [start_of_taken hid, start_of_taken ((h.flight? id).trans hid)]
    exact ⟨h, rfl⟩
  | none =>
    have hid' := (h.flight? id).trans hid
    cases ha : (b.circuit.arrive b.clock).2.2 with
    | ok p =>
      have ha' : (a.circuit.arrive a.clock).2.2 = .ok p := by rw [h.circuit, h.clock, ha]
      rw [start_of_ok hid ha, start_of_ok hid' ha', h.circuit, h.clock]
      exact ⟨(h.book _ _).board id p, rfl⟩
    | error e =>
      have ha' : (a.circuit.arrive a.clock).2.2 = .error e := by rw [h.circuit, h.clock, ha]
      rw [start_of_error hid ha, start_of_error hid' ha', h.circuit, h.clock]
      exact ⟨h.book _ _, rfl⟩

theorem finish (h : Alike a b) (id : Nat) (action : Action V E) :
    SameEcho (a.finish kindOf id action) (b.finish kindOf id action) := by
  cases hid : b.flight? id with
  | none =>
    rw [finish_of_none hid, finish_of_none ((h.flight? id).trans hid)]
    exact ⟨h, rfl⟩
  | some f =>
    rw [finish_of_some hid, finish_of_some ((h.flight? id).trans hid), h.circuit, h.clock]
    exact ⟨(h.land id).book _ _, rfl⟩

theorem drop (h : Alike a b) (id : Nat) :
    SameEcho (V := V) (E := E) (a.drop id) (b.drop id) := by
  cases hid : b.flight? id with
  | none =>
    rw [drop_of_none hid, drop_of_none ((h.flight? id).trans hid)]
    exact ⟨h, rfl⟩
  | some f =>
    rw [drop_of_some hid, drop_of_some ((h.flight? id).trans hid), h.circuit, h.clock]
    exact ⟨(h.land id).book _ _, rfl⟩

theorem perform (kindOf : E → K) (h : Alike a b) (op : Op K V E) :
    SameEcho (a.perform kindOf op) (b.perform kindOf op) := by
  cases op with
  | start id => exact h.start id
  | finish id action => exact h.finish id action
  | drop id => exact h.drop id
  | advance nanos =>
    have hclock := congrArg (· + nanos) h.clock
    exact ⟨⟨h.circuit, hclock, h.inFlight, h.transitions⟩, rfl⟩
  | bindClassifier f =>
    simp only [Traffic.perform, h.circuit]
    exact ⟨h.book _ _, rfl⟩
  | snapshot | forceOpen | forceClosed | reset =>
    simp only [Traffic.perform, h.circuit, h.clock]
    exact ⟨h.book _ _, rfl⟩

theorem step (kindOf : E → K) (h : Alike a b) (op : Op K V E) :
    Alike (a.step kindOf op) (b.step kindOf op) := (h.perform kindOf op).alike

theorem echo (kindOf : E → K) (h : Alike a b) (op : Op K V E) :
    a.echo kindOf op = b.echo kindOf op := by
  obtain ⟨hstep, hrest⟩ := h.perform kindOf op
  simp only [Traffic.echo, Traffic.step, effects, reply, hstep.circuit, hstep.clock, hrest]

theorem echoes (kindOf : E → K) (h : Alike a b) (ops : List (Op K V E)) :
    a.echoes kindOf ops = b.echoes kindOf ops := by
  induction ops generalizing a b with
  | nil => rfl
  | cons op ops ih => simp only [Traffic.echoes, h.echo, ih (h.step kindOf op)]

theorem run (kindOf : E → K) (h : Alike a b) (ops : List (Op K V E)) :
    Alike (a.run kindOf ops) (b.run kindOf ops) := by
  induction ops generalizing a b with
  | nil => exact h
  | cons op ops ih => exact ih (h.step kindOf op)

end Alike

/-! ## A call beside the others

Of a call in flight, the others get to see nothing. -/

section Beside

variable {id other : Nat}

theorem land_board (h : other ≠ id) (p : Permit) :
    (s.land id).board other p = (s.board other p).land id := by
  simp [land, board, List.filter_append, h, transitions]

theorem land_land (s : Traffic K) (id other : Nat) :
    (s.land id).land other = (s.land other).land id := by
  simp only [land, List.filter_filter, Bool.and_comm]

/-- The outcome of an operation with the call `id` taken out of flight. -/
def without (id : Nat) (out : Traffic K × List Effect × Reply V E) :
    Traffic K × List Effect × Reply V E := (out.1.land id, out.2)

theorem start_land (h : other ≠ id) :
    (s.land id).start other = without id (s.start other : Traffic K × List Effect × Reply V E) := by
  have hid : (s.land id).flight? other = s.flight? other := flight?_land_of_ne h.symm
  cases hf : s.flight? other with
  | some f =>
    rw [start_of_taken hf, start_of_taken (hid.trans hf)]
    rfl
  | none =>
    cases ha : (s.circuit.arrive s.clock).2.2 with
    | ok p =>
      rw [start_of_ok hf ha, start_of_ok (hid.trans hf) ha, without, ← land_board h]
      rfl
    | error e =>
      rw [start_of_error hf ha, start_of_error (hid.trans hf) ha]
      rfl

theorem finish_land (h : other ≠ id) (action : Action V E) :
    (s.land id).finish kindOf other action = without id (s.finish kindOf other action) := by
  have hid : (s.land id).flight? other = s.flight? other := flight?_land_of_ne h.symm
  cases hf : s.flight? other with
  | none =>
    rw [finish_of_none hf, finish_of_none (hid.trans hf)]
    rfl
  | some f =>
    rw [finish_of_some hf, finish_of_some (hid.trans hf), land_land]
    rfl

theorem drop_land (h : other ≠ id) :
    (s.land id).drop other = without id (s.drop other : Traffic K × List Effect × Reply V E) := by
  have hid : (s.land id).flight? other = s.flight? other := flight?_land_of_ne h.symm
  cases hf : s.flight? other with
  | none =>
    rw [drop_of_none hf, drop_of_none (hid.trans hf)]
    rfl
  | some f =>
    rw [drop_of_some hf, drop_of_some (hid.trans hf), land_land]
    rfl

theorem perform_land (kindOf : E → K) (s : Traffic K) {op : Op K V E} (h : op.call? ≠ some id) :
    (s.land id).perform kindOf op = without id (s.perform kindOf op) := by
  cases op with
  | start other => exact start_land fun heq => h (congrArg some heq)
  | finish other action => exact finish_land (fun heq => h (congrArg some heq)) action
  | drop other => exact drop_land fun heq => h (congrArg some heq)
  | advance | bindClassifier | snapshot | forceOpen | forceClosed | reset => rfl

theorem step_land (kindOf : E → K) (s : Traffic K) {op : Op K V E} (h : op.call? ≠ some id) :
    (s.land id).step kindOf op = (s.step kindOf op).land id :=
  congrArg Prod.fst (perform_land kindOf s h)

theorem echo_land (kindOf : E → K) (s : Traffic K) {op : Op K V E} (h : op.call? ≠ some id) :
    (s.land id).echo kindOf op = s.echo kindOf op := by
  simp only [echo, step, effects, reply, perform_land kindOf s h]
  rfl

variable {ops : List (Op K V E)}

theorem run_land (kindOf : E → K) (s : Traffic K) (h : ∀ op ∈ ops, op.call? ≠ some id) :
    (s.land id).run kindOf ops = (s.run kindOf ops).land id := by
  induction ops generalizing s with
  | nil => rfl
  | cons op ops ih =>
    obtain ⟨hop, hops⟩ := List.forall_mem_cons.1 h
    rw [run_cons, run_cons, step_land kindOf s hop, ih _ hops]

theorem echoes_land (kindOf : E → K) (s : Traffic K) (h : ∀ op ∈ ops, op.call? ≠ some id) :
    (s.land id).echoes kindOf ops = s.echoes kindOf ops := by
  induction ops generalizing s with
  | nil => rfl
  | cons op ops ih =>
    obtain ⟨hop, hops⟩ := List.forall_mem_cons.1 h
    simp only [echoes, echo_land kindOf s hop, step_land kindOf s hop, ih _ hops]

end Beside

/-! ## Starts and ends that leave no mark -/

section Marks

variable {id : Nat} {f : Flight} {op : Op K V E} {ops : List (Op K V E)}

theorem flight?_eq_none_of_reply (h : s.reply kindOf (.start id : Op K V E) ≠ .misnamed) :
    s.flight? id = none := by
  cases hid : s.flight? id with
  | none => rfl
  | some f =>
    have htaken := start_of_taken (V := V) (E := E) hid
    exact absurd (congrArg (·.2.2) htaken) h

theorem land_board_self (h : s.flight? id = none) (p : Permit) : (s.board id p).land id = s := by
  have hfilter : s.inFlight.filter (fun f => f.id != id) = s.inFlight := by
    rw [List.filter_eq_self]
    intro f hf
    simpa using id_ne_of_flight?_eq_none h f hf
  simp [land, board, List.filter_append, hfilter]

/-- Of what is told while the circuit stays as it is, nothing is a transition. -/
theorem alike_book (kindOf : E → K) (op : Op K V E) (effects : List Effect)
    (h : (s.step kindOf op).circuit = s.circuit)
    (ht : (s.step kindOf op).transitions = s.transitions + Effect.switches effects) :
    Alike (s.book s.circuit effects) s := by
  have hkept : (s.step kindOf op).transitions = s.transitions :=
    transitions_of_state (congrArg Circuit.state h)
  refine ⟨rfl, rfl, rfl, ?_⟩
  rw [transitions_book]
  omega

/-- A rejected call leaves everything as it was. -/
theorem alike_of_rejected {e : OpenError}
    (h : s.reply kindOf (.start id : Op K V E) = .rejected e) :
    Alike (s.step kindOf (.start id : Op K V E)) s := by
  have hid : s.flight? id = none := flight?_eq_none_of_reply (by rw [h]; nofun)
  cases ha : (s.circuit.arrive s.clock).2.2 with
  | ok p =>
    have hreply := congrArg (·.2.2) (start_of_ok (V := V) (E := E) hid ha)
    cases h.symm.trans hreply
  | error e' =>
    have hstep : s.step kindOf (.start id : Op K V E) = s.book s.circuit _ :=
      congrArg Prod.fst (start_of_error hid ha)
    rw [hstep]
    exact alike_book kindOf (.start id : Op K V E) _ (by rw [hstep]; rfl)
      (by rw [hstep, transitions_book])

/-- A closed circuit that lets a call in stays as it was, and nothing but the call is new. -/
theorem alike_of_admitted (h : s.reply kindOf (.start id : Op K V E) = .admitted)
    (hst : s.circuit.state = .closed) :
    (s.step kindOf (.start id : Op K V E)).circuit = s.circuit ∧
      (∃ f, (s.step kindOf (.start id : Op K V E)).flight? id = some f) ∧
      Alike ((s.step kindOf (.start id : Op K V E)).land id) s := by
  have hid : s.flight? id = none := flight?_eq_none_of_reply (by rw [h]; nofun)
  obtain ⟨f, hf, -⟩ := flight?_of_admitted h
  have ha : (s.circuit.arrive s.clock).2.2 = .ok ⟨s.circuit.generation, false⟩ := by
    simp [Circuit.arrive_of_closed hst, Circuit.permit, hst]
  have hstep : s.step kindOf (.start id : Op K V E) =
      (s.book s.circuit (s.circuit.permit s.clock).1).board id ⟨s.circuit.generation, false⟩ := by
    have hstart := congrArg Prod.fst (start_of_ok (V := V) (E := E) hid ha)
    rwa [Circuit.arrive_of_closed hst] at hstart
  refine ⟨by rw [hstep]; rfl, ⟨f, hf⟩, ?_⟩
  have hboard := land_board_self (s := s.book s.circuit (s.circuit.permit s.clock).1) hid
  rw [hstep, hboard]
  exact alike_book kindOf (.start id : Op K V E) _ (by rw [hstep]; rfl)
    (by rw [hstep, transitions_board, transitions_book])

/-- An end that does not count takes the call out of flight, and a closed circuit stays as it
was. -/
theorem alike_of_excuses (hid : s.flight? id = some f) (hst : s.circuit.state = .closed)
    (h : s.Excuses kindOf id op) : Alike (s.step kindOf op) (s.land id) := by
  have hstep : ∃ effects, s.step kindOf op = (s.book s.circuit effects).land id := by
    have hfinish : ∀ action : Action V E,
        (s.circuit.settle s.clock f.permit kindOf action).1 = s.circuit →
        ∃ effects, s.step kindOf (.finish id action) = (s.book s.circuit effects).land id := by
      intro action hsettle
      have hfinish : s.finish kindOf id action = _ := finish_of_some hid action
      rw [hsettle] at hfinish
      exact ⟨_, congrArg Prod.fst hfinish⟩
    cases h with
    | succeeded v => exact hfinish _ (Circuit.settle_of_closed hst nofun)
    | panicked panic => exact hfinish _ (Circuit.settle_of_closed hst nofun)
    | passed e verdict classified passes =>
      refine hfinish _ (Circuit.settle_of_closed hst ?_)
      rintro - e' verdict' he hv
      cases he
      cases classified.symm.trans hv
      rcases passes with rfl | rfl <;> rfl
    | crashed e panic crash =>
      refine hfinish _ (Circuit.settle_of_closed hst ?_)
      rintro - e' verdict he hv
      cases he
      cases crash.symm.trans hv
    | dropped =>
      have hdrop := congrArg Prod.fst (drop_of_some (V := V) (E := E) hid)
      rw [Circuit.abandon_of_closed hst] at hdrop
      exact ⟨_, hdrop⟩
  obtain ⟨effects, hstep⟩ := hstep
  have halike := alike_book kindOf op effects (by rw [hstep]; rfl)
    (by rw [hstep, transitions_land, transitions_book])
  rw [hstep]
  exact halike.land id

/-- A run without a transition keeps the state. -/
theorem state_run (h : (s.run kindOf ops).transitions = s.transitions) :
    (s.run kindOf ops).circuit.state = s.circuit.state := by
  induction ops generalizing s with
  | nil => rfl
  | cons op ops ih =>
    have hstep := transitions_le_step kindOf s op
    have hrun := transitions_le_run kindOf (s.step kindOf op) ops
    rw [run_cons] at h ⊢
    rw [ih (by omega)]
    by_contra hne
    have hturned := transitions_of_state_ne hne
    omega

theorem call?_of_ended? (h : op.ended? = some id) : op.call? = some id := by
  obtain ⟨action, rfl⟩ | rfl := Op.eq_of_ended? h <;> rfl

end Marks

/-! ## The call taken out of the run -/

/-- **A call that does not count is invisible**, be it rejected, or be it let in by a closed circuit
and ended in a way that does not count before the next transition. Neither its start nor its end
changes the circuit, and all other operations look the same without it: those before its end, and
those after. -/
theorem uncounted_calls_invisible (kindOf : E → K) (name : String) (policy : Policy)
    (now : Instant) (before after : List (Op K V E)) (id : Nat) :
    let s := (fresh name policy now).run kindOf before
    let s₁ := s.step kindOf (.start id : Op K V E)
    (∀ e, s.reply kindOf (.start id : Op K V E) = .rejected e →
      s₁.circuit = s.circuit ∧ s₁.echoes kindOf after = s.echoes kindOf after) ∧
    ∀ (mid : List (Op K V E)) (last : Op K V E),
      s.reply kindOf (.start id : Op K V E) = .admitted → s.circuit.state = .closed →
      (∀ op ∈ mid, op.call? ≠ some id) →
      let s₂ := s₁.run kindOf mid
      s₂.transitions = s₁.transitions → s₂.Excuses kindOf id last →
        s₁.circuit = s.circuit ∧ (s₂.step kindOf last).circuit = s₂.circuit ∧
          s₁.echoes kindOf mid = s.echoes kindOf mid ∧
          (s₂.step kindOf last).echoes kindOf after = (s.run kindOf mid).echoes kindOf after := by
  intro s s₁
  refine ⟨fun e he => ?_, ?_⟩
  · have halike := alike_of_rejected he
    exact ⟨halike.circuit, halike.echoes kindOf after⟩
  · intro mid last hadmitted hst hmid s₂ hkept hlast
    obtain ⟨hcircuit, ⟨f, hf⟩, halike⟩ := alike_of_admitted hadmitted hst
    have hf₂ : s₂.flight? id = some f :=
      flight?_run hf fun op hop hended => hmid op hop (call?_of_ended? hended)
    have hst₂ : s₂.circuit.state = .closed := by
      rw [state_run hkept]
      show s₁.circuit.state = .closed
      rw [hcircuit, hst]
    have hend := alike_of_excuses hf₂ hst₂ hlast
    have hmids : Alike (s₂.land id) (s.run kindOf mid) := by
      rw [← run_land kindOf s₁ hmid]
      exact halike.run kindOf mid
    refine ⟨hcircuit, hend.circuit, ?_, ?_⟩
    · rw [← echoes_land kindOf s₁ hmid]
      exact halike.echoes kindOf mid
    · rw [hend.echoes kindOf after]
      exact hmids.echoes kindOf after

/-- One failure of a circuit that opens at the second, and a call in flight. -/
def oneShort : Traffic Unit :=
  (fresh "db" (.windowed 2 (.ofNanos 10) (.ofNanos 5)) 0).run id
    ([.start 0, .start 1, .finish 0 (.error ())] : List (Op Unit Unit Unit))

/-- The call `2` succeeds, with another one begun and dropped meanwhile, and the failure of the call
`1` opens the circuit as it would without; then the call `4` is rejected. -/
theorem uncounted_calls_invisible_oneShort :
    let mid : List (Op Unit Unit Unit) := [.advance 4, .start 3, .snapshot, .drop 3]
    let s₂ := (oneShort.step id (.start 2 : Op Unit Unit Unit)).run id mid
    let last : Op Unit Unit Unit := .finish 2 (.ok ())
    let fails : Op Unit Unit Unit := .finish 1 (.error ())
    let s₃ := oneShort.run id (mid ++ [fails])
    ((s₂.step id last).step id fails).circuit.state = .opened ∧
      (s₂.step id last).echoes id [fails] = (oneShort.run id mid).echoes id [fails] ∧
      s₃.reply id (.start 4 : Op Unit Unit Unit) = .rejected ⟨"db", .ofNanos 5⟩ ∧
      (s₃.step id (.start 4 : Op Unit Unit Unit)).circuit = s₃.circuit := by
  intro mid s₂ last fails s₃
  have hrun : ∀ before after : List (Op Unit Unit Unit), _ :=
    uncounted_calls_invisible id "db" (.windowed 2 (.ofNanos 10) (.ofNanos 5)) 0
  obtain ⟨-, hadmitted⟩ := hrun [.start 0, .start 1, .finish 0 (.error ())] [fails] 2
  obtain ⟨-, -, -, hafter⟩ :=
    hadmitted mid last rfl (by decide) (by decide) (by decide) (.succeeded ())
  obtain ⟨hrejected, -⟩ :=
    hrun ([.start 0, .start 1, .finish 0 (.error ())] ++ (mid ++ [fails])) [] 4
  exact ⟨by decide, hafter, rfl, (hrejected ⟨"db", .ofNanos 5⟩ rfl).1⟩

end Breaker.Traffic
