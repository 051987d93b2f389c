import Breaker.Proofs.Traffic.TrialSlot

/-!
# The trial

From the arrival that makes a circuit half-open until the end of that call, the
circuit has no other trial, rejects every arrival, and does not care how the
calls of earlier epochs end; `OnTrial` is the invariant. The end of the trial is
the next transition, and its outcome alone says where it leads (`Decides`).
-/

namespace Breaker.Traffic

variable {K V E : Type} {kindOf : E → K} {s : Traffic K}

section Flights

variable {id : Nat} {f : Flight} {op : Op K V E}

/-- The calls that could settle a half-open circuit. -/
def trials (s : Traffic K) : List Flight :=
  s.inFlight.filter fun f => f.permit.trial && f.permit.generation == s.circuit.generation

/-- `f` is the call `id`, and the circuit waits for it. -/
structure OnTrial (s : Traffic K) (id : Nat) (f : Flight) : Prop where
  halfOpen : s.circuit.state = .halfOpen
  inFlight : s.flight? id = some f
  trial : f.permit.trial = true
  epoch_eq : f.epoch = s.transitions

/-! ## One trial at a time -/

theorem mem_trials :
    f ∈ s.trials ↔
      f ∈ s.inFlight ∧ f.permit.trial = true ∧ f.permit.generation = s.circuit.generation := by
  simp only [trials, List.mem_filter, Bool.and_eq_true, beq_iff_eq]

theorem Sound.eq_of_trials (hs : s.Sound) (hb : s.transitions < UInt64.size) {g : Flight}
    (hf : f ∈ s.trials) (hg : g ∈ s.trials) : f = g := by
  obtain ⟨hfm, hft, hfg⟩ := mem_trials.1 hf
  obtain ⟨hgm, -, hgg⟩ := mem_trials.1 hg
  have hfe := (hs.generation_eq_iff hb hfm).1 hfg.symm
  have hge := (hs.generation_eq_iff hb hgm).1 hgg.symm
  rcases hs.current f hfm hfe with ⟨-, hno⟩ | ⟨hst, -⟩
  · rw [hft] at hno
    cases hno
  · exact hs.alone hst f hfm g hgm hfe hge

theorem Sound.length_trials_le (hs : s.Sound) (hb : s.transitions < UInt64.size) :
    s.trials.length ≤ 1 := by
  have hids : s.trials.Pairwise fun f g => f.id ≠ g.id := hs.ids.sublist List.filter_sublist
  match h : s.trials with
  | [] => exact Nat.zero_le _
  | [_] => exact Nat.le_refl _
  | f :: g :: l =>
    rw [h] at hids
    have hfg : f = g := hs.eq_of_trials hb (by rw [h]; simp) (by rw [h]; simp)
    have hne := (List.pairwise_cons.1 hids).1 g List.mem_cons_self
    exact absurd (congrArg Flight.id hfg) hne

/-! ## While it lasts -/

/-- A call stays in flight until it is ended itself. -/
theorem flight?_step (h : s.flight? id = some f) (hop : op.ended? ≠ some id) :
    (s.step kindOf op).flight? id = some f := by
  cases op with
  | start other =>
    show (s.start other : Traffic K × List Effect × Reply V E).1.flight? id = some f
    cases hid : s.flight? other with
    | some g =>
      rw [start_of_taken hid]
      exact h
    | none =>
      cases ha : (s.circuit.arrive s.clock).2.2 with
      | ok p =>
        rw [start_of_ok hid ha]
        exact flight?_board_of_some h
      | error e =>
        rw [start_of_error hid ha]
        exact h
  | finish other action =>
    show (s.finish kindOf other action).1.flight? id = some f
    have hne : other ≠ id := fun heq => hop (congrArg some heq)
    cases hid : s.flight? other with
    | some g =>
      rw [finish_of_some hid]
      exact (flight?_land_of_ne hne).trans h
    | none =>
      rw [finish_of_none hid]
      exact h
  | drop other =>
    show (s.drop other : Traffic K × List Effect × Reply V E).1.flight? id = some f
    have hne : other ≠ id := fun heq => hop (congrArg some heq)
    cases hid : s.flight? other with
    | some g =>
      rw [drop_of_some hid]
      exact (flight?_land_of_ne hne).trans h
    | none =>
      rw [drop_of_none hid]
      exact h
  | advance nanos => exact h
  | bindClassifier g => exact h
  | snapshot => exact h
  | forceOpen => exact h
  | forceClosed => exact h
  | reset => exact h

namespace OnTrial

/-- Every other call in flight is of an earlier epoch. -/
theorem epoch_ne (hs : s.Sound) (h : s.OnTrial id f) {other : Nat} {g : Flight}
    (hne : other ≠ id) (hg : s.flight? other = some g) : g.epoch ≠ s.transitions := by
  intro he
  have heq := hs.alone h.halfOpen g (mem_of_flight? hg) f (mem_of_flight? h.inFlight) he h.epoch_eq
  rw [← id_of_flight? hg, ← id_of_flight? h.inFlight, heq] at hne
  exact hne rfl

theorem passive (hs : s.Sound) (h : s.OnTrial id f) (hm : op.isManual = false)
    (hop : op.ended? ≠ some id) : s.Passive op where
  manual := hm
  stale other g hother hg := by
    refine h.epoch_ne hs ?_ hg
    rintro rfl
    exact hop hother
  rejected other _ _ := by
    rw [Circuit.arrive_of_halfOpen h.halfOpen]
    exact ⟨_, rfl⟩

theorem step (kindOf : E → K) (hs : s.Sound) (hb : s.transitions < UInt64.size) (h : s.OnTrial id f)
    (hm : op.isManual = false) (hop : op.ended? ≠ some id) :
    (s.step kindOf op).OnTrial id f ∧ s.circuit.SamePhase (s.step kindOf op).circuit ∧
      (s.step kindOf op).transitions = s.transitions := by
  have hphase := samePhase_step hs hb (h.passive hs hm hop) kindOf
  have ht := transitions_of_state hphase.state_eq
  exact ⟨⟨hphase.state_eq.trans h.halfOpen, flight?_step h.inFlight hop, h.trial,
    h.epoch_eq.trans ht.symm⟩, hphase, ht⟩

theorem run {ops : List (Op K V E)} (hs : s.Sound) (hb : s.transitions < UInt64.size)
    (h : s.OnTrial id f) (hops : ∀ op ∈ ops, op.isManual = false ∧ op.ended? ≠ some id) :
    (s.run kindOf ops).OnTrial id f ∧ s.circuit.SamePhase (s.run kindOf ops).circuit ∧
      (s.run kindOf ops).transitions = s.transitions := by
  induction ops generalizing s with
  | nil => exact ⟨h, .refl _, rfl⟩
  | cons op ops ih =>
    obtain ⟨hm, hop⟩ := hops op List.mem_cons_self
    obtain ⟨h', hphase, ht⟩ := h.step kindOf hs hb hm hop
    obtain ⟨h'', hphase', ht'⟩ :=
      ih (hs.step op) (ht ▸ hb) h' fun op' hop' => hops op' (List.mem_cons_of_mem _ hop')
    exact ⟨h'', hphase.trans hphase', ht'.trans ht⟩

end OnTrial

/-! ## What it keeps out -/

/-- The circuit waits for the call `id`, as it has since `s`, and nothing else touches it. -/
structure Reserved (kindOf : E → K) (s s' : Traffic K) (id : Nat) : Prop where
  halfOpen : s'.circuit.state = .halfOpen
  transitions_eq : s'.transitions = s.transitions
  inFlight : ∃ f ∈ s'.trials, f.id = id
  rejects : s'.Rejects V E ⟨s'.circuit.name, .zero⟩
  ignores : ∀ (op : Op K V E) other, op.ended? = some other → other ≠ id →
    (s'.step kindOf op).circuit = s'.circuit ∧ s'.effects kindOf op = []

theorem rejects_of_halfOpen (h : s.circuit.state = .halfOpen) :
    s.Rejects V E ⟨s.circuit.name, .zero⟩ := by
  apply rejects_of_arrive
  rw [Circuit.arrive_of_halfOpen h]
  rfl

/-- The end of a call of an earlier epoch leaves the circuit alone. -/
theorem ignores_stale (hs : s.Sound) (hb : s.transitions < UInt64.size) {other : Nat}
    (hop : op.ended? = some other)
    (hstale : ∀ g, s.flight? other = some g → g.epoch ≠ s.transitions) :
    (s.step kindOf op).circuit = s.circuit ∧ s.effects kindOf op = [] := by
  obtain ⟨action, rfl⟩ | rfl := Op.eq_of_ended? hop
  · show (s.finish kindOf other action).1.circuit = _ ∧ (s.finish kindOf other action).2.1 = []
    cases hid : s.flight? other with
    | some g =>
      obtain ⟨hland, hnone⟩ := finish_of_stale hs hb hid (hstale g hid) action
      rw [hland]
      exact ⟨rfl, hnone⟩
    | none =>
      rw [finish_of_none hid]
      exact ⟨rfl, rfl⟩
  · show (s.drop other : Traffic K × List Effect × Reply V E).1.circuit = _ ∧
      (s.drop other : Traffic K × List Effect × Reply V E).2.1 = []
    cases hid : s.flight? other with
    | some g =>
      obtain ⟨hland, hnone⟩ := drop_of_stale (V := V) (E := E) hs hb hid (hstale g hid)
      rw [hland]
      exact ⟨rfl, hnone⟩
    | none =>
      rw [drop_of_none hid]
      exact ⟨rfl, rfl⟩

/-! ## Where it leads -/

/-- The operation ends the trial of a circuit that had been opened at `since`, and takes the circuit
to where the outcome of the trial says. -/
structure Decides (kindOf : E → K) (s : Traffic K) (since : Option Instant) (op : Op K V E) :
    Prop where
  transitions_eq : (s.step kindOf op).transitions = s.transitions + 1
  success : ∀ id v, op = .finish id (.ok v) → (s.step kindOf op).circuit.Recovered
  failure : ∀ id e verdict, op = .finish id (.error e) →
    s.circuit.classify (kindOf e) = .ok verdict →
    if verdict.trips then (s.step kindOf op).circuit.OpenedSince (some s.clock)
    else (s.step kindOf op).circuit.Recovered
  panic : ∀ id p, op = .finish id (.panic p) → (s.step kindOf op).circuit.OpenedSince since
  drop : ∀ id, op = .drop id → (s.step kindOf op).circuit.OpenedSince since

theorem transitions_of_state_ne (h : (s.step kindOf op).circuit.state ≠ s.circuit.state) :
    (s.step kindOf op).transitions = s.transitions + 1 := by
  have hc := course_step kindOf s op
  cases hc.advance.turn with
  | stays switches state generation => exact absurd state h
  | turns switches state generation => rw [hc.transitions, switches]

namespace OnTrial

theorem generation_eq (hs : s.Sound) (hb : s.transitions < UInt64.size) (h : s.OnTrial id f) :
    s.circuit.generation = f.permit.generation :=
  (hs.generation_eq_iff hb (mem_of_flight? h.inFlight)).2 h.epoch_eq

theorem circuit_finish (h : s.OnTrial id f) (action : Action V E) :
    (s.step kindOf (.finish id action)).circuit =
      (s.circuit.settle s.clock f.permit kindOf action).1 := by
  show (s.finish kindOf id action).1.circuit = _
  rw [finish_of_some h.inFlight]
  rfl

theorem recovered_ok (hs : s.Sound) (hb : s.transitions < UInt64.size) (h : s.OnTrial id f)
    (v : V) :
    (s.step kindOf (.finish id (.ok v))).circuit.Recovered := by
  rw [h.circuit_finish, Circuit.settle_ok (h.generation_eq hs hb)]
  exact Circuit.recovered_settleTrial h.halfOpen

theorem settled_error (hs : s.Sound) (hb : s.transitions < UInt64.size) (h : s.OnTrial id f) {e : E}
    {verdict : Classification} (hv : s.circuit.classify (kindOf e) = .ok verdict) :
    if verdict.trips then
      (s.step kindOf (.finish id (.error e) : Op K V E)).circuit.OpenedSince (some s.clock)
    else (s.step kindOf (.finish id (.error e) : Op K V E)).circuit.Recovered := by
  rw [h.circuit_finish, Circuit.settle_error (h.generation_eq hs hb) hv]
  unfold Circuit.recordClassified
  by_cases ht : verdict.trips = true
  · rw [if_pos ht, if_pos ht]
    exact Circuit.openedSince_recordFailure h.halfOpen
  · rw [if_neg ht, if_neg ht]
    exact Circuit.recovered_settleTrial h.halfOpen

theorem openedSince_abandon (hs : s.Sound) (hb : s.transitions < UInt64.size) (h : s.OnTrial id f) :
    (s.circuit.abandon s.clock f.permit).1.OpenedSince s.circuit.openedAt := by
  rw [Circuit.abandon_of_live h.trial (h.generation_eq hs hb) h.halfOpen]
  exact Circuit.openedSince_reopen h.halfOpen

theorem openedSince_panic (hs : s.Sound) (hb : s.transitions < UInt64.size) (h : s.OnTrial id f)
    (p : Panic) :
    (s.step kindOf (.finish id (.panic p) : Op K V E)).circuit.OpenedSince s.circuit.openedAt := by
  rw [h.circuit_finish, Circuit.settle_panic]
  exact h.openedSince_abandon hs hb

theorem openedSince_drop (hs : s.Sound) (hb : s.transitions < UInt64.size) (h : s.OnTrial id f) :
    (s.step kindOf (.drop id : Op K V E)).circuit.OpenedSince s.circuit.openedAt := by
  show (s.drop id : Traffic K × List Effect × Reply V E).1.circuit.OpenedSince _
  rw [drop_of_some h.inFlight]
  exact h.openedSince_abandon hs hb

/-- Every end of a trial takes the circuit out of the half-open state, but a crash. -/
theorem state_ne (hs : s.Sound) (hb : s.transitions < UInt64.size) (h : s.OnTrial id f)
    (hop : op.ended? = some id) (hno : ¬ s.CrashesTrial kindOf op) :
    (s.step kindOf op).circuit.state ≠ s.circuit.state := by
  rw [h.halfOpen]
  obtain ⟨action, rfl⟩ | rfl := Op.eq_of_ended? hop
  · cases action with
    | ok v =>
      rw [(h.recovered_ok hs hb v).state_eq]
      decide
    | error e =>
      cases hv : s.circuit.classify (kindOf e) with
      | ok verdict =>
        have hend := h.settled_error (V := V) hs hb hv
        by_cases ht : verdict.trips = true
        · rw [if_pos ht] at hend
          rw [hend.state_eq]
          decide
        · rw [if_neg ht] at hend
          rw [hend.state_eq]
          decide
      | error panic =>
        exact absurd ⟨h.halfOpen, id, f, e, panic, rfl, h.inFlight, h.trial,
          (h.generation_eq hs hb).symm, hv⟩ hno
    | panic p =>
      rw [(h.openedSince_panic hs hb p).state_eq]
      decide
  · rw [(h.openedSince_drop hs hb).state_eq]
    decide

theorem decides (hs : s.Sound) (hb : s.transitions < UInt64.size) (h : s.OnTrial id f)
    (hop : op.ended? = some id) (hno : ¬ s.CrashesTrial kindOf op) :
    s.Decides kindOf s.circuit.openedAt op where
  transitions_eq := transitions_of_state_ne (h.state_ne hs hb hop hno)
  success id' v heq := by
    subst heq
    cases hop
    exact h.recovered_ok hs hb v
  failure id' e verdict heq hv := by
    subst heq
    cases hop
    exact h.settled_error hs hb hv
  panic id' p heq := by
    subst heq
    cases hop
    exact h.openedSince_panic hs hb p
  drop id' heq := by
    subst heq
    cases hop
    exact h.openedSince_drop hs hb

theorem reserved {s₀ : Traffic K} (hs : s.Sound) (hb : s.transitions < UInt64.size)
    (h : s.OnTrial id f) (ht : s.transitions = s₀.transitions) :
    Reserved (V := V) kindOf s₀ s id where
  halfOpen := h.halfOpen
  transitions_eq := ht
  inFlight := ⟨f, mem_trials.2 ⟨mem_of_flight? h.inFlight, h.trial, (h.generation_eq hs hb).symm⟩,
    id_of_flight? h.inFlight⟩
  rejects := rejects_of_halfOpen h.halfOpen
  ignores _ _ hop hne := ignores_stale hs hb hop fun _ hg => h.epoch_ne hs hne hg

end OnTrial

/-! ## Where it comes from -/

/-- A circuit goes from opened to half-open by admitting a call, which is then on trial. -/
theorem onTrial_of_opens (ho : s.circuit.state = .opened)
    (hh : (s.step kindOf op).circuit.state = .halfOpen) :
    ∃ id f, op = .start id ∧ (s.step kindOf op).OnTrial id f ∧
      (s.step kindOf op).circuit.openedAt = s.circuit.openedAt := by
  have hne : ∀ {c : Circuit K}, c = s.circuit → c.state ≠ .halfOpen := by
    rintro c rfl
    rw [ho]
    decide
  cases op with
  | start id =>
    change (s.start id : Traffic K × List Effect × Reply V E).1.circuit.state = .halfOpen at hh
    refine ⟨id, ?_⟩
    show ∃ f, _ ∧ (s.start id : Traffic K × List Effect × Reply V E).1.OnTrial id f ∧
      (s.start id : Traffic K × List Effect × Reply V E).1.circuit.openedAt = _
    cases hid : s.flight? id with
    | some f =>
      rw [start_of_taken hid] at hh
      exact absurd hh (hne rfl)
    | none =>
      cases ha : (s.circuit.arrive s.clock).2.2 with
      | error e =>
        rw [start_of_error hid ha] at hh
        exact absurd hh (hne rfl)
      | ok p =>
        rw [start_of_ok hid ha] at hh ⊢
        obtain ⟨-, ⟨hcl, -, -⟩ | ⟨-, -, ht⟩⟩ := Circuit.permit_of_arrive ha
        · rw [ho] at hcl
          cases hcl
        · exact ⟨_, rfl, ⟨hh, flight?_board_of_none hid, ht, rfl⟩, Circuit.openedAt_arrive⟩
  | finish id action =>
    change (s.finish kindOf id action).1.circuit.state = .halfOpen at hh
    cases hid : s.flight? id with
    | some f =>
      rw [finish_of_some hid] at hh
      exact absurd hh (hne (Circuit.settle_of_halfOpen hh).1)
    | none =>
      rw [finish_of_none hid] at hh
      exact absurd hh (hne rfl)
  | drop id =>
    change (s.drop id : Traffic K × List Effect × Reply V E).1.circuit.state = .halfOpen at hh
    cases hid : s.flight? id with
    | some f =>
      rw [drop_of_some hid] at hh
      exact absurd hh (hne (Circuit.abandon_of_halfOpen hh).1)
    | none =>
      rw [drop_of_none hid] at hh
      exact absurd hh (hne rfl)
  | advance nanos => exact absurd hh (hne rfl)
  | bindClassifier g => exact absurd ((Circuit.state_bindClassifier g).symm.trans hh) (hne rfl)
  | snapshot => exact absurd (ho.symm.trans hh) (by decide)
  | forceOpen => exact absurd (Circuit.state_forceOpen.symm.trans hh) (by decide)
  | forceClosed => exact absurd (Circuit.state_forceClosed.symm.trans hh) (by decide)
  | reset => exact absurd (Circuit.state_forceClosed.symm.trans hh) (by decide)

end Flights

/-! ## From its start to its end -/

/-- **A trial is alone and decides alone.** In every run at most one call could settle a half-open
circuit. The step that makes the circuit half-open starts a call, and until that call is ended or
somebody intervenes, every other call is rejected and none that ends makes a difference; then the
end of the trial is a transition to where its outcome leads. -/
theorem trial_alone_decides (kindOf : E → K) (name : String) (policy : Policy) (now : Instant)
    (before : List (Op K V E)) :
    let s := (fresh name policy now).run kindOf before
    (s.transitions < UInt64.size → s.trials.length ≤ 1) ∧
      ∀ op : Op K V E, s.circuit.state = .opened → (s.step kindOf op).circuit.state = .halfOpen →
        ∃ id, op = .start id ∧ ∀ mid : List (Op K V E),
          (∀ op' ∈ mid, op'.isManual = false ∧ op'.ended? ≠ some id) →
          let s' := (s.step kindOf op).run kindOf mid
          s'.transitions < UInt64.size →
          Reserved (V := V) kindOf (s.step kindOf op) s' id ∧
            ∀ last : Op K V E, last.ended? = some id → ¬ s'.CrashesTrial kindOf last →
              s'.Decides kindOf s.circuit.openedAt last := by
  intro s
  have hs : s.Sound := sound_run name policy now before
  refine ⟨hs.length_trials_le, ?_⟩
  intro op ho hh
  obtain ⟨id, f, rfl, htrial, hopened⟩ := onTrial_of_opens ho hh
  refine ⟨id, rfl, ?_⟩
  intro mid hmid s' hb
  have hs₁ : (s.step kindOf (.start id : Op K V E)).Sound := hs.step _
  have hle := transitions_le_run kindOf (s.step kindOf (.start id : Op K V E)) mid
  obtain ⟨htrial', hphase, ht⟩ := htrial.run hs₁ (Nat.lt_of_le_of_lt hle hb) hmid
  have hs' : s'.Sound := hs₁.run mid
  refine ⟨htrial'.reserved hs' hb ht, ?_⟩
  intro last hlast hno
  have hd := htrial'.decides hs' hb hlast hno
  rw [hphase.openedAt_eq, hopened] at hd
  exact hd

/-- The call `7` is displaced by hand and ends during the trial `0`, which keeps out the call `1`.
-/
theorem trial_alone_decides_displaced :
    let s : Traffic Unit := (fresh "db" .standard 0).run id
      ([.start 7, .forceOpen, .advance Policy.standard.resetTimeout.nanos] :
        List (Op Unit Unit Unit))
    let s' := (s.step id (.start 0 : Op Unit Unit Unit)).run id
      ([.start 1, .finish 7 (.ok ()), .advance 5] : List (Op Unit Unit Unit))
    s.trials.length ≤ 1 ∧
      Reserved (V := Unit) id (s.step id (.start 0 : Op Unit Unit Unit)) s' 0 ∧
      s'.Decides id s.circuit.openedAt (.finish 0 (.error ()) : Op Unit Unit Unit) := by
  obtain ⟨halone, hdecides⟩ := trial_alone_decides id "db" .standard 0
    ([.start 7, .forceOpen, .advance Policy.standard.resetTimeout.nanos] : List (Op Unit Unit Unit))
  obtain ⟨_, hid, h⟩ := hdecides (.start 0) (by decide) (by decide)
  cases hid
  obtain ⟨hreserved, hlast⟩ :=
    h [.start 1, .finish 7 (.ok ()), .advance 5] (by decide) (by decide)
  refine ⟨halone (by decide), hreserved, hlast _ rfl ?_⟩
  rintro ⟨-, _, _, _, panic, -, -, -, -, hv⟩
  exact nomatch hv

end Breaker.Traffic
