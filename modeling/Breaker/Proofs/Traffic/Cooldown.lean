import Breaker.Proofs.Traffic.Trial

/-!
# The cooldown

A circuit that opens at `t` stays so until `t` plus its reset timeout, whatever
becomes of the calls in flight, which are all of earlier epochs then. Whoever
arrives before that is told exactly how long is left, and the first to arrive
from that instant on is the trial. Only control by hand moves the deadline.
-/

namespace Breaker

namespace Circuit

variable {K : Type} {c : Circuit K} {now t : Instant}

theorem cooldownLeft?_of_lt (ho : c.openedAt = some t) (ht : t ≤ now)
    (hlt : now < t + c.policy.resetTimeout.nanos) :
    c.cooldownLeft? now = some (c.policy.resetTimeout.remainingAfter (now - t)) := by
  have h : now - t < c.policy.resetTimeout.nanos := Nat.sub_lt_left_of_lt_add ht hlt
  simp only [cooldownLeft?, ho, h, ↓reduceIte]

theorem cooldownLeft?_of_le (ho : c.openedAt = some t)
    (hle : t + c.policy.resetTimeout.nanos ≤ now) : c.cooldownLeft? now = none := by
  have h : ¬ now - t < c.policy.resetTimeout.nanos := Nat.not_lt.2 (Nat.le_sub_of_add_le' hle)
  simp only [cooldownLeft?, ho, h, ↓reduceIte]

/-- A failure that opens a circuit starts a cooldown. -/
theorem openedAt_recordFailure (hne : c.state ≠ .opened)
    (ho : (c.recordFailure now).1.state = .opened) :
    (c.recordFailure now).1.openedAt = some now := by
  cases h : c.state with
  | closed =>
    by_cases hf : c.policy.count ≤ (c.withFailure now).length
    · rw [recordFailure_of_filled h hf]
      exact openedAt_transition hne
    · rw [recordFailure_of_short h hf] at ho
      exact absurd (h.symm.trans ho) (by decide)
  | halfOpen => exact (openedSince_recordFailure h).openedAt_eq
  | opened => exact absurd h hne

theorem openedAt_forceOpen : (c.forceOpen now).1.openedAt = some now := by
  unfold forceOpen
  split
  · rfl
  · rename_i h
    exact openedAt_transition h

end Circuit

namespace Traffic

variable {K V E : Type} {kindOf : E → K} {s : Traffic K}

section Deadlines

variable {id : Nat} {op : Op K V E} {ops : List (Op K V E)} {t d : Instant}

/-- The circuit is open and counts as opened at `t`. -/
structure Cooling (s : Traffic K) (t : Instant) : Prop where
  opened : s.circuit.state = .opened
  openedAt_eq : s.circuit.openedAt = some t

/-- When the first trial may run after an opening at `t`. -/
def deadline (s : Traffic K) (t : Instant) : Instant := t + s.circuit.policy.resetTimeout.nanos

/-- The operation opens the circuit: by hand, which restarts a cooldown as well, or because of a
failure that counts. -/
inductive Opens (kindOf : E → K) (s : Traffic K) : Op K V E → Prop
  | forced : Opens kindOf s .forceOpen
  | failed (op : Op K V E) (trips : s.trips kindOf op = true)
      (opened : (s.step kindOf op).circuit.state = .opened) : Opens kindOf s op

/-- Every call that arrives while the operations happen does so before the deadline. -/
def ArriveBefore (kindOf : E → K) (s : Traffic K) (deadline : Instant) (ops : List (Op K V E)) :
    Prop :=
  ∀ l id m, ops = l ++ .start id :: m → (s.run kindOf l).flight? id = none →
    (s.run kindOf l).clock < deadline

/-- Whoever arrives now becomes the trial. -/
def AdmitsTrial (V E : Type) (s : Traffic K) : Prop :=
  ∀ id, s.flight? id = none →
    (s.start id : Traffic K × List Effect × Reply V E).2.2 = .admitted ∧
      (s.start id : Traffic K × List Effect × Reply V E).1.circuit.state = .halfOpen ∧
      ∃ f ∈ (s.start id : Traffic K × List Effect × Reply V E).1.trials, f.id = id

/-! ## Opening -/

theorem Opens.cooling (hs : s.Sound) (hb : s.transitions < UInt64.size) (h : Opens kindOf s op) :
    (s.step kindOf op).Cooling s.clock ∧ (s.step kindOf op).clock = s.clock := by
  cases h with
  | forced => exact ⟨⟨Circuit.state_forceOpen, Circuit.openedAt_forceOpen⟩, rfl⟩
  | failed _ trips opened =>
    obtain ⟨hne, hclock, hcircuit, -⟩ := perform_of_trips hs hb trips
    refine ⟨⟨opened, ?_⟩, hclock⟩
    rw [hcircuit] at opened ⊢
    exact Circuit.openedAt_recordFailure hne opened

/-! ## Waiting -/

theorem arriveBefore_nil : ArriveBefore kindOf s d ([] : List (Op K V E)) := by
  intro l id m h
  cases l <;> cases h

theorem arriveBefore_cons :
    ArriveBefore kindOf s d (op :: ops) ↔
      (∀ id, op = .start id → s.flight? id = none → s.clock < d) ∧
        ArriveBefore kindOf (s.step kindOf op) d ops := by
  constructor
  · intro h
    constructor
    · rintro id rfl hid
      exact h [] id ops rfl hid
    · rintro l id m rfl hid
      exact h (op :: l) id m rfl hid
  · rintro ⟨hop, hops⟩ l id m heq hid
    cases l with
    | nil =>
      cases heq
      exact hop id rfl hid
    | cons op' l =>
      cases heq
      exact hops l id m rfl hid

/-- As long as the deadline has not passed, nobody has arrived after it. -/
theorem arriveBefore_of_lt (h : (s.run kindOf ops).clock < d) :
    ArriveBefore kindOf s d ops := by
  rintro l id m rfl -
  rw [run_append] at h
  exact Nat.lt_of_le_of_lt (clock_le_run kindOf (s.run kindOf l) (.start id :: m)) h

namespace Cooling

theorem le_clock (hs : s.Sound) (h : s.Cooling t) : t ≤ s.clock := by
  have hne : s.circuit.state ≠ .closed := by
    rw [h.opened]
    decide
  obtain ⟨t', ho, hle⟩ := hs.coherent.opened hne
  rw [h.openedAt_eq] at ho
  cases ho
  exact hle

theorem arrive_of_lt (hs : s.Sound) (h : s.Cooling t) (hlt : s.clock < s.deadline t) :
    (s.circuit.arrive s.clock).2.2 =
      .error ⟨s.circuit.name, s.circuit.policy.resetTimeout.remainingAfter (s.clock - t)⟩ := by
  have hleft := Circuit.cooldownLeft?_of_lt h.openedAt_eq (h.le_clock hs) hlt
  rw [Circuit.arrive_of_cooling h.opened hleft]
  rfl

/-- No call in flight can end a cooldown, and an arrival only after the deadline. -/
theorem passive (hs : s.Sound) (h : s.Cooling t) (hm : op.isManual = false)
    (harrive : ∀ id, op = .start id → s.flight? id = none → s.clock < s.deadline t) :
    s.Passive op where
  manual := hm
  stale id f _ hid he := by
    rcases hs.current f (mem_of_flight? hid) he with ⟨hst, -⟩ | ⟨hst, -⟩
    · exact absurd (h.opened.symm.trans hst) (by decide)
    · exact absurd (h.opened.symm.trans hst) (by decide)
  rejected id hstart hid := ⟨_, h.arrive_of_lt hs (harrive id hstart hid)⟩

theorem step (kindOf : E → K) (hs : s.Sound) (hb : s.transitions < UInt64.size) (h : s.Cooling t)
    (hm : op.isManual = false)
    (harrive : ∀ id, op = .start id → s.flight? id = none → s.clock < s.deadline t) :
    (s.step kindOf op).Cooling t ∧ (s.step kindOf op).transitions = s.transitions := by
  have hphase := samePhase_step hs hb (h.passive hs hm harrive) kindOf
  exact ⟨⟨hphase.state_eq.trans h.opened, hphase.openedAt_eq.trans h.openedAt_eq⟩,
    transitions_of_state hphase.state_eq⟩

theorem run (hs : s.Sound) (hb : s.transitions < UInt64.size) (h : s.Cooling t)
    (hm : ∀ op ∈ ops, op.isManual = false)
    (harrive : ArriveBefore kindOf s (s.deadline t) ops) : (s.run kindOf ops).Cooling t := by
  induction ops generalizing s with
  | nil => exact h
  | cons op ops ih =>
    obtain ⟨hop, hrest⟩ := arriveBefore_cons.1 harrive
    obtain ⟨h', ht⟩ := h.step kindOf hs hb (hm op List.mem_cons_self) hop
    have hd : (s.step kindOf op).deadline t = s.deadline t := by
      show t + _ = t + _
      rw [(course_step kindOf s op).advance.policy_eq]
    exact ih (hs.step op) (ht ▸ hb) h' (fun op' hop' => hm op' (List.mem_cons_of_mem _ hop'))
      (hd ▸ hrest)

theorem rejects (hs : s.Sound) (h : s.Cooling t) (hlt : s.clock < s.deadline t) :
    s.Rejects V E
      ⟨s.circuit.name, s.circuit.policy.resetTimeout.remainingAfter (s.clock - t)⟩ :=
  rejects_of_arrive (h.arrive_of_lt hs hlt)

theorem admitsTrial (h : s.Cooling t) (hle : s.deadline t ≤ s.clock) : s.AdmitsTrial V E := by
  intro id hid
  have hnone := Circuit.cooldownLeft?_of_le h.openedAt_eq hle
  have ha : (s.circuit.arrive s.clock).2.2 =
      .ok ⟨(s.circuit.transition .halfOpen s.clock).1.generation, true⟩ := by
    rw [Circuit.arrive_of_cooled h.opened hnone]
    simp only [Circuit.permit, Circuit.state_transition, decide_true]
  obtain ⟨hgen, ⟨hcl, -, -⟩ | ⟨-, hhalf, -⟩⟩ := Circuit.permit_of_arrive ha
  · exact absurd (h.opened.symm.trans hcl) (by decide)
  · rw [start_of_ok hid ha]
    refine ⟨rfl, hhalf, ?_⟩
    exact ⟨_, mem_trials.2 ⟨mem_of_flight? (flight?_board_of_none hid), rfl, hgen⟩, rfl⟩

end Cooling

end Deadlines

/-! ## The deadline -/

/-- **A cooldown has its exact length.** After a circuit has been opened and while nobody
intervenes, every call that arrives within the reset timeout is rejected and told what is left of
it, and the first one that arrives later is admitted as the trial. -/
theorem cooldown_exact (kindOf : E → K) (name : String) (policy : Policy) (now : Instant)
    (before : List (Op K V E)) (op : Op K V E) (mid : List (Op K V E)) :
    let s := (fresh name policy now).run kindOf before
    let s' := (s.step kindOf op).run kindOf mid
    let deadline := s.clock + policy.resetTimeout.nanos
    Opens kindOf s op → (∀ op' ∈ mid, op'.isManual = false) → s'.transitions < UInt64.size →
      s.clock ≤ s'.clock ∧
        (s'.clock < deadline →
          ∃ left : Duration, s'.clock + left.nanos = deadline ∧
            0 < left.nanos ∧ left.nanos ≤ policy.resetTimeout.nanos ∧
            s'.Rejects V E ⟨name, left⟩) ∧
        (deadline ≤ s'.clock → ArriveBefore kindOf (s.step kindOf op) deadline mid →
          s'.AdmitsTrial V E) := by
  intro s s' deadline hopens hm hb
  have hs : s.Sound := sound_run name policy now before
  have hle : s.transitions ≤ s'.transitions :=
    Nat.le_trans (transitions_le_step kindOf s op) (transitions_le_run kindOf _ mid)
  obtain ⟨hcool, hsame⟩ := hopens.cooling hs (Nat.lt_of_le_of_lt hle hb)
  have hs₁ : (s.step kindOf op).Sound := hs.step op
  have hb₁ := Nat.lt_of_le_of_lt (transitions_le_run kindOf (s.step kindOf op) mid) hb
  have hpolicy₁ : (s.step kindOf op).circuit.policy = policy :=
    (course_step kindOf s op).advance.policy_eq.trans (policy_run kindOf _ before)
  have hpolicy : s'.circuit.policy = policy := (policy_run kindOf _ mid).trans hpolicy₁
  have hname : s'.circuit.name = name :=
    (name_run kindOf _ mid).trans
      ((course_step kindOf s op).advance.name_eq.trans (name_run kindOf _ before))
  have hdeadline₁ : (s.step kindOf op).deadline s.clock = deadline := by
    rw [Traffic.deadline, hpolicy₁]
  have hdeadline : s'.deadline s.clock = deadline := by rw [Traffic.deadline, hpolicy]
  have hclock : s.clock ≤ s'.clock := by
    rw [← hsame]
    exact clock_le_run kindOf (s.step kindOf op) mid
  refine ⟨hclock, ?_, ?_⟩
  · intro hlt
    have hbefore := arriveBefore_of_lt hlt
    have hcool' := hcool.run hs₁ hb₁ hm (hdeadline₁ ▸ hbefore)
    have hrejects := hcool'.rejects (V := V) (E := E) (hs₁.run mid) (hdeadline ▸ hlt)
    rw [hname, hpolicy] at hrejects
    have helapsed : s'.clock - s.clock < policy.resetTimeout.nanos :=
      Nat.sub_lt_left_of_lt_add hclock hlt
    refine ⟨_, ?_, Nat.sub_pos_of_lt helapsed, Nat.sub_le .., hrejects⟩
    rw [Duration.nanos_remainingAfter]
    calc s'.clock + (policy.resetTimeout.nanos - (s'.clock - s.clock))
        = s.clock + (s'.clock - s.clock) +
            (policy.resetTimeout.nanos - (s'.clock - s.clock)) := by
          rw [Nat.add_sub_of_le hclock]
      _ = s.clock + policy.resetTimeout.nanos := by
          rw [Nat.add_assoc, Nat.add_sub_of_le (Nat.le_of_lt helapsed)]
  · intro hpast hbefore
    have hcool' := hcool.run hs₁ hb₁ hm (hdeadline₁ ▸ hbefore)
    exact hcool'.admitsTrial (hdeadline ▸ hpast)

/-- The call `7` opens the circuit, the call `8` ends after that, and the call `9` comes too soon.
-/
theorem cooldown_exact_standard :
    let s : Traffic Unit :=
      (fresh "db" .standard 0).run id ([.start 7, .start 8] : List (Op Unit Unit Unit))
    let s₁ : Traffic Unit := s.step id (.finish 7 (.error ()) : Op Unit Unit Unit)
    let mid : List (Op Unit Unit Unit) := [.advance 5, .finish 8 (.ok ()), .start 9]
    let reset := Policy.standard.resetTimeout.nanos
    (∃ left : Duration, 5 + left.nanos = reset ∧
        (s₁.run id mid).Rejects Unit Unit ⟨"db", left⟩) ∧
      (s₁.run id (mid ++ [.advance (reset - 5)])).AdmitsTrial Unit Unit := by
  intro s s₁ mid reset
  have hopens : Opens id s (.finish 7 (.error ()) : Op Unit Unit Unit) :=
    .failed _ (by decide) (by decide)
  have hrun := cooldown_exact id "db" .standard 0 [.start 7, .start 8]
    (.finish 7 (.error ()) : Op Unit Unit Unit)
  constructor
  · obtain ⟨-, hearly, -⟩ := hrun mid hopens (by decide) (by decide)
    obtain ⟨left, hleft, -, -, hrejects⟩ := hearly (by decide)
    exact ⟨left, hleft, hrejects⟩
  · obtain ⟨-, -, hlate⟩ := hrun (mid ++ [.advance (reset - 5)]) hopens (by decide) (by decide)
    refine hlate (by decide) ?_
    show ArriveBefore id s₁ _ [.advance 5, .finish 8 (.ok ()), .start 9, .advance (reset - 5)]
    refine arriveBefore_cons.2 ⟨nofun, ?_⟩
    refine arriveBefore_cons.2 ⟨nofun, ?_⟩
    refine arriveBefore_cons.2 ⟨fun _ _ _ => by decide, ?_⟩
    exact arriveBefore_cons.2 ⟨nofun, arriveBefore_nil⟩

end Traffic

end Breaker
