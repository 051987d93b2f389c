import Breaker.Proofs.Traffic.Cooldown
import Breaker.Proofs.Traffic.Reachable

/-!
# What a snapshot foretells

A snapshot shows the time until a trial may run, and a call that arrives is let in or told how long
to wait. The two are worked out apart: `Circuit.trialIn?` takes a difference that stops at zero,
`Circuit.cooldownLeft?` compares first and has an answer for a circuit that never opened. On a
circuit under traffic they agree at every instant, and both go on with the clock in the same way
(`snapshot_foretells_admission`); `Outlook` lists the four ways in which it can stand.
-/

namespace Breaker

namespace Duration

theorem remainingAfter_add (d : Duration) (m n : Nat) :
    d.remainingAfter (m + n) = (d.remainingAfter m).remainingAfter n := by
  ext
  simp only [nanos_remainingAfter]
  omega

theorem remainingAfter_eq_zero {d : Duration} {n : Nat} (h : d.nanos ≤ n) :
    d.remainingAfter n = .zero := by
  ext
  simp only [nanos_remainingAfter, nanos_zero]
  omega

end Duration

namespace Circuit

variable {K : Type} {c : Circuit K} {now t : Instant} {left : Duration}

theorem trialIn?_of_opened (hs : c.state = .opened) (ho : c.openedAt = some t) :
    c.trialIn? now = some (c.policy.resetTimeout.remainingAfter (now - t)) := by
  simp only [trialIn?, hs, ho, ↓reduceIte, Option.map_some]

theorem trialIn?_of_ne (hs : c.state ≠ .opened) : c.trialIn? now = none := by
  simp only [trialIn?, hs, ↓reduceIte]

theorem opened_of_trialIn? (h : c.trialIn? now = some left) :
    c.state = .opened ∧ ∃ t, c.openedAt = some t := by
  unfold trialIn? at h
  split at h
  · rename_i hs
    obtain ⟨t, ho, -⟩ := Option.map_eq_some_iff.1 h
    exact ⟨hs, t, ho⟩
  · cases h

end Circuit

namespace Traffic

variable {K V E : Type} {kindOf : E → K} {s : Traffic K}

/-- What a snapshot shows now. -/
def view (s : Traffic K) : Snapshot := (s.circuit.snapshot s.clock).2

/-- Whoever arrives now is let in as an ordinary call. -/
def AdmitsOrdinary (V E : Type) (s : Traffic K) : Prop :=
  ∀ id, s.flight? id = none →
    (s.start id : Traffic K × List Effect × Reply V E).2.2 = .admitted ∧
      (s.start id : Traffic K × List Effect × Reply V E).1.circuit = s.circuit ∧
      ∃ f, (s.start id : Traffic K × List Effect × Reply V E).1.flight? id = some f ∧
        f.permit.trial = false

/-- How a snapshot and a call that arrives at the same instant go together. -/
structure Foretells (V : Type) (kindOf : E → K) (s : Traffic K) : Prop where
  shown : s.reply kindOf (.snapshot : Op K V E) = .viewed s.view
  waiting : ∀ left : Duration, 0 < left.nanos →
    (s.view.trialIn = some left ↔ s.Rejects V E ⟨s.circuit.name, left⟩)
  due : s.view.trialIn = some .zero ↔ s.AdmitsTrial V E
  closed : s.view.trialIn = none → s.view.state = .closed → s.AdmitsOrdinary V E
  halfOpen : s.view.trialIn = none → s.view.state = .halfOpen →
    s.Rejects V E ⟨s.circuit.name, .zero⟩
  /-- Of an opened circuit, a snapshot always shows the time. -/
  shows : s.view.state = .opened → s.view.trialIn ≠ none
  /-- Time goes on, and nothing else happens. -/
  later : ∀ (left : Duration) (nanos : Nat), s.view.trialIn = some left →
    let s' := s.step kindOf (.advance nanos : Op K V E)
    s'.view.trialIn = some (left.remainingAfter nanos) ∧
      (nanos < left.nanos → s'.Rejects V E ⟨s.circuit.name, left.remainingAfter nanos⟩) ∧
      (left.nanos ≤ nanos → s'.AdmitsTrial V E)

/-! ## How it can stand -/

theorem admitsOrdinary_of_closed (h : s.circuit.state = .closed) : s.AdmitsOrdinary V E := by
  intro id hid
  have ha : (s.circuit.arrive s.clock).2.2 = .ok ⟨s.circuit.generation, false⟩ := by
    rw [Circuit.arrive_of_closed h]
    simp only [Circuit.permit, h, reduceCtorEq, decide_false]
  rw [start_of_ok hid ha]
  refine ⟨rfl, ?_, _, flight?_board_of_none hid, rfl⟩
  show (s.circuit.arrive s.clock).1 = s.circuit
  rw [Circuit.arrive_of_closed h]

/-- What a snapshot shows, and what becomes of a call. -/
inductive Outlook (V E : Type) (s : Traffic K) : Prop
  | ordinary (state : s.circuit.state = .closed) (trialIn : s.view.trialIn = none)
    (admits : s.AdmitsOrdinary V E)
  | reserved (state : s.circuit.state = .halfOpen) (trialIn : s.view.trialIn = none)
    (rejects : s.Rejects V E ⟨s.circuit.name, .zero⟩)
  | cooling (left : Duration) (pos : 0 < left.nanos) (state : s.circuit.state = .opened)
    (trialIn : s.view.trialIn = some left) (rejects : s.Rejects V E ⟨s.circuit.name, left⟩)
  | cooled (state : s.circuit.state = .opened) (trialIn : s.view.trialIn = some .zero)
    (admits : s.AdmitsTrial V E)

theorem Cooling.trialIn {t : Instant} (h : s.Cooling t) :
    s.view.trialIn = some (s.circuit.policy.resetTimeout.remainingAfter (s.clock - t)) :=
  Circuit.trialIn?_of_opened h.opened h.openedAt_eq

theorem Cooling.outlook {t : Instant} (hs : s.Sound) (h : s.Cooling t) : s.Outlook V E := by
  by_cases hlt : s.clock < s.deadline t
  · have helapsed := Nat.sub_lt_left_of_lt_add (h.le_clock hs) hlt
    exact .cooling _ (Nat.sub_pos_of_lt helapsed) h.opened h.trialIn (h.rejects hs hlt)
  · have hpast : s.deadline t ≤ s.clock := Nat.not_lt.1 hlt
    refine .cooled h.opened ?_ (h.admitsTrial hpast)
    rw [h.trialIn, Duration.remainingAfter_eq_zero (Nat.le_sub_of_add_le' hpast)]

theorem Sound.outlook (hs : s.Sound) : s.Outlook V E := by
  cases hst : s.circuit.state with
  | closed =>
    have hne : s.circuit.state ≠ .opened := by simp [hst]
    exact .ordinary hst (Circuit.trialIn?_of_ne hne) (admitsOrdinary_of_closed hst)
  | halfOpen =>
    have hne : s.circuit.state ≠ .opened := by simp [hst]
    exact .reserved hst (Circuit.trialIn?_of_ne hne) (rejects_of_halfOpen hst)
  | opened =>
    obtain ⟨t, ho, -⟩ := hs.coherent.opened (by simp [hst])
    exact Cooling.outlook hs ⟨hst, ho⟩

/-! ## One answer to an arrival -/

theorem Rejects.eq {e e' : OpenError} (h : s.Rejects V E e) (h' : s.Rejects V E e') : e = e' := by
  obtain ⟨id, hid⟩ := s.exists_flight?_eq_none
  have hreply := (h id hid).reply_eq
  rw [(h' id hid).reply_eq, Reply.rejected.injEq] at hreply
  exact hreply.symm

theorem AdmitsTrial.not_rejects {e : OpenError} (h : s.AdmitsTrial V E) : ¬ s.Rejects V E e := by
  intro hr
  obtain ⟨id, hid⟩ := s.exists_flight?_eq_none
  have hreply := (h id hid).1
  rw [(hr id hid).reply_eq] at hreply
  cases hreply

theorem AdmitsOrdinary.not_rejects {e : OpenError} (h : s.AdmitsOrdinary V E) :
    ¬ s.Rejects V E e := by
  intro hr
  obtain ⟨id, hid⟩ := s.exists_flight?_eq_none
  have hreply := (h id hid).1
  rw [(hr id hid).reply_eq] at hreply
  cases hreply

theorem AdmitsOrdinary.not_admitsTrial (h : s.AdmitsOrdinary V E)
    (hst : s.circuit.state = .closed) : ¬ s.AdmitsTrial V E := by
  intro ht
  obtain ⟨id, hid⟩ := s.exists_flight?_eq_none
  have hhalf := (ht id hid).2.1
  rw [(h id hid).2.1, hst] at hhalf
  cases hhalf

/-! ## Snapshot and arrival agree -/

theorem Outlook.waiting_iff (h : s.Outlook V E) {left : Duration} (hpos : 0 < left.nanos) :
    s.view.trialIn = some left ↔ s.Rejects V E ⟨s.circuit.name, left⟩ := by
  cases h with
  | ordinary _ trialIn admits =>
    rw [trialIn]
    exact ⟨nofun, fun hr => absurd hr admits.not_rejects⟩
  | reserved _ trialIn rejects =>
    rw [trialIn]
    refine ⟨nofun, fun hr => ?_⟩
    cases hr.eq rejects
    simp at hpos
  | cooling left' _ _ trialIn rejects =>
    rw [trialIn, Option.some.injEq]
    constructor
    · rintro rfl
      exact rejects
    · intro hr
      exact congrArg OpenError.remaining (rejects.eq hr)
  | cooled _ trialIn admits =>
    rw [trialIn]
    refine ⟨fun hzero => ?_, fun hr => absurd hr admits.not_rejects⟩
    cases hzero
    simp at hpos

theorem Outlook.due_iff (h : s.Outlook V E) : s.view.trialIn = some .zero ↔ s.AdmitsTrial V E := by
  cases h with
  | ordinary state trialIn admits =>
    rw [trialIn]
    exact ⟨nofun, fun ht => absurd ht (admits.not_admitsTrial state)⟩
  | reserved _ trialIn rejects =>
    rw [trialIn]
    exact ⟨nofun, fun ht => absurd rejects ht.not_rejects⟩
  | cooling left pos _ trialIn rejects =>
    rw [trialIn]
    refine ⟨fun hzero => ?_, fun ht => absurd rejects ht.not_rejects⟩
    cases hzero
    simp at pos
  | cooled _ trialIn admits => exact ⟨fun _ => admits, fun _ => trialIn⟩

/-- The clock takes from what a snapshot shows, and lets the next call in when nothing is left. -/
theorem Sound.later (hs : s.Sound) {left : Duration} (h : s.view.trialIn = some left)
    (nanos : Nat) :
    let s' := s.step kindOf (.advance nanos : Op K V E)
    s'.view.trialIn = some (left.remainingAfter nanos) ∧
      (nanos < left.nanos → s'.Rejects V E ⟨s.circuit.name, left.remainingAfter nanos⟩) ∧
      (left.nanos ≤ nanos → s'.AdmitsTrial V E) := by
  intro s'
  obtain ⟨hst, t, ho⟩ := Circuit.opened_of_trialIn? h
  have hcool : s.Cooling t := ⟨hst, ho⟩
  have hcool' : s'.Cooling t := ⟨hst, ho⟩
  obtain ⟨elapsed, helapsed⟩ := Nat.exists_eq_add_of_le (hcool.le_clock hs)
  have hclock : s'.clock = t + (elapsed + nanos) := by
    show s.clock + nanos = _
    rw [helapsed, Nat.add_assoc]
  have hleft : s.circuit.policy.resetTimeout.remainingAfter elapsed = left := by
    have hshown := hcool.trialIn
    rw [helapsed, Nat.add_sub_cancel_left, h] at hshown
    exact (Option.some.inj hshown).symm
  have hleft' : s'.circuit.policy.resetTimeout.remainingAfter (s'.clock - t) =
      left.remainingAfter nanos := by
    rw [hclock, Nat.add_sub_cancel_left, Duration.remainingAfter_add, ← hleft]
    rfl
  have hnanos : left.nanos = s'.circuit.policy.resetTimeout.nanos - elapsed := by
    rw [← hleft]
    rfl
  refine ⟨?_, fun hlt => ?_, fun hpast => ?_⟩
  · rw [hcool'.trialIn, hleft']
  · have hbefore : s'.clock < s'.deadline t := by
      rw [hclock]
      exact Nat.add_lt_add_left (by omega) t
    have hrejects := hcool'.rejects (V := V) (E := E) (hs.step _) hbefore
    rw [hleft'] at hrejects
    exact hrejects
  · refine hcool'.admitsTrial ?_
    rw [hclock]
    exact Nat.add_le_add_left (by omega) t

theorem Sound.foretells (hs : s.Sound) : s.Foretells V kindOf where
  shown := rfl
  waiting _ hpos := hs.outlook.waiting_iff hpos
  due := hs.outlook.due_iff
  closed _ hst := admitsOrdinary_of_closed hst
  halfOpen _ hst := rejects_of_halfOpen hst
  shows hst := by
    obtain ⟨t, ho, -⟩ := hs.coherent.opened (by
      show s.view.state ≠ .closed
      simp [hst])
    have hcool : s.Cooling t := ⟨hst, ho⟩
    simp [hcool.trialIn]
  later _ nanos h := hs.later h nanos

/-- **Snapshot and admission agree**, on every circuit and at every instant that a run leads to:
also after trials that came to nothing, after a circuit that was open already has been opened by
hand, and at the very instant at which the cooldown ends. -/
theorem snapshot_foretells_admission (kindOf : E → K) (name : String) (policy : Policy)
    (now : Instant) (ops : List (Op K V E)) :
    ((fresh name policy now).run kindOf ops).Foretells V kindOf :=
  (sound_run name policy now ops).foretells

end Traffic

end Breaker
