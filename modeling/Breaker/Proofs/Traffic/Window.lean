import Breaker.Proofs.Circuit.Window
import Breaker.Proofs.Traffic.Phase

/-!
# The window and the whole history

`history` collects the times of all failures that have counted since the circuit
was last closed or cleared, and forgets none for its age. A closed circuit may
have pruned its list at any failure and any snapshot, but what it dropped has
left the window for good (`Remembers`), so that counting the history and counting
the list come to the same.
-/

namespace Breaker

/-- Whether the operation clears the circuit by hand. -/
def Op.isClearing {K V E : Type} : Op K V E → Bool
  | forceClosed | reset => true
  | _ => false

namespace Traffic

variable {K V E : Type} {kindOf : E → K} {s : Traffic K}

section Histories

variable {op : Op K V E} {past : List Instant}

/-- Whether the operation enters the closed state. -/
def closes (kindOf : E → K) (s : Traffic K) (op : Op K V E) : Bool :=
  s.circuit.state ≠ .closed && (s.step kindOf op).circuit.state = .closed

/-- Whether the count begins anew. -/
def clears (kindOf : E → K) (s : Traffic K) (op : Op K V E) : Bool :=
  op.isClearing || s.closes kindOf op

/-- The failures to be counted after the operation. -/
def remember (kindOf : E → K) (s : Traffic K) (past : List Instant) (op : Op K V E) :
    List Instant :=
  if s.clears kindOf op then []
  else if s.trips kindOf op then past ++ [s.clock]
  else past

/-- The failures to be counted after the operations. -/
def history (kindOf : E → K) : Traffic K → List Instant → List (Op K V E) → List Instant
  | _, past, [] => past
  | s, past, op :: ops => history kindOf (s.step kindOf op) (s.remember kindOf past op) ops

/-- The circuit holds what is left to be counted of the past. -/
def Remembers (s : Traffic K) (past : List Instant) : Prop :=
  s.circuit.policy.Keeps s.clock past s.circuit.failures

/-! ## What a step does to the failures -/

theorem closes_eq_true_iff :
    s.closes kindOf op = true ↔
      s.circuit.state ≠ .closed ∧ (s.step kindOf op).circuit.state = .closed := by
  simp only [closes, Bool.and_eq_true, decide_eq_true_eq]

theorem failures_of_clears (h : s.clears kindOf op = true) :
    (s.step kindOf op).circuit.failures = [] := by
  rcases Bool.or_eq_true _ _ ▸ h with hhand | hcloses
  · cases op with
    | forceClosed => rfl
    | reset => rfl
    | _ => cases hhand
  · obtain ⟨hne, hcl⟩ := closes_eq_true_iff.1 hcloses
    cases (course_step kindOf s op).advance.turn with
    | stays switches state generation => exact absurd (state.symm.trans hcl) hne
    | turns switches state generation failures => exact failures

/-- A circuit is closed before a step that leaves it closed without clearing it. -/
theorem closed_of_not_clears (h : s.clears kindOf op = false)
    (hcl : (s.step kindOf op).circuit.state = .closed) : s.circuit.state = .closed := by
  obtain ⟨-, hno⟩ := Bool.or_eq_false_iff.1 h
  by_contra hne
  rw [closes_eq_true_iff.2 ⟨hne, hcl⟩] at hno
  cases hno

/-- While a circuit stays closed, only a failure that counts adds to the list, and only a snapshot
takes something from it. -/
theorem failures_of_closed (hs : s.Sound) (hb : s.transitions < UInt64.size)
    (h : s.circuit.state = .closed) (h' : (s.step kindOf op).circuit.state = .closed)
    (hc : s.clears kindOf op = false) (ht : s.trips kindOf op = false) :
    (s.step kindOf op).circuit.failures = s.circuit.failures ∨
      (s.step kindOf op).circuit.failures = s.circuit.inWindow s.clock := by
  cases op with
  | advance nanos => exact .inl rfl
  | start id =>
    left
    show (s.start id : Traffic K × List Effect × Reply V E).1.circuit.failures = _
    cases hid : s.flight? id with
    | some f => rw [start_of_taken hid]
    | none =>
      have ha : s.circuit.arrive s.clock = (s.circuit, s.circuit.permit s.clock) :=
        Circuit.arrive_of_closed h
      rw [start_of_ok hid (by rw [ha]; rfl), ha]
      rfl
  | finish id action =>
    left
    show (s.finish kindOf id action).1.circuit.failures = _
    cases hid : s.flight? id with
    | none => rw [finish_of_none hid]
    | some f =>
      have hsettle : (s.circuit.settle s.clock f.permit kindOf action).1 = s.circuit := by
        refine Circuit.settle_of_closed h ?_
        rintro hg e verdict rfl hv
        have he := (hs.generation_eq_iff hb (mem_of_flight? hid)).1 hg
        simpa only [trips, hid, hv, he, beq_self_eq_true, Bool.true_and] using ht
      rw [finish_of_some hid, hsettle]
      rfl
  | drop id =>
    left
    show (s.drop id : Traffic K × List Effect × Reply V E).1.circuit.failures = _
    cases hid : s.flight? id with
    | none => rw [drop_of_none hid]
    | some f =>
      rw [drop_of_some hid, Circuit.abandon_of_closed h]
      rfl
  | bindClassifier f => exact .inl (Circuit.failures_bindClassifier f)
  | snapshot => exact .inr rfl
  | forceOpen => exact absurd (Circuit.state_forceOpen.symm.trans h') (by decide)
  | forceClosed => cases hc
  | reset => cases hc

/-! ## Nothing that counts is lost -/

theorem remembers_fresh (name : String) (policy : Policy) (now : Instant) :
    (fresh name policy now : Traffic K).Remembers [] := .refl policy now []

theorem remembers_step (hs : s.Sound) (hb : s.transitions < UInt64.size)
    (h : s.circuit.state = .closed → s.Remembers past)
    (hcl : (s.step kindOf op).circuit.state = .closed) :
    (s.step kindOf op).Remembers (s.remember kindOf past op) := by
  have hc := course_step kindOf s op
  unfold Remembers remember
  rw [hc.advance.policy_eq]
  cases hclears : s.clears kindOf op with
  | true =>
    rw [if_pos rfl, failures_of_clears hclears]
    exact .refl ..
  | false =>
    rw [if_neg Bool.false_ne_true]
    have hcl₀ := closed_of_not_clears hclears hcl
    have hpruned := (h hcl₀).trans (s.circuit.keeps_inWindow s.clock)
    cases htrips : s.trips kindOf op with
    | true =>
      obtain ⟨-, hclock, hcircuit, -⟩ := perform_of_trips hs hb htrips
      rw [hcircuit] at hcl
      rw [if_pos rfl, hclock, hcircuit, Circuit.failures_recordFailure hs.coherent hcl₀ hcl]
      exact hpruned.append [s.clock]
    | false =>
      rw [if_neg Bool.false_ne_true]
      rcases failures_of_closed hs hb hcl₀ hcl hclears htrips with hf | hf
      · rw [hf]
        exact (h hcl₀).later hc.clock_le
      · rw [hf]
        exact hpruned.later hc.clock_le

theorem remembers_run {ops : List (Op K V E)} (hs : s.Sound)
    (hb : (s.run kindOf ops).transitions < UInt64.size)
    (h : s.circuit.state = .closed → s.Remembers past)
    (hcl : (s.run kindOf ops).circuit.state = .closed) :
    (s.run kindOf ops).Remembers (history kindOf s past ops) := by
  induction ops generalizing s past with
  | nil => exact h hcl
  | cons op ops ih =>
    have hle := transitions_le_run kindOf s (op :: ops)
    exact ih (hs.step op) hb (remembers_step hs (Nat.lt_of_le_of_lt hle hb) h) hcl

theorem Remembers.inWindow_eq (hs : s.Sound) (h : s.Remembers past) :
    s.circuit.inWindow s.clock = past.filter (s.circuit.policy.counts s.clock) :=
  ((h.trans (s.circuit.keeps_inWindow s.clock)).filter_eq fun _ ht =>
    Circuit.counts_of_mem_inWindow hs.coherent.sorted ht).symm

end Histories

/-! ## The count -/

/-- **The window is counted as if nothing were ever pruned.** On a closed circuit the number that is
told about a failure and that decides whether the circuit opens is the number of failures in the
window, out of all since the circuit was last closed or cleared; and a snapshot shows this number.
-/
theorem window_exact (kindOf : E → K) (name : String) (policy : Policy) (now : Instant)
    (ops : List (Op K V E)) :
    let start : Traffic K := fresh name policy now
    let s := start.run kindOf ops
    let past := history kindOf start [] ops
    s.transitions < UInt64.size → s.circuit.state = .closed →
      s.circuit.inWindow s.clock = past.filter (policy.counts s.clock) ∧
        (∀ op : Op K V E, s.trips kindOf op = true →
          let n := (past ++ [s.clock]).countP (policy.counts s.clock)
          Effect.told (s.effects kindOf op) = [n] ∧
            (s.step kindOf op).circuit.state = if policy.count ≤ n then .opened else .closed) ∧
        ∃ view, s.reply kindOf (.snapshot : Op K V E) = .viewed view ∧
          view.failuresInWindow = past.countP (policy.counts s.clock) := by
  intro start s past hb hcl
  have hs : s.Sound := sound_run name policy now ops
  have hpolicy : s.circuit.policy = policy := policy_run kindOf start ops
  have hremembers : s.Remembers past :=
    remembers_run (sound_fresh name policy now) hb (fun _ => remembers_fresh name policy now) hcl
  have hwindow := hremembers.inWindow_eq hs
  rw [hpolicy] at hwindow
  have hlength : (s.circuit.inWindow s.clock).length = past.countP (policy.counts s.clock) := by
    rw [hwindow, List.countP_eq_length_filter]
  refine ⟨hwindow, ?_, ?_⟩
  · intro op htrips
    obtain ⟨-, -, hcircuit, heffects⟩ := perform_of_trips hs hb htrips
    have hn : (s.circuit.withFailure s.clock).length =
        (past ++ [s.clock]).countP (policy.counts s.clock) := by
      rw [Circuit.length_withFailure hs.coherent, hlength, List.countP_append,
        List.countP_singleton, if_pos Policy.counts_self]
    rw [heffects, hcircuit, Circuit.told_recordFailure hcl, Circuit.state_recordFailure hcl, hn,
      hpolicy]
    exact ⟨rfl, rfl⟩
  · exact ⟨_, rfl, hlength⟩

def boundaryPolicy : Policy := .windowed 2 (.ofNanos 10) .zero

/-- The call `0` has failed as long ago as the window is wide. -/
def boundaryRun : List (Op Unit Unit Unit) :=
  [.start 0, .start 1, .finish 0 (.error ()), .advance 10]

/-- A failure counts at the very end of its window. -/
theorem window_exact_boundary :
    let s : Traffic Unit := (fresh "db" boundaryPolicy 0).run id boundaryRun
    let last : Op Unit Unit Unit := .finish 1 (.error ())
    Effect.told (s.effects id last) = [2] ∧ (s.step id last).circuit.state = .opened ∧
      ∃ view, s.reply id (.snapshot : Op Unit Unit Unit) = .viewed view ∧
        view.failuresInWindow = 1 := by
  have hpast : history id (fresh "db" boundaryPolicy 0) [] boundaryRun = [0] := by decide
  have hclock : ((fresh "db" boundaryPolicy 0 : Traffic Unit).run id boundaryRun).clock = 10 := by
    decide
  have hone : [0].countP (boundaryPolicy.counts 10) = 1 := by decide
  have htwo : ([0] ++ [10]).countP (boundaryPolicy.counts 10) = 2 := by decide
  have h := window_exact id "db" boundaryPolicy 0 boundaryRun (by decide) (by decide)
  rw [hpast, hclock, hone, htwo] at h
  obtain ⟨-, hfailure, hsnapshot⟩ := h
  obtain ⟨htold, hstate⟩ := hfailure (.finish 1 (.error ())) (by decide)
  exact ⟨htold, hstate, hsnapshot⟩

end Traffic

end Breaker
