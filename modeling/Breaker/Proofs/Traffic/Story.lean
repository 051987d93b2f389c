import Breaker.Proofs.Circuit.Story
import Breaker.Proofs.Traffic.Window

/-!
# The story of a run

The journal of a circuit under traffic has a story, which every operation continues. As long as
generations tell the epochs apart, no call of the present one ends on an opened circuit
(`tells_step`); so the story can be replayed up to any notice in it and leads to the state in which
that was given, and replaying all of it leads to the state that the circuit is in.
-/

namespace Breaker.Traffic

open Circuit (Tells)

variable {K V E : Type} {kindOf : E → K} {s s' : Traffic K} {effects : List Effect}

/-- All that there has been to hear since the circuit was made. -/
def story (s : Traffic K) : List Notice := Effect.story s.journal

/-- The story can be replayed, and is told in the order of time. -/
structure Recounted (s : Traffic K) : Prop where
  leads : replay .closed s.story = s.circuit.state
  faithful : Faithful true .closed s.story
  sorted : s.story.Pairwise fun n m => n.event.time ≤ m.event.time
  past : ∀ n ∈ s.story, n.event.time ≤ s.clock

theorem Course.journal (h : Course s s' effects) : s'.journal = s.journal ++ effects := by
  cases h with
  | waits nanos after none =>
    subst after none
    exact (List.append_nil _).symm
  | tells c advance after => rw [after, book]
  | boards id p named granted told after => rw [after, board, book]
  | lands id f c named advance after => rw [after, book, land]

theorem story_step (kindOf : E → K) (s : Traffic K) (op : Op K V E) :
    (s.step kindOf op).story = s.story ++ Effect.story (s.effects kindOf op) := by
  unfold story
  rw [(course_step kindOf s op).journal, Effect.story_append]

/-! ## One operation -/

section Operations

variable {clearing : Bool}

theorem tells_start (hs : s.Sound) (id : Nat) :
    Tells clearing s.clock s.circuit (s.start id : Traffic K × List Effect × Reply V E).1.circuit
      (s.start id : Traffic K × List Effect × Reply V E).2.1 := by
  have htells : Tells clearing s.clock s.circuit (s.circuit.arrive s.clock).1
      (s.circuit.arrive s.clock).2.1 := Circuit.tells_arrive hs.coherent.published_eq s.clock
  cases hid : s.flight? id with
  | some f =>
    rw [start_of_taken hid]
    exact .silent rfl
  | none =>
    cases ha : (s.circuit.arrive s.clock).2.2 with
    | ok p =>
      rw [start_of_ok hid ha]
      exact htells
    | error e =>
      rw [start_of_error hid ha]
      rwa [Circuit.arrive_fst_of_error ha] at htells

/-- A call of the present generation is not in flight while the circuit is opened. -/
theorem Sound.state_ne_opened (hs : s.Sound) (hb : s.transitions < UInt64.size) {f : Flight}
    (hf : f ∈ s.inFlight) (hg : s.circuit.generation = f.permit.generation) :
    s.circuit.state ≠ .opened := by
  have he := (hs.generation_eq_iff hb hf).1 hg
  rcases hs.current f hf he with ⟨hst, -⟩ | ⟨hst, -⟩
  · rw [hst]
    decide
  · rw [hst]
    decide

theorem tells_finish (hs : s.Sound) (hb : s.transitions < UInt64.size) (id : Nat)
    (action : Action V E) :
    Tells clearing s.clock s.circuit (s.finish kindOf id action).1.circuit
      (s.finish kindOf id action).2.1 := by
  cases hid : s.flight? id with
  | none =>
    rw [finish_of_none hid]
    exact .silent rfl
  | some f =>
    rw [finish_of_some hid]
    have hne := hs.state_ne_opened hb (mem_of_flight? hid)
    exact Circuit.tells_settle hs.coherent.published_eq hne s.clock kindOf action

theorem tells_drop (hs : s.Sound) (id : Nat) :
    Tells clearing s.clock s.circuit (s.drop id : Traffic K × List Effect × Reply V E).1.circuit
      (s.drop id : Traffic K × List Effect × Reply V E).2.1 := by
  cases hid : s.flight? id with
  | none =>
    rw [drop_of_none hid]
    exact .silent rfl
  | some f =>
    rw [drop_of_some hid]
    exact Circuit.tells_abandon hs.coherent.published_eq s.clock f.permit

end Operations

/-- Every operation goes on with the story, and only one that clears the circuit takes it from
opened to closed. -/
theorem tells_step (hs : s.Sound) (hb : s.transitions < UInt64.size) (kindOf : E → K)
    (op : Op K V E) :
    Tells op.isClearing s.clock s.circuit (s.step kindOf op).circuit (s.effects kindOf op) := by
  have hpub := hs.coherent.published_eq
  cases op with
  | advance nanos => exact .silent rfl
  | start id => exact tells_start hs id
  | finish id action => exact tells_finish hs hb id action
  | drop id => exact tells_drop hs id
  | bindClassifier f => exact .silent (Circuit.state_bindClassifier f)
  | snapshot => exact .silent rfl
  | forceOpen => exact Circuit.tells_forceOpen hpub s.clock
  | forceClosed => exact Circuit.tells_forceClosed hpub s.clock
  | reset => exact Circuit.tells_forceClosed hpub s.clock

/-! ## Runs -/

theorem recounted_fresh (name : String) (policy : Policy) (now : Instant) :
    (fresh name policy now : Traffic K).Recounted where
  leads := rfl
  faithful := faithful_nil
  sorted := .nil
  past := List.forall_mem_nil _

namespace Recounted

theorem step (h : s.Recounted) (hs : s.Sound) (hb : s.transitions < UInt64.size)
    (kindOf : E → K) (op : Op K V E) : (s.step kindOf op).Recounted := by
  have htells := tells_step hs hb kindOf op
  have htime := htells.time_eq
  have hclock := (course_step kindOf s op).clock_le
  constructor
  case leads => rw [story_step, replay_append, h.leads, htells.leads]
  case faithful =>
    have hnext : Faithful true (replay .closed s.story) (Effect.story (s.effects kindOf op)) := by
      rw [h.leads]
      exact htells.faithful.byHand
    rw [story_step]
    exact h.faithful.append hnext
  case sorted =>
    have hnew : (Effect.story (s.effects kindOf op)).Pairwise
        fun n m => n.event.time ≤ m.event.time := by
      refine List.pairwise_of_forall_mem_list fun n hn m hm => ?_
      rw [htime n hn, htime m hm]
    rw [story_step, List.pairwise_append]
    refine ⟨h.sorted, hnew, fun n hn m hm => ?_⟩
    rw [htime m hm]
    exact h.past n hn
  case past =>
    intro n hn
    rw [story_step, List.mem_append] at hn
    rcases hn with hn | hn
    · exact Nat.le_trans (h.past n hn) hclock
    · rw [htime n hn]
      exact hclock

theorem run {ops : List (Op K V E)} (h : s.Recounted) (hs : s.Sound)
    (hb : (s.run kindOf ops).transitions < UInt64.size) : (s.run kindOf ops).Recounted := by
  induction ops generalizing s with
  | nil => exact h
  | cons op ops ih =>
    have hle := transitions_le_run kindOf s (op :: ops)
    have hb₀ : s.transitions < UInt64.size := Nat.lt_of_le_of_lt hle hb
    exact ih (h.step hs hb₀ kindOf op) (hs.step op) hb

end Recounted

/-- **The story of a run is its history.** To replay it up to any point leads to the state that the
circuit is in and shows there, every notice in it fits and shows the state that those before it
lead to, and an operation that does not clear the circuit never takes it from opened to closed. -/
theorem story_replays (kindOf : E → K) (name : String) (policy : Policy) (now : Instant)
    (ops : List (Op K V E)) :
    let start : Traffic K := fresh name policy now
    let s := start.run kindOf ops
    s.transitions < UInt64.size →
      (∀ before later, ops = before ++ later →
        let s₁ := start.run kindOf before
        replay .closed s₁.story = s₁.circuit.state ∧ s₁.circuit.published = s₁.circuit.state) ∧
      Faithful true .closed s.story ∧
      (s.story.Pairwise fun n m => n.event.time ≤ m.event.time) ∧
      ∀ before op later, ops = before ++ op :: later →
        let s₁ := start.run kindOf before
        Faithful op.isClearing s₁.circuit.state (Effect.story (s₁.effects kindOf op)) := by
  intro start s hb
  have hstart : start.Recounted := recounted_fresh name policy now
  have hs : start.Sound := sound_fresh name policy now
  have hbound : ∀ before later, ops = before ++ later →
      (start.run kindOf before).transitions < UInt64.size := by
    rintro before later rfl
    have hle := transitions_le_run kindOf (start.run kindOf before) later
    rw [← run_append] at hle
    exact Nat.lt_of_le_of_lt hle hb
  have hrecounted := hstart.run hs hb
  refine ⟨?_, hrecounted.faithful, hrecounted.sorted, ?_⟩
  · intro before later heq
    have hbefore := hstart.run hs (hbound before later heq)
    exact ⟨hbefore.leads, (hs.run before).coherent.published_eq⟩
  · intro before op later heq
    have hb₁ := hbound before (op :: later) heq
    exact (tells_step (hs.run before) hb₁ kindOf op).faithful

/-- The circuit opens, turns a call away, tries one, whose failure opens it again, and is closed by
hand. -/
def relapse : List (Op Unit Unit Unit) :=
  [.start 0, .finish 0 (.error ()), .start 1, .advance Policy.standard.resetTimeout.nanos,
    .start 1, .finish 1 (.error ()), .advance 1, .reset]

theorem story_replays_relapse :
    let s : Traffic Unit := (fresh "db" .standard 0).run id relapse
    s.story.map (fun n => n.event.detail.type) =
        [.callPermitted, .failureRecorded, .stateTransition, .callRejected, .stateTransition,
          .callPermitted, .failureRecorded, .stateTransition, .stateTransition] ∧
      s.circuit.state = .closed ∧ s.transitions < UInt64.size ∧ Faithful true .closed s.story := by
  have hb : ((fresh "db" .standard 0 : Traffic Unit).run id relapse).transitions < UInt64.size := by
    decide
  obtain ⟨-, hfaithful, -, -⟩ := story_replays id "db" .standard 0 relapse hb
  exact ⟨by decide, by decide, hb, hfaithful⟩

end Breaker.Traffic
