import Breaker.Proofs.Circuit.Does

/-!
# Whom effects are about

Log entries, notices and steps of the metrics each name the circuit that they are about. What an
operation of a circuit leads to is about that circuit alone (`OnlyAbout`).
-/

namespace Breaker

/-- The circuit that the entry is about; a configuration that is skipped has none. -/
def LogEntry.circuit? : LogEntry → Option String
  | permitted circuit _ | rejected circuit _ | transition circuit .. | standardPolicy circuit
  | bound circuit _ | undeclared circuit | dispatching circuit _ | alreadyKnown circuit
  | configured circuit _ | listenerPanicked circuit _ => some circuit
  | skipped _ => none

namespace Effect

/-- The circuit that the effect is about. -/
def circuit? : Effect → Option String
  | log entry => entry.circuit?
  | notify n => some n.event.circuit
  | counted circuit _ | switched circuit .. => some circuit

/-- The effects that are about the circuit of the name, in their order. -/
def about (name : String) (effects : List Effect) : List Effect :=
  effects.filter fun e => e.circuit? = some name

/-- All of the effects are about the circuit of the name. -/
def OnlyAbout (name : String) (effects : List Effect) : Prop :=
  ∀ e ∈ effects, e.circuit? = some name

variable {name other : String} {e : Effect} {l m : List Effect}

theorem about_append (name : String) (l m : List Effect) :
    about name (l ++ m) = about name l ++ about name m := List.filter_append ..

theorem OnlyAbout.nil : OnlyAbout name [] := List.forall_mem_nil _

theorem OnlyAbout.cons (he : e.circuit? = some name) (hl : OnlyAbout name l) :
    OnlyAbout name (e :: l) := List.forall_mem_cons.2 ⟨he, hl⟩

theorem OnlyAbout.append (hl : OnlyAbout name l) (hm : OnlyAbout name m) :
    OnlyAbout name (l ++ m) := List.forall_mem_append.2 ⟨hl, hm⟩

theorem OnlyAbout.about_of_ne (h : OnlyAbout name l) (hne : other ≠ name) : about other l = [] := by
  refine List.filter_eq_nil_iff.2 fun e he => ?_
  rw [h e he, decide_eq_true_eq, Option.some.injEq]
  exact hne.symm

theorem OnlyAbout.about_eq (h : OnlyAbout name l) : about name l = l :=
  List.filter_eq_self.2 fun e he => decide_eq_true (h e he)

end Effect

namespace Circuit

open Effect (OnlyAbout)

variable {K V E : Type}

theorem onlyAbout_transition (c : Circuit K) (target : State) (now : Instant) :
    OnlyAbout c.name (c.transition target now).2 := by
  unfold transition
  split
  · exact .nil
  · exact .cons rfl (.cons rfl (.cons rfl .nil))

theorem name_transition (c : Circuit K) (target : State) (now : Instant) :
    (c.transition target now).1.name = c.name := by
  unfold transition
  split <;> rfl

theorem onlyAbout_permit (c : Circuit K) (now : Instant) : OnlyAbout c.name (c.permit now).1 :=
  .cons rfl (.cons rfl .nil)

theorem onlyAbout_reject (c : Circuit K) (now : Instant) (left : Duration) :
    OnlyAbout c.name (c.reject now left).1 := .cons rfl (.cons rfl (.cons rfl .nil))

theorem onlyAbout_arrive (c : Circuit K) (now : Instant) :
    OnlyAbout c.name (c.arrive now).2.1 := by
  cases h : c.state with
  | closed =>
    rw [arrive_of_closed h]
    exact c.onlyAbout_permit now
  | halfOpen =>
    rw [arrive_of_halfOpen h]
    exact c.onlyAbout_reject now _
  | opened =>
    cases hl : c.cooldownLeft? now with
    | some left =>
      rw [arrive_of_cooling h hl]
      exact c.onlyAbout_reject now left
    | none =>
      rw [arrive_of_cooled h hl]
      have hpermit := (c.transition .halfOpen now).1.onlyAbout_permit now
      rw [name_transition] at hpermit
      exact (c.onlyAbout_transition .halfOpen now).append hpermit

/-! ## Outcomes -/

theorem onlyAbout_settleTrial (c : Circuit K) (now : Instant) :
    OnlyAbout c.name (c.settleTrial now).2 := by
  unfold settleTrial
  split
  · exact c.onlyAbout_transition .closed now
  · exact .nil

theorem onlyAbout_recordSuccess (c : Circuit K) (now : Instant) :
    OnlyAbout c.name (c.recordSuccess now).2 :=
  .cons rfl (.cons rfl (c.onlyAbout_settleTrial now))

theorem onlyAbout_recordIgnored (c : Circuit K) (now : Instant) :
    OnlyAbout c.name (c.recordIgnored now).2 :=
  .cons rfl (.cons rfl (c.onlyAbout_settleTrial now))

theorem onlyAbout_failureTold (c : Circuit K) (now : Instant) :
    OnlyAbout c.name (c.failureTold now) := .cons rfl (.cons rfl .nil)

theorem onlyAbout_recordFailure (c : Circuit K) (now : Instant) :
    OnlyAbout c.name (c.recordFailure now).2 := by
  cases h : c.state with
  | closed =>
    by_cases hf : c.policy.count ≤ (c.withFailure now).length
    · rw [recordFailure_of_filled h hf]
      have hopens := ({ c with failures := c.withFailure now } : Circuit K).onlyAbout_transition
        .opened now
      exact (c.onlyAbout_failureTold now).append hopens
    · rw [recordFailure_of_short h hf]
      exact c.onlyAbout_failureTold now
  | halfOpen =>
    rw [recordFailure_of_halfOpen h]
    exact .cons rfl (.cons rfl (c.onlyAbout_transition .opened now))
  | opened =>
    rw [recordFailure_of_opened h]
    exact .cons rfl .nil

theorem onlyAbout_recordClassified (c : Circuit K) (now : Instant) (verdict : Classification) :
    OnlyAbout c.name (c.recordClassified now verdict).2 := by
  unfold recordClassified
  split
  · exact c.onlyAbout_recordFailure now
  · exact c.onlyAbout_recordIgnored now

theorem onlyAbout_abandon (c : Circuit K) (now : Instant) (p : Permit) :
    OnlyAbout c.name (c.abandon now p).2 := by
  unfold abandon
  split
  · exact c.onlyAbout_transition .opened now
  · exact .nil

theorem onlyAbout_settle (c : Circuit K) (now : Instant) (p : Permit) (kindOf : E → K)
    (action : Action V E) : OnlyAbout c.name (c.settle now p kindOf action).2.1 := by
  by_cases h : c.generation = p.generation
  · cases action with
    | ok v =>
      rw [settle_ok h]
      exact c.onlyAbout_recordSuccess now
    | error e =>
      cases hv : c.classify (kindOf e) with
      | ok verdict =>
        rw [settle_error h hv]
        exact c.onlyAbout_recordClassified now verdict
      | error panic =>
        rw [settle_crashed hv]
        exact .nil
    | panic panic =>
      rw [settle_panic]
      exact c.onlyAbout_abandon now p
  · rw [(settle_of_stale h now kindOf action).2]
    exact .nil

/-! ## Control -/

theorem onlyAbout_forceOpen (c : Circuit K) (now : Instant) :
    OnlyAbout c.name (c.forceOpen now).2 := by
  unfold forceOpen
  split
  · exact .nil
  · exact c.onlyAbout_transition .opened now

theorem onlyAbout_forceClosed (c : Circuit K) (now : Instant) :
    OnlyAbout c.name (c.forceClosed now).2 := c.onlyAbout_transition .closed now

/-- Whatever is done with a circuit leads to effects about that circuit alone. -/
theorem Does.onlyAbout {c c' : Circuit K} {now : Instant} {effects : List Effect}
    (h : Does now c c' effects) : OnlyAbout c.name effects := by
  cases h with
  | looks | bindClassifier f | snapshot => exact .nil
  | arrive => exact c.onlyAbout_arrive now
  | settle p kindOf action => exact c.onlyAbout_settle now p kindOf action
  | abandon p => exact c.onlyAbout_abandon now p
  | forceOpen => exact c.onlyAbout_forceOpen now
  | forceClosed => exact c.onlyAbout_forceClosed now

end Circuit

end Breaker
