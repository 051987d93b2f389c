import Breaker.Call
import Breaker.Proofs.Circuit.Coherent

/-!
# One operation of a circuit

`Advance now c c' effects` says what every operation of a circuit has in common: it keeps the name,
the policy and the coherence of the circuit, and makes no transition or exactly one, which is the
one among its effects, advances the generation by one and forgets all failures. There is one lemma
of this form for each operation, and the equations here say what an operation comes to in each
state.
-/

namespace Breaker

namespace Effect

def isSwitch : Effect → Bool
  | switched .. => true
  | _ => false

/-- How many transitions there are among the effects. -/
def switches (effects : List Effect) : Nat := effects.countP isSwitch

@[simp] theorem switches_nil : switches [] = 0 := rfl

@[simp] theorem switches_append (l m : List Effect) :
    switches (l ++ m) = switches l + switches m := List.countP_append

@[simp] theorem switches_log (entry : LogEntry) (l : List Effect) :
    switches (.log entry :: l) = switches l := List.countP_cons_of_neg (by simp [isSwitch])

@[simp] theorem switches_counted (name : String) (o : CallOutcome) (l : List Effect) :
    switches (.counted name o :: l) = switches l := List.countP_cons_of_neg (by simp [isSwitch])

@[simp] theorem switches_notify (n : Notice) (l : List Effect) :
    switches (.notify n :: l) = switches l := List.countP_cons_of_neg (by simp [isSwitch])

@[simp] theorem switches_switched (name : String) (s s' : State) (l : List Effect) :
    switches (.switched name s s' :: l) = switches l + 1 := List.countP_cons_of_pos rfl

end Effect

namespace Circuit

variable {K V E : Type} {now : Instant} {c c' c'' : Circuit K} {effects effects' : List Effect}

@[simp] theorem switches_notice (c : Circuit K) (d : EventDetail) (l : List Effect) :
    Effect.switches (c.notice now d :: l) = Effect.switches l := Effect.switches_notify ..

/-- Whether the state changes on the way from `c` to `c'`, and what goes with it. -/
inductive Turn (c c' : Circuit K) (effects : List Effect) : Prop where
  | stays (switches : Effect.switches effects = 0) (state : c'.state = c.state)
      (generation : c'.generation = c.generation)
  | turns (switches : Effect.switches effects = 1) (state : c'.state ≠ c.state)
      (generation : c'.generation = c.generation + 1) (failures : c'.failures = [])

/-- Only state, generation and effects matter, and that a change of state clears the failures. -/
theorem Turn.congr (h : Turn c c' effects) (hs : c''.state = c'.state)
    (hg : c''.generation = c'.generation) (hf : c'.failures = [] → c''.failures = [])
    (he : Effect.switches effects' = Effect.switches effects) : Turn c c'' effects' := by
  cases h with
  | stays switches state generation =>
    exact .stays (he.trans switches) (hs.trans state) (hg.trans generation)
  | turns switches state generation failures =>
    exact .turns (he.trans switches) (by rw [hs]; exact state) (hg.trans generation) (hf failures)

/-- `c'` and the effects come from `c` by an operation at `now`. -/
structure Advance (now : Instant) (c c' : Circuit K) (effects : List Effect) : Prop where
  name_eq : c'.name = c.name
  policy_eq : c'.policy = c.policy
  turn : Turn c c' effects
  coherent : c.Coherent now → c'.Coherent now

namespace Advance

theorem refl (c : Circuit K) (h : Effect.switches effects = 0) : Advance now c c effects where
  name_eq := rfl
  policy_eq := rfl
  turn := .stays h rfl rfl
  coherent := id

/-- Effects that are no transitions may be added. -/
theorem withEffects (h : Advance now c c' effects)
    (he : Effect.switches effects' = Effect.switches effects) : Advance now c c' effects' where
  name_eq := h.name_eq
  policy_eq := h.policy_eq
  turn := h.turn.congr rfl rfl id he
  coherent := h.coherent

/-- A change of state from a circuit that differs from `c` in its failures only. -/
theorem transition {target : State} (failures : List Instant) (hne : c.state ≠ target)
    (ho : target = .halfOpen → c.state = .opened) :
    Advance now c (({ c with failures } : Circuit K).transition target now).1
      (({ c with failures } : Circuit K).transition target now).2 := by
  refine ⟨?_, ?_, .turns ?_ ?_ ?_ ?_, fun h => ?_⟩
  · simp only [Circuit.transition, hne, ↓reduceIte]
  · simp only [Circuit.transition, hne, ↓reduceIte]
  · simp only [Circuit.transition, hne, ↓reduceIte, switches_notice, Effect.switches_log,
      Effect.switches_switched, Effect.switches_nil]
  · rw [state_transition]
    exact hne.symm
  · exact generation_transition hne
  · exact failures_transition hne
  · refine coherent_transition hne fun hh => h.opened ?_
    rw [ho hh]
    decide

end Advance

/-! ## Admission -/

theorem arrive_of_closed (h : c.state = .closed) : c.arrive now = (c, c.permit now) := by
  simp only [arrive, h]

theorem arrive_of_halfOpen (h : c.state = .halfOpen) :
    c.arrive now = (c, c.reject now .zero) := by
  simp only [arrive, h]

theorem arrive_of_cooling {left : Duration} (h : c.state = .opened)
    (hl : c.cooldownLeft? now = some left) : c.arrive now = (c, c.reject now left) := by
  simp only [arrive, h, hl]

theorem arrive_of_cooled (h : c.state = .opened) (hl : c.cooldownLeft? now = none) :
    c.arrive now =
      ((c.transition .halfOpen now).1,
        (c.transition .halfOpen now).2 ++ ((c.transition .halfOpen now).1.permit now).1,
        ((c.transition .halfOpen now).1.permit now).2) := by
  simp only [arrive, h, hl]

theorem switches_permit (c : Circuit K) (now : Instant) :
    Effect.switches (c.permit now).1 = 0 := by
  simp only [permit, Effect.switches_log, switches_notice, Effect.switches_nil]

theorem switches_reject (c : Circuit K) (now : Instant) (left : Duration) :
    Effect.switches (c.reject now left).1 = 0 := by
  simp only [reject, Effect.switches_log, Effect.switches_counted, switches_notice,
    Effect.switches_nil]

theorem advance_arrive (c : Circuit K) (now : Instant) :
    Advance now c (c.arrive now).1 (c.arrive now).2.1 := by
  cases h : c.state with
  | closed =>
    rw [arrive_of_closed h]
    exact .refl c (c.switches_permit now)
  | halfOpen =>
    rw [arrive_of_halfOpen h]
    exact .refl c (c.switches_reject now _)
  | opened =>
    cases hl : c.cooldownLeft? now with
    | some left =>
      rw [arrive_of_cooling h hl]
      exact .refl c (c.switches_reject now left)
    | none =>
      rw [arrive_of_cooled h hl]
      have ht : Advance now c (c.transition .halfOpen now).1 (c.transition .halfOpen now).2 :=
        .transition c.failures (by rw [h]; decide) fun _ => h
      exact ht.withEffects (by rw [Effect.switches_append, switches_permit, Nat.add_zero])

/-- A permit is of the generation in which it is given, and is a trial's if it makes the circuit
half-open. -/
theorem permit_of_arrive {p : Permit} (h : (c.arrive now).2.2 = .ok p) :
    p.generation = (c.arrive now).1.generation ∧
      ((c.state = .closed ∧ (c.arrive now).1 = c ∧ p.trial = false) ∨
        (c.state = .opened ∧ (c.arrive now).1.state = .halfOpen ∧ p.trial = true)) := by
  cases hs : c.state with
  | closed =>
    rw [arrive_of_closed hs] at h ⊢
    cases h
    exact ⟨rfl, .inl ⟨rfl, rfl, by simp only [hs, reduceCtorEq, decide_false]⟩⟩
  | halfOpen =>
    rw [arrive_of_halfOpen hs] at h
    cases h
  | opened =>
    cases hl : c.cooldownLeft? now with
    | some left =>
      rw [arrive_of_cooling hs hl] at h
      cases h
    | none =>
      rw [arrive_of_cooled hs hl] at h ⊢
      cases h
      exact ⟨rfl, .inr ⟨rfl, state_transition, by simp only [state_transition, decide_true]⟩⟩

/-- A rejected call leaves the circuit alone. -/
theorem arrive_fst_of_error {e : OpenError} (h : (c.arrive now).2.2 = .error e) :
    (c.arrive now).1 = c := by
  cases hs : c.state with
  | closed =>
    rw [arrive_of_closed hs]
  | halfOpen =>
    rw [arrive_of_halfOpen hs]
  | opened =>
    cases hl : c.cooldownLeft? now with
    | some left =>
      rw [arrive_of_cooling hs hl]
    | none =>
      rw [arrive_of_cooled hs hl] at h
      cases h

/-! ## Outcomes -/

theorem advance_settleTrial (c : Circuit K) (now : Instant) :
    Advance now c (c.settleTrial now).1 (c.settleTrial now).2 := by
  unfold settleTrial
  split
  · rename_i h
    exact .transition c.failures (by rw [h]; decide) (by simp)
  · exact .refl c rfl

theorem advance_recordSuccess (c : Circuit K) (now : Instant) :
    Advance now c (c.recordSuccess now).1 (c.recordSuccess now).2 :=
  (c.advance_settleTrial now).withEffects (by
    simp only [recordSuccess, List.cons_append, List.nil_append, Effect.switches_counted,
      switches_notice])

theorem advance_recordIgnored (c : Circuit K) (now : Instant) :
    Advance now c (c.recordIgnored now).1 (c.recordIgnored now).2 :=
  (c.advance_settleTrial now).withEffects (by
    simp only [recordIgnored, List.cons_append, List.nil_append, Effect.switches_counted,
      switches_notice])

/-- What is told about a counted failure of a closed circuit. -/
def failureTold (c : Circuit K) (now : Instant) : List Effect :=
  [.counted c.name .failure, c.notice now (.failed .closed (c.withFailure now).length)]

theorem recordFailure_of_filled (h : c.state = .closed)
    (hf : c.policy.count ≤ (c.withFailure now).length) :
    c.recordFailure now =
      ((({ c with failures := c.withFailure now } : Circuit K).transition .opened now).1,
        c.failureTold now ++
          (({ c with failures := c.withFailure now } : Circuit K).transition .opened now).2) := by
  simp only [recordFailure, h, hf, ↓reduceIte, failureTold]

theorem recordFailure_of_short (h : c.state = .closed)
    (hf : ¬ c.policy.count ≤ (c.withFailure now).length) :
    c.recordFailure now = ({ c with failures := c.withFailure now }, c.failureTold now) := by
  simp only [recordFailure, h, hf, ↓reduceIte, failureTold]

theorem recordFailure_of_halfOpen (h : c.state = .halfOpen) :
    c.recordFailure now =
      ((c.transition .opened now).1,
        [.counted c.name .failure, c.notice now (.failed .halfOpen 1)] ++
          (c.transition .opened now).2) := by
  simp only [recordFailure, h]

theorem recordFailure_of_opened (h : c.state = .opened) :
    c.recordFailure now = (c, [.counted c.name .failure]) := by
  simp only [recordFailure, h]

theorem switches_failureTold (c : Circuit K) (now : Instant) :
    Effect.switches (c.failureTold now) = 0 := by
  simp only [failureTold, Effect.switches_counted, switches_notice, Effect.switches_nil]

theorem advance_recordFailure (c : Circuit K) (now : Instant) :
    Advance now c (c.recordFailure now).1 (c.recordFailure now).2 := by
  cases h : c.state with
  | closed =>
    by_cases hf : c.policy.count ≤ (c.withFailure now).length
    · rw [recordFailure_of_filled h hf]
      have hne : c.state ≠ .opened := by rw [h]; decide
      exact (Advance.transition (c.withFailure now) hne (by simp)).withEffects (by
        rw [Effect.switches_append, switches_failureTold, Nat.zero_add])
    · rw [recordFailure_of_short h hf]
      exact ⟨rfl, rfl, .stays (c.switches_failureTold now) rfl rfl,
        fun hc => hc.withFailure h (Nat.not_le.1 hf)⟩
  | halfOpen =>
    rw [recordFailure_of_halfOpen h]
    have ht : Advance now c (c.transition .opened now).1 (c.transition .opened now).2 :=
      .transition c.failures (by rw [h]; decide) (by simp)
    exact ht.withEffects (by
      simp only [List.cons_append, List.nil_append, Effect.switches_counted, switches_notice])
  | opened =>
    rw [recordFailure_of_opened h]
    exact .refl c rfl

theorem advance_recordClassified (c : Circuit K) (now : Instant) (verdict : Classification) :
    Advance now c (c.recordClassified now verdict).1 (c.recordClassified now verdict).2 := by
  unfold recordClassified
  split
  · exact c.advance_recordFailure now
  · exact c.advance_recordIgnored now

/-- A dropped trial opens the circuit again and leaves the time of its opening as it was. -/
theorem advance_reopen (h : c.state = .halfOpen) :
    Advance now c (c.reopen now).1 (c.reopen now).2 := by
  have ht : Advance now c (c.transition .opened now).1 (c.transition .opened now).2 :=
    .transition c.failures (by rw [h]; decide) (by simp)
  refine ⟨ht.name_eq, ht.policy_eq, ht.turn.congr rfl rfl id rfl, fun hc => ?_⟩
  have hc' := ht.coherent hc
  obtain ⟨t, ho, hle⟩ := hc.opened (by rw [h]; decide)
  exact
    { published_eq := hc'.published_eq
      lastChange_le := hc'.lastChange_le
      sorted := hc'.sorted
      past := hc'.past
      short := hc'.short
      cleared := hc'.cleared
      unopened := fun hs => absurd (state_transition.symm.trans hs) (by decide)
      opened := fun _ => ⟨t, ho, hle⟩ }

theorem abandon_of_live {p : Permit} (ht : p.trial = true) (hg : c.generation = p.generation)
    (hs : c.state = .halfOpen) : c.abandon now p = c.reopen now := by
  simp only [abandon, ht, hg, hs, and_self, ↓reduceIte]

theorem abandon_of_dead {p : Permit}
    (h : ¬ (p.trial = true ∧ c.generation = p.generation ∧ c.state = .halfOpen)) :
    c.abandon now p = (c, []) := by
  simp only [abandon, h, ↓reduceIte]

theorem advance_abandon (c : Circuit K) (now : Instant) (p : Permit) :
    Advance now c (c.abandon now p).1 (c.abandon now p).2 := by
  by_cases h : p.trial = true ∧ c.generation = p.generation ∧ c.state = .halfOpen
  · rw [abandon_of_live h.1 h.2.1 h.2.2]
    exact advance_reopen h.2.2
  · rw [abandon_of_dead h]
    exact .refl c rfl

/-! ## The end of an action -/

variable {p : Permit} {kindOf : E → K}

theorem settle_ok (h : c.generation = p.generation) (v : V) :
    c.settle now p kindOf (.ok v) =
      ((c.recordSuccess now).1, (c.recordSuccess now).2, .ok v) := by
  simp only [settle, complete, h, ↓reduceIte]

theorem settle_error {e : E} {verdict : Classification} (h : c.generation = p.generation)
    (hv : c.classify (kindOf e) = .ok verdict) :
    (c.settle now p kindOf (.error e) : Circuit K × List Effect × CallResult V E) =
      ((c.recordClassified now verdict).1, (c.recordClassified now verdict).2,
        .error (.inner e)) := by
  simp only [settle, complete, hv, h, ↓reduceIte]

/-- The permit of a call whose error the classifier panics on is spent, and nothing is booked. -/
theorem settle_crashed {e : E} {panic : Panic} (hv : c.classify (kindOf e) = .error panic) :
    (c.settle now p kindOf (.error e) : Circuit K × List Effect × CallResult V E) =
      (c, [], .panicked panic) := by
  simp only [settle, complete, hv]

theorem settle_panic (panic : Panic) :
    (c.settle now p kindOf (.panic panic) : Circuit K × List Effect × CallResult V E) =
      ((c.abandon now p).1, (c.abandon now p).2, .panicked panic) := by
  simp only [settle]

/-- A call of another generation ends without a trace. -/
theorem settle_of_stale (h : c.generation ≠ p.generation) (now : Instant) (kindOf : E → K)
    (action : Action V E) :
    (c.settle now p kindOf action).1 = c ∧ (c.settle now p kindOf action).2.1 = [] := by
  cases action with
  | ok v =>
    simp only [settle, complete, h, ↓reduceIte, and_self]
  | error e =>
    cases hv : c.classify (kindOf e) with
    | ok verdict =>
      simp only [settle, complete, hv, h, ↓reduceIte, and_self]
    | error panic =>
      rw [settle_crashed hv]
      exact ⟨rfl, rfl⟩
  | panic panic =>
    rw [settle_panic, abandon_of_dead fun hd => h hd.2.1]
    exact ⟨rfl, rfl⟩

theorem advance_settle (c : Circuit K) (now : Instant) (p : Permit) (kindOf : E → K)
    (action : Action V E) :
    Advance now c (c.settle now p kindOf action).1 (c.settle now p kindOf action).2.1 := by
  by_cases h : c.generation = p.generation
  · cases action with
    | ok v =>
      rw [settle_ok h]
      exact c.advance_recordSuccess now
    | error e =>
      cases hv : c.classify (kindOf e) with
      | ok verdict =>
        rw [settle_error h hv]
        exact c.advance_recordClassified now verdict
      | error panic =>
        rw [settle_crashed hv]
        exact .refl c rfl
    | panic panic =>
      rw [settle_panic]
      exact c.advance_abandon now p
  · obtain ⟨hc, he⟩ := settle_of_stale h now kindOf action
    rw [hc, he]
    exact .refl c rfl

/-! ## Control -/

theorem advance_forceOpen (c : Circuit K) (now : Instant) :
    Advance now c (c.forceOpen now).1 (c.forceOpen now).2 := by
  unfold forceOpen
  split
  · rename_i h
    refine ⟨rfl, rfl, .stays rfl rfl rfl, fun hc => ?_⟩
    exact
      { published_eq := hc.published_eq
        lastChange_le := hc.lastChange_le
        sorted := hc.sorted
        past := hc.past
        short := hc.short
        cleared := hc.cleared
        unopened := fun hs => absurd (h.symm.trans hs) (by decide)
        opened := fun _ => ⟨now, rfl, Nat.le_refl _⟩ }
  · rename_i h
    exact .transition c.failures h (by simp)

theorem advance_forceClosed (c : Circuit K) (now : Instant) :
    Advance now c (c.forceClosed now).1 (c.forceClosed now).2 := by
  by_cases h : c.state = .closed
  · simp only [forceClosed, transition_self h]
    exact ⟨rfl, rfl, .stays rfl rfl rfl, fun hc =>
      hc.withFailures .nil (List.forall_mem_nil _) c.policy.one_le_count fun _ => rfl⟩
  · have ht : Advance now c (c.transition .closed now).1 (c.transition .closed now).2 :=
      .transition c.failures h (by simp)
    exact ⟨ht.name_eq, ht.policy_eq, ht.turn.congr rfl rfl (fun _ => rfl) rfl, fun hc =>
      (ht.coherent hc).withFailures .nil (List.forall_mem_nil _)
        (c.transition .closed now).1.policy.one_le_count fun _ => rfl⟩

theorem advance_snapshot (c : Circuit K) (now : Instant) :
    Advance now c (c.snapshot now).1 [] :=
  ⟨rfl, rfl, .stays rfl rfl rfl, Coherent.pruned⟩

theorem advance_bindClassifier (c : Circuit K) (now : Instant) (f : Classifier K) :
    Advance now c (c.bindClassifier f).1 [] := by
  unfold bindClassifier
  split
  · exact .refl c rfl
  · exact ⟨rfl, rfl, .stays rfl rfl rfl, fun hc =>
      ⟨hc.published_eq, hc.lastChange_le, hc.sorted, hc.past, hc.short, hc.cleared, hc.unopened,
        hc.opened⟩⟩

end Circuit

end Breaker
