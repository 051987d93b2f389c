import Breaker.Listener
import Breaker.Proofs.Circuit.Advance

/-!
# Operations stroke by stroke

Listeners are called in the middle of an operation, while the circuit is being worked on. Here each
operation is the sequence of strokes that it consists of, on a `Scene` that every stroke changes on
the spot, and the listeners are any code that may panic at any notice. A panic that came through
would cut the operation short where it stood. None does: whoever listens, the strokes run to their
end, and come to the same circuit, answer and effects as the operation (`Strokes.Completes`).
-/

namespace Breaker

/-- Whether the entry is about the library itself and not about one of its listeners. -/
def LogEntry.isOwn : LogEntry → Bool
  | listenerPanicked .. => false
  | _ => true

/-- A listener as code: what it does to the things it keeps, until it returns or panics. -/
abbrev Hearer (σ : Type) := Notice → EStateM Panic σ Unit

/-- What the strokes of an operation work on. -/
structure Scene (K σ : Type) where
  circuit : Circuit K
  /-- What has taken place so far, notices apart. -/
  effects : List Effect := []
  /-- The things that the listeners keep. -/
  outside : σ

/-- Strokes one after the other; a panic skips the rest and leaves the scene as it is then. -/
abbrev Strokes (K σ α : Type) := EStateM Panic (Scene K σ) α

namespace Strokes

variable {K V E σ α β : Type}

def circuit : Strokes K σ (Circuit K) := do return (← get).circuit

def change (f : Circuit K → Circuit K) : Strokes K σ Unit :=
  modify fun s => { s with circuit := f s.circuit }

def tell (e : Effect) : Strokes K σ Unit :=
  modify fun s => { s with effects := s.effects ++ [e] }

/-- One listener gets a notice. -/
def hear (n : Notice) (hearer : Hearer σ) : Strokes K σ Unit := fun s =>
  match hearer n s.outside with
  | .ok () outside => .ok () { s with outside }
  | .error panic outside => .error panic { s with outside }

def panicked (n : Notice) : Effect := .log (.listenerPanicked n.event.circuit n.event.type)

/-- The listeners get a notice one after the other. -/
def deliver (n : Notice) : List (Hearer σ) → Strokes K σ Unit
  | [] => pure ()
  | hearer :: audience => do
    try hear n hearer
    catch _ => tell (panicked n)
    deliver n audience

/-- Tells the listeners, if there are any, about the circuit as it is now. -/
def emit (audience : List (Hearer σ)) (now : Instant) (detail : EventDetail) :
    Strokes K σ Unit := do
  unless audience.isEmpty do
    let c ← circuit
    deliver ⟨⟨c.name, now, detail⟩, c.published⟩ audience

/-! ## The operations -/

variable (audience : List (Hearer σ)) (now : Instant)

def transitionTo (target : State) : Strokes K σ Unit := do
  let source := (← circuit).state
  unless source = target do
    emit audience now (.transition source target)
    tell (.log (.transition (← circuit).name source target))
    tell (.switched (← circuit).name source target)
    change fun c => { c with state := target }
    change fun c => { c with generation := c.generation + 1 }
    change fun c => { c with lastChange := now }
    change fun c => { c with failures := [] }
    match target with
    | .opened => change fun c => { c with openedAt := some now }
    | .closed => change fun c => { c with openedAt := none }
    | .halfOpen => pure ()
    change fun c => { c with published := target }

def reject (remaining : Duration) : Strokes K σ (Except OpenError Permit) := do
  let c ← circuit
  tell (.log (.rejected c.name remaining))
  tell (.counted c.name .rejected)
  emit audience now (.rejected remaining)
  return .error ⟨c.name, remaining⟩

def permit : Strokes K σ (Except OpenError Permit) := do
  let state := (← circuit).state
  tell (.log (.permitted (← circuit).name state))
  emit audience now (.permitted state)
  return .ok ⟨(← circuit).generation, state = .halfOpen⟩

def arrive : Strokes K σ (Except OpenError Permit) := do
  let c ← circuit
  match c.state with
  | .closed => permit audience now
  | .halfOpen => reject audience now .zero
  | .opened =>
    match c.cooldownLeft? now with
    | some remaining => reject audience now remaining
    | none =>
      transitionTo audience now .halfOpen
      permit audience now

/-- A trial that proves the dependency to be up closes the circuit. -/
def settleTrial (state : State) : Strokes K σ Unit := do
  if state = .halfOpen then transitionTo audience now .closed

def recordSuccess (generation : UInt64) : Strokes K σ Unit := do
  let c ← circuit
  if c.generation = generation then
    tell (.counted c.name .success)
    emit audience now (.succeeded c.state)
    settleTrial audience now c.state

def recordIgnored : Strokes K σ Unit := do
  let c ← circuit
  tell (.counted c.name .ignored)
  emit audience now (.ignored c.state)
  settleTrial audience now c.state

def recordFailure : Strokes K σ Unit := do
  let c ← circuit
  tell (.counted c.name .failure)
  match c.state with
  | .closed =>
    change fun c => { c with failures := c.inWindow now }
    change fun c => { c with failures := c.failures ++ [now] }
    change fun c => { c with failures := c.failures.drop (c.failures.length - c.policy.count) }
    let failures := (← circuit).failures.length
    emit audience now (.failed .closed failures)
    if c.policy.count ≤ failures then transitionTo audience now .opened
  | .halfOpen =>
    emit audience now (.failed .halfOpen 1)
    transitionTo audience now .opened
  | .opened => pure ()

def recordClassified (generation : UInt64) (verdict : Classification) : Strokes K σ Unit := do
  if (← circuit).generation = generation then
    if verdict.trips then recordFailure audience now else recordIgnored audience now

def abandon (p : Permit) : Strokes K σ Unit := do
  let c ← circuit
  if p.trial ∧ c.generation = p.generation ∧ c.state = .halfOpen then
    transitionTo audience now .opened
    change fun c' => { c' with openedAt := c.openedAt }

/-- Ends a call whose action has ended; a panic of the action or of the classifier is passed on. -/
def settle (p : Permit) (kindOf : E → K) (action : Action V E) : Strokes K σ (CallResult V E) := do
  match action with
  | .ok v =>
    recordSuccess audience now p.generation
    return .ok v
  | .error e =>
    match (← circuit).classify (kindOf e) with
    | .ok verdict =>
      recordClassified audience now p.generation verdict
      return .error (.inner e)
    | .error panic => throw panic
  | .panic panic =>
    abandon audience now p
    throw panic

def forceOpen : Strokes K σ Unit := do
  if (← circuit).state = .opened then change fun c => { c with openedAt := some now }
  else transitionTo audience now .opened

def forceClosed : Strokes K σ Unit := do
  transitionTo audience now .closed
  change fun c => { c with failures := [] }

end Strokes

/-! ## What the strokes come to -/

namespace Scene

variable {K σ : Type} {audience : List (Hearer σ)} {s : Scene K σ} {c c' : Circuit K}

/-- One listener has got a notice. -/
def attend (n : Notice) (s : Scene K σ) (hearer : Hearer σ) : Scene K σ :=
  match hearer n s.outside with
  | .ok () outside => { s with outside }
  | .error _ outside => { s with outside, effects := s.effects ++ [Strokes.panicked n] }

/-- An effect has taken place. -/
def witness (audience : List (Hearer σ)) (s : Scene K σ) : Effect → Scene K σ
  | .notify n => audience.foldl (attend n) s
  | e => { s with effects := s.effects ++ [e] }

/-- The circuit has become `c`, with these effects. -/
def after (audience : List (Hearer σ)) (s : Scene K σ) (c : Circuit K) (effects : List Effect) :
    Scene K σ :=
  { effects.foldl (witness audience) s with circuit := c }

/-- What does not look at the circuit does not mind which one is there. -/
theorem foldl_circuit {β : Type} {g : Scene K σ → β → Scene K σ} {c : Circuit K}
    (hg : ∀ s b, g { s with circuit := c } b = { g s b with circuit := c }) (l : List β)
    (s : Scene K σ) : l.foldl g { s with circuit := c } = { l.foldl g s with circuit := c } := by
  induction l generalizing s with
  | nil => rfl
  | cons b l ih => rw [List.foldl_cons, List.foldl_cons, hg, ih]

theorem attend_circuit (n : Notice) (s : Scene K σ) (hearer : Hearer σ) :
    attend n { s with circuit := c } hearer = { attend n s hearer with circuit := c } := by
  unfold attend
  dsimp only
  split <;> rfl

theorem witness_circuit (s : Scene K σ) (e : Effect) :
    witness audience { s with circuit := c } e = { witness audience s e with circuit := c } := by
  cases e with
  | notify n => exact foldl_circuit (attend_circuit n) audience s
  | log entry => rfl
  | counted name outcome => rfl
  | switched name source target => rfl

theorem after_after (l m : List Effect) :
    (s.after audience c l).after audience c' m = s.after audience c' (l ++ m) := by
  unfold after
  rw [foldl_circuit witness_circuit, List.foldl_append]

end Scene

namespace Strokes

variable {K V E σ α β : Type} {audience : List (Hearer σ)} {now : Instant} {m : Strokes K σ α}
  {f : α → Strokes K σ β} {s : Scene K σ} {c c' c'' : Circuit K} {a : α}
  {effects more : List Effect}

/-- How strokes end. -/
def outcome : Except Panic α → Scene K σ → EStateM.Result Panic (Scene K σ) α
  | .ok a, s => .ok a s
  | .error panic, s => .error panic s

/-- On the circuit `c` the strokes run to their end, and that is what the operation comes to. -/
def Completes (audience : List (Hearer σ)) (m : Strokes K σ α) (c : Circuit K)
    (operation : Circuit K × List Effect × Except Panic α) : Prop :=
  ∀ s : Scene K σ, s.circuit = c →
    m s = outcome operation.2.2 (s.after audience operation.1 operation.2.1)

namespace Completes

theorem pure (a : α) (c : Circuit K) : Completes audience (pure a) c (c, [], .ok a) := by
  rintro s rfl
  rfl

theorem bind {result : Except Panic β} (h : Completes audience m c (c', effects, .ok a))
    (hf : Completes audience (f a) c' (c'', more, result)) :
    Completes audience (m >>= f) c (c'', effects ++ more, result) := by
  intro s hs
  have hm : m s = .ok a (s.after audience c' effects) := h s hs
  have hbind : (m >>= f) s = f a (s.after audience c' effects) := by
    show EStateM.bind m f s = _
    simp only [EStateM.bind, hm]
  rw [hbind, hf _ rfl, Scene.after_after]

/-- Strokes that nothing comes of, and more. -/
theorem silently {out : Circuit K × List Effect × Except Panic β}
    (h : Completes audience m c (c', [], .ok a)) (hf : Completes audience (f a) c' out) :
    Completes audience (m >>= f) c out := h.bind hf

/-- Strokes with one effect, and more. -/
theorem telling {e : Effect} {result : Except Panic β}
    (h : Completes audience m c (c', [e], .ok a))
    (hf : Completes audience (f a) c' (c'', more, result)) :
    Completes audience (m >>= f) c (c'', e :: more, result) := h.bind hf

/-- Strokes, and others at the end that nothing comes of. -/
theorem ending {result : Except Panic β} (h : Completes audience m c (c', effects, .ok a))
    (hf : Completes audience (f a) c' (c'', [], result)) :
    Completes audience (m >>= f) c (c'', effects, result) := by
  have hboth := h.bind hf
  rwa [List.append_nil] at hboth

theorem throw (panic : Panic) (c : Circuit K) :
    Completes audience (throw panic : Strokes K σ α) c (c, [], .error panic) := by
  rintro s rfl
  rfl

theorem circuit (c : Circuit K) : Completes audience circuit c (c, [], .ok c) := by
  rintro s rfl
  rfl

theorem change (f : Circuit K → Circuit K) (c : Circuit K) :
    Completes audience (change f) c (f c, [], .ok ()) := by
  rintro s rfl
  rfl

theorem log (entry : LogEntry) (c : Circuit K) :
    Completes audience (tell (.log entry)) c (c, [.log entry], .ok ()) := by
  rintro s rfl
  rfl

theorem counted (name : String) (o : CallOutcome) (c : Circuit K) :
    Completes audience (tell (.counted name o)) c (c, [.counted name o], .ok ()) := by
  rintro s rfl
  rfl

theorem switched (name : String) (source target : State) (c : Circuit K) :
    Completes audience (tell (.switched name source target)) c
      (c, [.switched name source target], .ok ()) := by
  rintro s rfl
  rfl

end Completes

theorem tryCatch_of_ok {s' : Scene K σ} (h : m s = .ok a s') (handle : Panic → Strokes K σ α) :
    tryCatch m handle s = .ok a s' :=
  calc tryCatch m handle s
    _ = tryCatch (fun _ => m s : Strokes K σ α) handle s := rfl
    _ = tryCatch (fun _ => .ok a s' : Strokes K σ α) handle s := by rw [h]
    _ = .ok a s' := rfl

theorem tryCatch_of_error {panic : Panic} {s' : Scene K σ} (h : m s = .error panic s')
    (handle : Panic → Strokes K σ α) : tryCatch m handle s = handle panic s' :=
  calc tryCatch m handle s
    _ = tryCatch (fun _ => m s : Strokes K σ α) handle s := rfl
    _ = tryCatch (fun _ => .error panic s' : Strokes K σ α) handle s := by rw [h]
    _ = handle panic s' := rfl

/-- Whether a listener panics or not, there is a next one. -/
theorem tryCatch_hear (n : Notice) (hearer : Hearer σ) (s : Scene K σ) :
    tryCatch (hear n hearer) (fun _ => tell (panicked n)) s = .ok () (s.attend n hearer) := by
  unfold Scene.attend
  cases h : hearer n s.outside with
  | ok u outside =>
    have hheard : hear n hearer s = .ok () { s with outside } := by simp only [hear, h]
    exact tryCatch_of_ok hheard _
  | error panic outside =>
    have hpanicked : hear n hearer s = .error panic { s with outside } := by simp only [hear, h]
    exact tryCatch_of_error hpanicked _

theorem deliver_eq (n : Notice) (audience : List (Hearer σ)) (s : Scene K σ) :
    deliver n audience s = .ok () (audience.foldl (Scene.attend n) s) := by
  induction audience generalizing s with
  | nil => rfl
  | cons hearer audience ih =>
    show EStateM.bind (tryCatch (hear n hearer) fun _ => tell (panicked n))
      (fun _ => deliver n audience) s = _
    simp only [EStateM.bind, tryCatch_hear]
    exact ih (s.attend n hearer)

theorem Completes.emit (now : Instant) (detail : EventDetail) (c : Circuit K) :
    Completes audience (emit audience now detail) c (c, [c.notice now detail], .ok ()) := by
  rintro s rfl
  have hcircuit : (s.after audience s.circuit [s.circuit.notice now detail]) =
      audience.foldl (Scene.attend ⟨⟨s.circuit.name, now, detail⟩, s.circuit.published⟩) s :=
    (Scene.foldl_circuit (c := s.circuit) (Scene.attend_circuit _) audience s).symm
  show Strokes.emit audience now detail s = .ok () _
  rw [hcircuit, ← deliver_eq]
  cases audience <;> rfl

/-! ## The operations complete -/

theorem completes_transitionTo (audience : List (Hearer σ)) (now : Instant) (target : State)
    (c : Circuit K) :
    Completes audience (transitionTo audience now target) c
      ((c.transition target now).1, (c.transition target now).2, .ok ()) := by
  refine .silently (.circuit c) ?_
  by_cases h : c.state = target
  · simp only [Circuit.transition, h, ↓reduceIte]
    exact .pure () c
  · simp only [Circuit.transition, h, ↓reduceIte]
    refine .telling (.emit now _ c) (.silently (.circuit c) (.telling (.log _ c) ?_))
    refine .silently (.circuit c) (.telling (.switched _ _ _ c) ?_)
    refine .silently (.change _ _) (.silently (.change _ _) (.silently (.change _ _)
      (.silently (.change _ _) ?_)))
    cases target with
    | opened => exact .silently (.change _ _) (.change _ _)
    | closed => exact .silently (.change _ _) (.change _ _)
    | halfOpen => exact .change _ _

theorem completes_reject (audience : List (Hearer σ)) (now : Instant) (left : Duration)
    (c : Circuit K) :
    Completes audience (reject audience now left) c
      (c, (c.reject now left).1, .ok (c.reject now left).2) :=
  .silently (.circuit c) (.telling (.log _ c) (.telling (.counted _ _ c)
    (.telling (.emit now _ c) (.pure _ c))))

theorem completes_permit (audience : List (Hearer σ)) (now : Instant) (c : Circuit K) :
    Completes audience (permit audience now) c (c, (c.permit now).1, .ok (c.permit now).2) :=
  .silently (.circuit c) (.silently (.circuit c) (.telling (.log _ c) (.telling (.emit now _ c)
    (.silently (.circuit c) (.pure _ c)))))

theorem completes_arrive (audience : List (Hearer σ)) (now : Instant) (c : Circuit K) :
    Completes audience (arrive audience now) c
      ((c.arrive now).1, (c.arrive now).2.1, .ok (c.arrive now).2.2) := by
  refine .silently (.circuit c) ?_
  unfold Circuit.arrive
  cases c.state with
  | closed => exact completes_permit audience now c
  | halfOpen => exact completes_reject audience now .zero c
  | opened =>
    cases c.cooldownLeft? now with
    | some left => exact completes_reject audience now left c
    | none =>
      exact .bind (completes_transitionTo audience now .halfOpen c)
        (completes_permit audience now _)

theorem completes_settleTrial (audience : List (Hearer σ)) (now : Instant) (c : Circuit K) :
    Completes audience (settleTrial audience now c.state) c
      ((c.settleTrial now).1, (c.settleTrial now).2, .ok ()) := by
  unfold settleTrial Circuit.settleTrial
  split
  · exact completes_transitionTo audience now .closed c
  · exact .pure () c

theorem completes_recordSuccess (audience : List (Hearer σ)) (now : Instant) (c : Circuit K) :
    Completes audience (recordSuccess audience now c.generation) c
      ((c.recordSuccess now).1, (c.recordSuccess now).2, .ok ()) := by
  refine .silently (.circuit c) ?_
  simp only [↓reduceIte]
  exact .telling (.counted _ _ c) (.telling (.emit now _ c) (completes_settleTrial audience now c))

theorem completes_recordSuccess_of_stale {generation : UInt64} (h : c.generation ≠ generation)
    (audience : List (Hearer σ)) (now : Instant) :
    Completes audience (recordSuccess audience now generation) c (c, [], .ok ()) := by
  refine .silently (.circuit c) ?_
  rw [if_neg h]
  exact .pure () c

theorem completes_recordIgnored (audience : List (Hearer σ)) (now : Instant) (c : Circuit K) :
    Completes audience (recordIgnored audience now) c
      ((c.recordIgnored now).1, (c.recordIgnored now).2, .ok ()) :=
  .silently (.circuit c) (.telling (.counted _ _ c) (.telling (.emit now _ c)
    (completes_settleTrial audience now c)))

theorem completes_recordFailure (audience : List (Hearer σ)) (now : Instant) (c : Circuit K) :
    Completes audience (recordFailure audience now) c
      ((c.recordFailure now).1, (c.recordFailure now).2, .ok ()) := by
  refine .silently (.circuit c) ?_
  cases hs : c.state with
  | closed =>
    by_cases hf : c.policy.count ≤ (c.withFailure now).length
    · rw [Circuit.recordFailure_of_filled hs hf]
      refine .telling (.counted _ _ c) (.silently (.change _ _) (.silently (.change _ _)
        (.silently (.change _ _) (.silently (.circuit _) (.telling (.emit now _ _) ?_)))))
      exact (if_pos hf).symm ▸ completes_transitionTo audience now .opened _
    · rw [Circuit.recordFailure_of_short hs hf]
      refine .telling (.counted _ _ c) (.silently (.change _ _) (.silently (.change _ _)
        (.silently (.change _ _) (.silently (.circuit _) (.telling (.emit now _ _) ?_)))))
      exact (if_neg hf).symm ▸ .pure () _
  | halfOpen =>
    rw [Circuit.recordFailure_of_halfOpen hs]
    exact .telling (.counted _ _ c) (.telling (.emit now _ c)
      (completes_transitionTo audience now .opened c))
  | opened =>
    rw [Circuit.recordFailure_of_opened hs]
    exact .telling (.counted _ _ c) (.pure () c)

theorem completes_recordClassified (audience : List (Hearer σ)) (now : Instant) (c : Circuit K)
    (verdict : Classification) :
    Completes audience (recordClassified audience now c.generation verdict) c
      ((c.recordClassified now verdict).1, (c.recordClassified now verdict).2, .ok ()) := by
  refine .silently (.circuit c) ?_
  unfold Circuit.recordClassified
  simp only [↓reduceIte]
  split
  · exact completes_recordFailure audience now c
  · exact completes_recordIgnored audience now c

theorem completes_recordClassified_of_stale {generation : UInt64} (h : c.generation ≠ generation)
    (audience : List (Hearer σ)) (now : Instant) (verdict : Classification) :
    Completes audience (recordClassified audience now generation verdict) c (c, [], .ok ()) := by
  refine .silently (.circuit c) ?_
  rw [if_neg h]
  exact .pure () c

theorem completes_abandon (audience : List (Hearer σ)) (now : Instant) (p : Permit)
    (c : Circuit K) :
    Completes audience (abandon audience now p) c
      ((c.abandon now p).1, (c.abandon now p).2, .ok ()) := by
  refine .silently (.circuit c) ?_
  unfold Circuit.abandon
  split
  · exact .ending (completes_transitionTo audience now .opened c) (.change _ _)
  · exact .pure () c

/-- The result of a call, for those who see a panic as one. -/
def thrown : CallResult V E → Except Panic (CallResult V E)
  | .panicked panic => .error panic
  | result => .ok result

theorem completes_settle (audience : List (Hearer σ)) (now : Instant) (p : Permit)
    (kindOf : E → K) (action : Action V E) (c : Circuit K) :
    Completes audience (settle audience now p kindOf action) c
      ((c.settle now p kindOf action).1, (c.settle now p kindOf action).2.1,
        thrown (c.settle now p kindOf action).2.2) := by
  cases action with
  | ok v =>
    by_cases hg : c.generation = p.generation
    · rw [Circuit.settle_ok hg]
      unfold settle
      rw [← hg]
      exact .ending (completes_recordSuccess audience now c) (.pure _ _)
    · simp only [Circuit.settle, Circuit.complete, hg, ↓reduceIte]
      exact .ending (completes_recordSuccess_of_stale hg audience now) (.pure _ _)
  | error e =>
    refine .silently (.circuit c) ?_
    cases hv : c.classify (kindOf e) with
    | error panic =>
      rw [Circuit.settle_crashed hv]
      exact .throw panic c
    | ok verdict =>
      by_cases hg : c.generation = p.generation
      · rw [Circuit.settle_error hg hv, ← hg]
        exact .ending (completes_recordClassified audience now c verdict) (.pure _ _)
      · simp only [Circuit.settle, Circuit.complete, hv, hg, ↓reduceIte]
        exact .ending (completes_recordClassified_of_stale hg audience now verdict) (.pure _ _)
  | panic panic =>
    rw [Circuit.settle_panic]
    exact .ending (completes_abandon audience now p c) (.throw panic _)

theorem completes_forceOpen (audience : List (Hearer σ)) (now : Instant) (c : Circuit K) :
    Completes audience (forceOpen audience now) c
      ((c.forceOpen now).1, (c.forceOpen now).2, .ok ()) := by
  refine .silently (.circuit c) ?_
  unfold Circuit.forceOpen
  split
  · exact .change _ c
  · exact completes_transitionTo audience now .opened c

theorem completes_forceClosed (audience : List (Hearer σ)) (now : Instant) (c : Circuit K) :
    Completes audience (forceClosed audience now) c
      ((c.forceClosed now).1, (c.forceClosed now).2, .ok ()) :=
  .ending (completes_transitionTo audience now .closed c) (.change _ _)

/-- Every operation of a circuit that tells its listeners anything runs to its end. -/
structure Uninterrupted (K : Type) (audience : List (Hearer σ)) : Prop where
  arrive : ∀ (now : Instant) (c : Circuit K), Completes audience (arrive audience now) c
    ((c.arrive now).1, (c.arrive now).2.1, .ok (c.arrive now).2.2)
  settle : ∀ (V E : Type) (now : Instant) (p : Permit) (kindOf : E → K) (action : Action V E)
    (c : Circuit K), Completes audience (settle audience now p kindOf action) c
      ((c.settle now p kindOf action).1, (c.settle now p kindOf action).2.1,
        thrown (c.settle now p kindOf action).2.2)
  abandon : ∀ (now : Instant) (p : Permit) (c : Circuit K),
    Completes audience (abandon audience now p) c
      ((c.abandon now p).1, (c.abandon now p).2, .ok ())
  forceOpen : ∀ (now : Instant) (c : Circuit K), Completes audience (forceOpen audience now) c
    ((c.forceOpen now).1, (c.forceOpen now).2, .ok ())
  forceClosed : ∀ (now : Instant) (c : Circuit K), Completes audience (forceClosed audience now) c
    ((c.forceClosed now).1, (c.forceClosed now).2, .ok ())

theorem uninterrupted (K : Type) (audience : List (Hearer σ)) : Uninterrupted K audience where
  arrive := completes_arrive audience
  settle _ _ := completes_settle audience
  abandon := completes_abandon audience
  forceOpen := completes_forceOpen audience
  forceClosed := completes_forceClosed audience

end Strokes

/-! ## What listeners leave behind -/

namespace Effect

/-- Whether the effect is one of the library itself and not a warning about one of its listeners. -/
def isOwn : Effect → Bool
  | log entry => entry.isOwn
  | _ => true

def log? : Effect → Option LogEntry
  | log entry => some entry
  | _ => none

/-- What has taken place but for notices and for warnings about listeners. -/
def own (effects : List Effect) : List Effect := (unheard effects).filter isOwn

theorem own_append (l m : List Effect) : own (l ++ m) = own l ++ own m := by
  simp only [own, unheard, List.filter_append]

theorem own_cons (e : Effect) (l : List Effect) : own (e :: l) = own [e] ++ own l :=
  own_append [e] l

end Effect

namespace Scene

variable {K σ R : Type}

theorem own_attend (n : Notice) (s : Scene K σ) (hearer : Hearer σ) :
    Effect.own (s.attend n hearer).effects = Effect.own s.effects := by
  unfold attend
  split
  · rfl
  · rw [Effect.own_append]
    exact List.append_nil _

theorem own_foldl_attend (n : Notice) (audience : List (Hearer σ)) (s : Scene K σ) :
    Effect.own (audience.foldl (attend n) s).effects = Effect.own s.effects := by
  induction audience generalizing s with
  | nil => rfl
  | cons hearer audience ih => rw [List.foldl_cons, ih, own_attend]

/-- Whoever listens, the scene has the effects of the operation, and warnings at most besides. -/
theorem own_after (audience : List (Hearer σ)) (s : Scene K σ) (c : Circuit K)
    (effects : List Effect) :
    Effect.own (s.after audience c effects).effects =
      Effect.own s.effects ++ Effect.own effects := by
  have hfold : ∀ s : Scene K σ, Effect.own (effects.foldl (witness audience) s).effects =
      Effect.own s.effects ++ Effect.own effects := by
    induction effects with
    | nil => exact fun s => (List.append_nil _).symm
    | cons e effects ih =>
      intro s
      have hfirst : Effect.own (s.witness audience e).effects =
          Effect.own s.effects ++ Effect.own [e] := by
        cases e with
        | notify n => exact (own_foldl_attend n audience s).trans (List.append_nil _).symm
        | log entry => exact Effect.own_append ..
        | counted name outcome => exact Effect.own_append ..
        | switched name source target => exact Effect.own_append ..
      rw [List.foldl_cons, ih, hfirst, List.append_assoc, ← Effect.own_cons]
  exact hfold s

end Scene

namespace Listener

variable {K R : Type} {n : Notice}

/-- A listener that records as code. -/
def hearer (l : Listener R) : Hearer (List R) := fun n => do
  if l.hears n then
    modify (· ++ [l.record n])
    if l.panics n then throw ⟨"listener"⟩

theorem attend_hearer (n : Notice) (l : Listener R) (s : Scene K (List R)) :
    s.attend n l.hearer =
      { s with
        outside := s.outside ++ records [l] n
        effects := s.effects ++ (warnings [l] n).map .log } := by
  unfold Scene.attend hearer records warnings
  cases hhears : l.hears n with
  | false => simp [hhears, EStateM.pure, Pure.pure]
  | true =>
    cases hpanics : l.panics n with
    | false => simp [hhears, hpanics]; rfl
    | true => simp [hhears, hpanics]; rfl

theorem records_cons (l : Listener R) (listeners : List (Listener R)) (n : Notice) :
    records (l :: listeners) n = records [l] n ++ records listeners n := by
  unfold records
  cases h : l.hears n <;> simp [h]

theorem warnings_cons (l : Listener R) (listeners : List (Listener R)) (n : Notice) :
    warnings (l :: listeners) n = warnings [l] n ++ warnings listeners n := by
  unfold warnings
  cases h : l.hears n && l.panics n <;> simp [h]

theorem foldl_attend_hearers (n : Notice) (listeners : List (Listener R))
    (s : Scene K (List R)) :
    (listeners.map hearer).foldl (Scene.attend n) s =
      { s with
        outside := s.outside ++ records listeners n
        effects := s.effects ++ (warnings listeners n).map .log } := by
  induction listeners generalizing s with
  | nil => simp [records, warnings]
  | cons l listeners ih =>
    rw [List.map_cons, List.foldl_cons, ih, attend_hearer, records_cons l listeners,
      warnings_cons l listeners]
    simp only [List.map_append, List.append_assoc]

theorem filterMap_log?_log (entries : List LogEntry) :
    (entries.map Effect.log).filterMap Effect.log? = entries := by
  rw [List.filterMap_map]
  exact List.filterMap_some

/-- What the listeners have recorded in a scene, and its log. -/
def left (s : Scene K (List R)) : List R × List LogEntry :=
  (s.outside, s.effects.filterMap Effect.log?)

theorem left_witness (listeners : List (Listener R)) (s : Scene K (List R)) (e : Effect) :
    left (s.witness (listeners.map hearer) e) =
      ((left s).1 ++ recordsOf listeners [e], (left s).2 ++ logOf listeners [e]) := by
  cases e with
  | notify n =>
    show left ((listeners.map hearer).foldl (Scene.attend n) s) = _
    rw [foldl_attend_hearers]
    simp only [left, List.filterMap_append, filterMap_log?_log, recordsOf, logOf,
      List.filterMap_cons, List.filterMap_nil, Effect.notice?, List.flatMap_cons, List.flatMap_nil,
      List.append_nil]
  | log entry => exact Prod.ext (List.append_nil _).symm List.filterMap_append
  | counted name outcome => exact Prod.ext (List.append_nil _).symm List.filterMap_append
  | switched name source target => exact Prod.ext (List.append_nil _).symm List.filterMap_append

theorem recordsOf_cons (listeners : List (Listener R)) (e : Effect) (l : List Effect) :
    recordsOf listeners (e :: l) = recordsOf listeners [e] ++ recordsOf listeners l := by
  unfold recordsOf
  cases h : e.notice? <;> simp [h]

theorem logOf_cons (listeners : List (Listener R)) (e : Effect) (l : List Effect) :
    logOf listeners (e :: l) = logOf listeners [e] ++ logOf listeners l := by
  unfold logOf
  rw [List.flatMap_cons, List.flatMap_cons, List.flatMap_nil, List.append_nil]

/-- **The strokes of an operation leave just the records and the log that are reported of it**, if
the listeners are such as a session has. -/
theorem left_after (listeners : List (Listener R)) (s : Scene K (List R)) (c : Circuit K)
    (effects : List Effect) :
    left (s.after (listeners.map hearer) c effects) =
      ((left s).1 ++ recordsOf listeners effects, (left s).2 ++ logOf listeners effects) := by
  show left (effects.foldl (Scene.witness (listeners.map hearer)) s) = _
  induction effects generalizing s with
  | nil => exact Prod.ext (List.append_nil _).symm (List.append_nil _).symm
  | cons e effects ih =>
    rw [List.foldl_cons, ih, left_witness, recordsOf_cons listeners e effects,
      logOf_cons listeners e effects]
    simp only [List.append_assoc]

end Listener

end Breaker
