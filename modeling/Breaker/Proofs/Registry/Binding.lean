import Breaker.Proofs.Registry.Deeds

/-!
# Bindings

Two things say what has become of the classification of a name: whether its one chance is spent, and
the classifier of its circuit (`Binding`). They are touched by an `Attempt` alone, and
`Attempt.apply` says how; a name without a circuit counts as unspent. Each deed is an attempt on its
name or leaves the binding as it is (`binding_on`).
-/

namespace Breaker

variable {K : Type}

/-! ## What becomes of a binding -/

structure Binding (K : Type) where
  spent : Bool := false
  classifier : Option (Classifier K) := none

/-- Something that may give a name its classifier. -/
inductive Attempt (K : Type) where
  /-- A binding through the registry. -/
  | explicit (f : Classifier K)
  /-- The first poll of a call, with what is declared with it. -/
  | call (declared : Option (Classifier K))
  /-- A binding on the circuit itself. -/
  | direct (f : Classifier K)

namespace Attempt

def offer? : Attempt K → Option (Classifier K)
  | explicit f | direct f => some f
  | call declared => declared

/-- Whether it uses the one chance of the name. -/
def spends : Attempt K → Bool
  | direct _ => false
  | _ => true

/-- Whether it comes too late for what it offers. -/
def isBarred (a : Attempt K) (b : Binding K) : Bool := a.spends && b.spent

def apply (a : Attempt K) (b : Binding K) : Binding K where
  spent := b.spent || a.spends
  classifier := if a.isBarred b then b.classifier else b.classifier.or a.offer?

/-- What has been bound stays bound. -/
theorem classifier_apply_of_some {a : Attempt K} {b : Binding K} {f : Classifier K}
    (h : b.classifier = some f) : (a.apply b).classifier = some f := by
  simp only [apply, h, Option.some_or, ite_self]

theorem spent_apply {a : Attempt K} {b : Binding K} :
    (a.apply b).spent = true ↔ b.spent = true ∨ a.spends = true := by
  simp only [apply, Bool.or_eq_true]

/-- An attempt takes effect if nothing is bound and it does not come too late. -/
theorem classifier_apply_of_none {a : Attempt K} {b : Binding K} {f : Classifier K}
    (h : b.classifier = none) :
    (a.apply b).classifier = some f ↔ a.isBarred b = false ∧ a.offer? = some f := by
  simp only [apply, h, Option.none_or]
  cases a.isBarred b <;> simp

end Attempt

/-- What a binding becomes by an attempt, if there is one. -/
def Binding.after (b : Binding K) : Option (Attempt K) → Binding K
  | none => b
  | some a => a.apply b

/-! ## Circuits -/

namespace Circuit

variable {V E : Type} (c : Circuit K) (now : Instant)

theorem classifier_transition (target : State) :
    (c.transition target now).1.classifier = c.classifier := by
  unfold transition
  split <;> rfl

theorem classifier_arrive : (c.arrive now).1.classifier = c.classifier := by
  cases h : c.state with
  | closed => rw [arrive_of_closed h]
  | halfOpen => rw [arrive_of_halfOpen h]
  | opened =>
    cases hl : c.cooldownLeft? now with
    | some left => rw [arrive_of_cooling h hl]
    | none =>
      rw [arrive_of_cooled h hl]
      exact c.classifier_transition now .halfOpen

theorem classifier_settleTrial : (c.settleTrial now).1.classifier = c.classifier := by
  unfold settleTrial
  split
  · exact c.classifier_transition now .closed
  · rfl

theorem classifier_recordFailure : (c.recordFailure now).1.classifier = c.classifier := by
  cases h : c.state with
  | closed =>
    by_cases hf : c.policy.count ≤ (c.withFailure now).length
    · rw [recordFailure_of_filled h hf]
      exact classifier_transition _ now .opened
    · rw [recordFailure_of_short h hf]
  | halfOpen =>
    rw [recordFailure_of_halfOpen h]
    exact c.classifier_transition now .opened
  | opened => rw [recordFailure_of_opened h]

theorem classifier_recordClassified (verdict : Classification) :
    (c.recordClassified now verdict).1.classifier = c.classifier := by
  unfold recordClassified
  split
  · exact c.classifier_recordFailure now
  · exact c.classifier_settleTrial now

theorem classifier_abandon (p : Permit) : (c.abandon now p).1.classifier = c.classifier := by
  unfold abandon
  split
  · exact c.classifier_transition now .opened
  · rfl

theorem classifier_settle (p : Permit) (kindOf : E → K) (action : Action V E) :
    (c.settle now p kindOf action).1.classifier = c.classifier := by
  by_cases h : c.generation = p.generation
  · cases action with
    | ok v =>
      rw [settle_ok h]
      exact c.classifier_settleTrial now
    | error e =>
      cases hv : c.classify (kindOf e) with
      | ok verdict =>
        rw [settle_error h hv]
        exact c.classifier_recordClassified now verdict
      | error panic => rw [settle_crashed hv]
    | panic panic =>
      rw [settle_panic]
      exact c.classifier_abandon now p
  · rw [(settle_of_stale h now kindOf action).1]

theorem classifier_forceOpen : (c.forceOpen now).1.classifier = c.classifier := by
  unfold forceOpen
  split
  · rfl
  · exact c.classifier_transition now .opened

theorem classifier_forceClosed : (c.forceClosed now).1.classifier = c.classifier :=
  c.classifier_transition now .closed

/-- The circuit itself takes the first classifier it is given. -/
theorem classifier_bindClassifier (f : Classifier K) :
    (c.bindClassifier f).1.classifier = c.classifier.or (some f) := by
  unfold bindClassifier
  split
  · rename_i h
    rw [h]
    rfl
  · rename_i h
    rw [h]
    rfl

theorem took_bindClassifier (f : Classifier K) :
    (c.bindClassifier f).2 = true ↔ c.classifier = none := by
  unfold bindClassifier
  split
  · rename_i h
    simp only [h, Bool.false_eq_true, reduceCtorEq]
  · rename_i h
    simp only [h]

end Circuit

/-- An operation other than a binding leaves the classifier as it is. -/
theorem Operation.classifier_run (op : Operation K) (c : Circuit K) (now : Instant)
    (h : ∀ f, op ≠ .control (.bindClassifier f)) : (op.run c now).1.classifier = c.classifier := by
  cases op with
  | arrive => exact c.classifier_arrive now
  | settle p action => exact c.classifier_settle now p Failure.kind action
  | abandon p => exact c.classifier_abandon now p
  | control command =>
    cases command with
    | bindClassifier f => exact absurd rfl (h f)
    | classify kinds =>
      cases hk : kinds.mapM c.classify with
      | ok classes => simp only [run, CircuitCommand.run, hk]
      | error panic => simp only [run, CircuitCommand.run, hk]
    | info => rfl
    | snapshot => rfl
    | forceOpen => exact c.classifier_forceOpen now
    | forceClosed => exact c.classifier_forceClosed now
    | reset => exact c.classifier_forceClosed now

/-! ## Entries -/

def Entry.binding (e : Entry K) : Binding K := ⟨e.configured, e.circuit.classifier⟩

/-- What there is of a name, without an entry. -/
def Entry.bindingOf (o : Option (Entry K)) : Binding K := (o.map binding).getD {}

namespace Registry

variable {r : Registry K} {name : String} {now : Instant} {f : Classifier K}

/-- What has become of the classification of the name. -/
def binding (r : Registry K) (name : String) : Binding K := Entry.bindingOf (r.entries.get? name)

theorem spent_binding : (r.binding name).spent = true ↔ r.isConfigured? name = some true := by
  unfold binding isConfigured?
  cases r.entries.get? name with
  | none => exact ⟨nofun, nofun⟩
  | some e => exact ⟨fun hs => congrArg some hs, fun hs => Option.some.inj hs⟩

theorem classifier_of_circuit? {c : Circuit K} (h : r.circuit? name = some c) :
    c.classifier = (r.binding name).classifier := by
  obtain ⟨e, he, rfl⟩ := Option.map_eq_some_iff.1 h
  rw [binding, he]
  rfl

theorem exists_circuit?_of_classifier (h : (r.binding name).classifier = some f) :
    ∃ c, r.circuit? name = some c := by
  unfold binding at h
  cases he : r.entries.get? name with
  | none =>
    rw [he] at h
    cases h
  | some e => exact ⟨e.circuit, Option.map_eq_some_iff.2 ⟨e, he, rfl⟩⟩

theorem binding_entry (r : Registry K) (name : String) (now : Instant) :
    (r.entry name now).1.binding = r.binding name := by
  unfold entry binding
  cases r.entries.get? name <;> rfl

theorem binding_bindEntry (name : String) (e : Entry K) (f : Classifier K) :
    (bindEntry name e f).1.binding = (Attempt.explicit f).apply e.binding := by
  cases h : e.configured with
  | true =>
    simp only [bindEntry, h, ↓reduceIte, Entry.binding, Attempt.apply, Attempt.isBarred,
      Attempt.spends, Bool.true_and, Bool.or_true]
  | false =>
    simp only [bindEntry, h, Bool.false_eq_true, ↓reduceIte, Entry.binding, Attempt.apply,
      Attempt.isBarred, Attempt.spends, Bool.true_and, Bool.or_true, Attempt.offer?,
      Circuit.classifier_bindClassifier]

theorem took_bindEntry (name : String) (e : Entry K) (f : Classifier K) :
    (bindEntry name e f).2.2 = true ↔
      (Attempt.explicit f).isBarred e.binding = false ∧ e.binding.classifier = none := by
  cases h : e.configured with
  | true =>
    simp only [bindEntry, h, ↓reduceIte, Attempt.isBarred, Attempt.spends, Entry.binding,
      Bool.false_eq_true, Bool.true_and, Bool.true_eq_false, false_and]
  | false =>
    simp only [bindEntry, h, Bool.false_eq_true, ↓reduceIte, Attempt.isBarred, Attempt.spends,
      Entry.binding, Bool.and_false, true_and, Circuit.took_bindClassifier]

theorem took_bindClassification (r : Registry K) (name : String) (f : Classifier K)
    (now : Instant) :
    (r.bindClassification name f now).2.2 = true ↔
      (Attempt.explicit f).isBarred (r.binding name) = false ∧
        (r.binding name).classifier = none := by
  unfold bindClassification
  rw [took_bindEntry, binding_entry]

theorem binding_declare (name : String) (e : Entry K) (declared : Option (Classifier K)) :
    (declare name e declared).1.binding = (Attempt.call declared).apply e.binding := by
  cases declared with
  | some f => exact binding_bindEntry name e f
  | none =>
    cases h : e.configured with
    | true =>
      simp only [declare, h, ↓reduceIte, Entry.binding, Attempt.apply, Attempt.isBarred,
        Attempt.spends, Bool.true_and, Bool.or_true]
    | false =>
      simp only [declare, h, Bool.false_eq_true, ↓reduceIte, Entry.binding, Attempt.apply,
        Attempt.isBarred, Attempt.spends, Bool.and_false, Bool.or_true, Attempt.offer?,
        Option.or_none]

end Registry

/-! ## Deeds -/

namespace Deed

variable {name : String} {now : Instant} {o : Option (Entry K)} {deeds : List (Deed K)}

/-- What a deed means for the name, if there is an entry. -/
def attempt? : Deed K → Option (Attempt K)
  | declare declared => some (.call declared)
  | bind f => some (.explicit f)
  | operate (.control (.bindClassifier f)) => some (.direct f)
  | _ => none

/-- A deed is an attempt on the binding or leaves it as it is. -/
theorem binding_on (d : Deed K) (name : String) (now : Instant) (e : Entry K) :
    Entry.bindingOf (d.on name now (some e)) = e.binding.after d.attempt? := by
  cases d with
  | make policy => rfl
  | declare declared => exact Registry.binding_declare name e declared
  | bind f => exact Registry.binding_bindEntry name e f
  | operate op =>
    by_cases hbind : ∃ f, op = .control (.bindClassifier f)
    · obtain ⟨f, rfl⟩ := hbind
      have hclassifier := e.circuit.classifier_bindClassifier f
      show (⟨e.configured, (e.circuit.bindClassifier f).1.classifier⟩ : Binding K) =
        (Attempt.direct f).apply e.binding
      simp only [hclassifier, Attempt.apply, Attempt.isBarred, Attempt.spends, Attempt.offer?,
        Bool.or_false, Bool.false_and, Bool.false_eq_true, ↓reduceIte, Entry.binding]
    · have hother : ∀ f, op ≠ .control (.bindClassifier f) := fun f hf => hbind ⟨f, hf⟩
      have hnone : (operate op).attempt? = none := by
        cases op with
        | control command =>
          cases command with
          | bindClassifier f => exact absurd rfl (hother f)
          | _ => rfl
        | _ => rfl
      rw [hnone]
      exact congrArg (Binding.mk e.configured) (op.classifier_run e.circuit now hother)

/-- Deeds that are no attempts leave the binding as it is. -/
theorem binding_undergo (h : ∀ d ∈ deeds, d.attempt? = none) :
    Entry.bindingOf (undergo name now o deeds).1 = Entry.bindingOf o := by
  induction deeds generalizing o with
  | nil => rfl
  | cons d deeds ih =>
    obtain ⟨hd, hdeeds⟩ := List.forall_mem_cons.1 h
    rw [undergo, ih hdeeds]
    cases o with
    | some e => rw [binding_on, hd]; rfl
    | none =>
      cases d with
      | make policy => rfl
      | _ => rfl

end Deed

end Breaker
