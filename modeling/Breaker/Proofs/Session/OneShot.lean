import Breaker.Proofs.Session.Binding

/-!
# One classification for a name

What a history does to the binding of a name is what its attempts do to it, one after the other. So
an act that gives the name a classifier (`Binds`) finds it without one and leaves it with that one
for good, and the chance of the name is spent from the first act on that uses it (`Spends`).
`OneShot` puts together what this means for the acts that may follow a history, also for those of
sessions with steps inside steps (`oneShot_of_session`).
-/

namespace Breaker

variable {K : Type} [DecidableEq K]

section Attempts

variable {h : Hierarchy K} {route : Route K} {name : String} {a : Attempt K}

theorem Route.name?_of_attempt? (ha : route.attempt? h name = some a) :
    route.name? = some name := by
  cases route with
  | direct address => cases ha
  | gateway ctx =>
    by_cases hn : ctx.name = name
    · exact congrArg some hn
    · simp only [Route.attempt?, hn, ↓reduceIte, reduceCtorEq] at ha
  | service number ctx inner =>
    by_cases hn : ctx.name = name
    · exact congrArg some hn
    · simp only [Route.attempt?, hn, ↓reduceIte, reduceCtorEq] at ha

theorem Route.exists_attempt? (h : Hierarchy K) (hn : route.name? = some name) :
    ∃ declared, route.attempt? h name = some (.call declared) := by
  cases route with
  | direct address => cases hn
  | gateway ctx => exact ⟨_, if_pos (Option.some.inj hn)⟩
  | service number ctx inner => exact ⟨_, if_pos (Option.some.inj hn)⟩

end Attempts

namespace World

variable {w : World K} {name : String} {act : Act K} {acts : List (Act K)} {f : Classifier K}

/-! ## What an act does for the name -/

/-- The act is the one that gives the name its classifier. -/
structure Binds (w : World K) (name : String) (act : Act K) (f : Classifier K) : Prop where
  unbound : (w.binding name).classifier = none
  bound : ((w.perform act).binding name).classifier = some f

/-- The act uses the one chance of the name. -/
inductive Spends (w : World K) (name : String) : Act K → Prop
  | explicit (f : Classifier K) : Spends w name (.command (.bindClassification name f))
  /-- A blocking call asks for its permit, with or without success. -/
  | enter (route : Route K) (named : route.name? = some name) : Spends w name (.enter route)
  /-- A call is polled for the first time, with or without success. -/
  | poll (command : Command K) (route : Route K) (polled : w.polls? command = some route)
    (named : route.name? = some name) : Spends w name (.command command)

/-- The act is none of those that have to do with the classification of a name. -/
inductive Neutral (w : World K) : Act K → Prop
  | getOrCreate (name : String) : Neutral w (.command (.getOrCreate name))
  | bindPolicy (name : String) (policy : Except PolicyError Policy) :
    Neutral w (.command (.bindPolicy name policy))
  | loadProperties (pairs : List (String × String)) : Neutral w (.command (.loadProperties pairs))
  /-- A call on a circuit itself, made blockingly. -/
  | enter (a : Address) : Neutral w (.enter (.direct a))
  | settle (a : Address) (p : Permit) (action : Action Json (Failure K)) :
    Neutral w (.settle a p action)
  /-- A call on a circuit itself, polled as it is made. -/
  | start (id : String) (t : Target) (outcome : Option (Action Json (Failure K))) :
    Neutral w (.command (.start id (.direct t) outcome false))
  /-- A call on a circuit itself, polled later. -/
  | poll (command : Command K) (a : Address) (polled : w.polls? command = some (.direct a)) :
    Neutral w (.command command)
  /-- A call of any kind that is made and not polled. -/
  | unpolled (id : String) (origin : Origin K) (outcome : Option (Action Json (Failure K))) :
    Neutral w (.command (.start id origin outcome true))
  | cancel (id : String) : Neutral w (.command (.cancel id))

theorem attempt?_of_polls? {command : Command K} {route : Route K}
    (h : w.polls? command = some route) (name : String) :
    w.attempt? name (.command command) = route.attempt? w.hierarchy name := by
  cases command with
  | start id origin outcome unpolled => simp only [attempt?, h, Option.bind_some]
  | poll id => simp only [attempt?, h, Option.bind_some]
  | finish id outcome => simp only [attempt?, h, Option.bind_some]
  | _ => cases h

/-- What is done on a circuit itself is not what uses the chance. -/
theorem spends_of_circuit {t : Target} {command : CircuitCommand K} {a : Attempt K}
    (h : w.attempt? name (.command (.circuit t command)) = some a) : a.spends = false := by
  cases command with
  | bindClassifier f =>
    change w.direct? name f t = some a at h
    unfold direct? at h
    split at h
    · split at h
      · cases h
        rfl
      · cases h
    · cases h
  | _ => cases h

/-- The act is an attempt that uses the chance. -/
theorem spends_iff : w.Spends name act ↔ ∃ a, w.attempt? name act = some a ∧ a.spends = true := by
  constructor
  · intro hspends
    cases hspends with
    | explicit f => exact ⟨.explicit f, if_pos rfl, rfl⟩
    | enter route named =>
      obtain ⟨declared, hcall⟩ := route.exists_attempt? w.hierarchy named
      exact ⟨.call declared, hcall, rfl⟩
    | poll command route polled named =>
      obtain ⟨declared, hcall⟩ := route.exists_attempt? w.hierarchy named
      exact ⟨.call declared, (attempt?_of_polls? polled name).trans hcall, rfl⟩
  · rintro ⟨a, ha, hs⟩
    cases act with
    | enter route => exact .enter route (Route.name?_of_attempt? ha)
    | settle address p action => cases ha
    | command command =>
      cases hp : w.polls? command with
      | some route =>
        rw [attempt?_of_polls? hp] at ha
        exact .poll command route hp (Route.name?_of_attempt? ha)
      | none =>
        cases command with
        | bindClassification n f =>
          by_cases hn : n = name
          · rw [hn]
            exact .explicit f
          · simp only [attempt?, hn, ↓reduceIte, reduceCtorEq] at ha
        | circuit t command =>
          rw [spends_of_circuit ha] at hs
          cases hs
        | start id origin outcome unpolled =>
          simp only [attempt?, hp, Option.bind_none, reduceCtorEq] at ha
        | poll id => simp only [attempt?, hp, Option.bind_none, reduceCtorEq] at ha
        | finish id outcome => simp only [attempt?, hp, Option.bind_none, reduceCtorEq] at ha
        | _ => cases ha

theorem spent_perform :
    ((w.perform act).binding name).spent = true ↔
      (w.binding name).spent = true ∨ w.Spends name act := by
  rw [binding_perform, spends_iff]
  cases h : w.attempt? name act with
  | none => simp only [Binding.after, reduceCtorEq, false_and, exists_false, or_false]
  | some a =>
    rw [Binding.after, Attempt.spent_apply]
    simp only [Option.some.injEq, exists_eq_left']

theorem classifier_perform_of_some (h : (w.binding name).classifier = some f) (act : Act K) :
    ((w.perform act).binding name).classifier = some f := by
  rw [binding_perform]
  cases w.attempt? name act with
  | none => exact h
  | some a => exact a.classifier_apply_of_some h

/-- The classifier that a name gets is the one that the act offers, which does not come too late. -/
theorem Binds.attempt (h : w.Binds name act f) :
    ∃ a, w.attempt? name act = some a ∧ a.offer? = some f ∧
      a.isBarred (w.binding name) = false := by
  have hbound := h.bound
  rw [binding_perform] at hbound
  cases ha : w.attempt? name act with
  | none =>
    rw [ha] at hbound
    exact absurd (h.unbound.symm.trans hbound) nofun
  | some a =>
    rw [ha] at hbound
    obtain ⟨hbarred, hoffer⟩ := (Attempt.classifier_apply_of_none h.unbound).1 hbound
    exact ⟨a, rfl, hoffer, hbarred⟩

theorem binds_of_attempt {a : Attempt K} (ha : w.attempt? name act = some a)
    (hoffer : a.offer? = some f) :
    w.Binds name act f ↔
      a.isBarred (w.binding name) = false ∧ (w.binding name).classifier = none := by
  constructor
  · intro h
    obtain ⟨a', ha', -, hbarred⟩ := h.attempt
    cases ha.symm.trans ha'
    exact ⟨hbarred, h.unbound⟩
  · rintro ⟨hbarred, hnone⟩
    refine ⟨hnone, ?_⟩
    rw [binding_perform, ha]
    exact (Attempt.classifier_apply_of_none hnone).2 ⟨hbarred, hoffer⟩

/-- What uses a spent chance comes too late. -/
theorem not_binds_of_spent (h : (w.binding name).spent = true) (hs : w.Spends name act) :
    ¬ w.Binds name act f := by
  intro hbinds
  obtain ⟨a, ha, -, hbarred⟩ := hbinds.attempt
  obtain ⟨a', ha', hspends⟩ := spends_iff.1 hs
  cases ha.symm.trans ha'
  rw [Attempt.isBarred, hspends, h] at hbarred
  cases hbarred

omit [DecidableEq K] in
theorem direct_of_route {t : Target} {route : Route K} (h : w.route (.direct t) = .ok route) :
    ∃ a, route = .direct a := by
  change (w.address? t).map .direct = .ok route at h
  cases ha : w.address? t with
  | error answer =>
    rw [ha] at h
    cases h
  | ok a =>
    rw [ha] at h
    cases h
    exact ⟨a, rfl⟩

theorem Neutral.attempt?_eq_none (h : w.Neutral act) (name : String) :
    w.attempt? name act = none := by
  cases h with
  | start id t outcome =>
    cases hroute : w.route (.direct t) with
    | error answer => simp only [attempt?, polls?, hroute, Except.toOption, Option.bind_none]
    | ok route =>
      obtain ⟨a, rfl⟩ := direct_of_route hroute
      simp only [attempt?, polls?, hroute, Except.toOption, Option.bind_some, Route.attempt?]
  | poll command a polled => exact attempt?_of_polls? polled name
  | _ => rfl

/-! ## Answers -/

/-- An explicit binding says whether it took effect. -/
theorem answer_bindClassification (w : World K) (name : String) (f : Classifier K) :
    ∃ took, (w.command (.bindClassification name f)).2.2 = .flag took ∧
      (took = true ↔ w.Binds name (.command (.bindClassification name f)) f) := by
  have hattempt : w.attempt? name (.command (.bindClassification name f)) = some (.explicit f) :=
    if_pos rfl
  refine ⟨_, rfl, (w.gateway.registry.took_bindClassification name f w.clock).trans ?_⟩
  exact (binds_of_attempt hattempt rfl).symm

/-- So does a binding on the circuit of the name. -/
theorem answer_bindClassifier {c : Circuit K} (h : w.gateway.registry.circuit? name = some c)
    (f : Classifier K) :
    ∃ took, (w.command (.circuit (.named name) (.bindClassifier f))).2.2 = .flag took ∧
      (took = true ↔ w.Binds name (.command (.circuit (.named name) (.bindClassifier f))) f) := by
  have hc : w.circuit? (.named name) = some c := h
  have hlocate : w.locate (.named name) = .ok (.named name, c) := by rw [locate_named, hc]
  have hattempt : w.attempt? name (.command (.circuit (.named name) (.bindClassifier f))) =
      some (.direct f) := by
    show w.direct? name f (.named name) = _
    simp only [direct?, hlocate, ↓reduceIte]
  have hanswer : (w.command (.circuit (.named name) (.bindClassifier f))).2.2 =
      .flag (c.bindClassifier f).2 := by
    show (w.commandCircuit (.named name) (.bindClassifier f)).2.2 = _
    unfold commandCircuit
    rw [hlocate]
    rfl
  refine ⟨_, hanswer, ?_⟩
  rw [c.took_bindClassifier, binds_of_attempt hattempt rfl, Registry.classifier_of_circuit? h]
  exact ⟨fun hnone => ⟨rfl, hnone⟩, And.right⟩

/-! ## Histories -/

/-- Among the acts there is one with the property `P`, in the world that it finds. -/
def Occurs (w : World K) (P : World K → Act K → Prop) (acts : List (Act K)) : Prop :=
  ∃ l act m, acts = l ++ act :: m ∧ P (w.play l) act

section Histories

variable {P : World K → Act K → Prop}

theorem not_occurs_nil : ¬ w.Occurs P [] := by
  rintro ⟨l, act, m, h, -⟩
  exact List.append_ne_nil_of_right_ne_nil l (List.cons_ne_nil act m) h.symm

theorem occurs_cons :
    w.Occurs P (act :: acts) ↔ P w act ∨ (w.perform act).Occurs P acts := by
  constructor
  · rintro ⟨l, act', m, h, hP⟩
    cases l with
    | nil =>
      cases h
      exact .inl hP
    | cons first l =>
      cases h
      exact .inr ⟨l, act', m, rfl, hP⟩
  · rintro (hP | ⟨l, act', m, rfl, hP⟩)
    · exact ⟨[], act, acts, rfl, hP⟩
    · exact ⟨act :: l, act', m, rfl, hP⟩

theorem classifier_play_of_some (h : (w.binding name).classifier = some f) (acts : List (Act K)) :
    ((w.play acts).binding name).classifier = some f := by
  induction acts generalizing w with
  | nil => exact h
  | cons act acts ih => exact ih (classifier_perform_of_some h act)

/-- What has been bound once is bound for good. -/
theorem classifier_of_occurs (h : w.Occurs (fun w act => w.Binds name act f) acts) :
    ((w.play acts).binding name).classifier = some f := by
  obtain ⟨l, act, m, rfl, hbinds⟩ := h
  rw [play_append, play_cons]
  exact classifier_play_of_some hbinds.bound m

theorem classifier_of_not_occurs (hfresh : (w.binding name).classifier = none)
    (h : ¬ w.Occurs (fun w act => ∃ f, w.Binds name act f) acts) :
    ((w.play acts).binding name).classifier = none := by
  induction acts generalizing w with
  | nil => exact hfresh
  | cons act acts ih =>
    rw [occurs_cons, not_or] at h
    obtain ⟨hfirst, hlater⟩ := h
    have hnone : ((w.perform act).binding name).classifier = none := by
      rw [Option.eq_none_iff_forall_not_mem]
      exact fun f hf => hfirst ⟨f, hfresh, hf⟩
    exact ih hnone hlater

theorem spent_play :
    ((w.play acts).binding name).spent = true ↔
      (w.binding name).spent = true ∨ w.Occurs (fun w act => w.Spends name act) acts := by
  induction acts generalizing w with
  | nil => exact ⟨.inl, fun h => h.resolve_right not_occurs_nil⟩
  | cons act acts ih => rw [play_cons, ih, spent_perform, occurs_cons, or_assoc]

end Histories

/-- What a history of acts means for the binding of a name, now and from now on. -/
structure OneShot (w : World K) (name : String) (acts : List (Act K)) : Prop where
  /-- If an act has given the name its classifier, no other one will. -/
  once : w.Occurs (fun w act => ∃ f, w.Binds name act f) acts →
    ∀ act f, ¬ (w.play acts).Binds name act f
  /-- Until then an attempt gives what it offers, unless it needs the chance and that is spent. -/
  takes : ¬ w.Occurs (fun w act => ∃ f, w.Binds name act f) acts →
    ∀ act a f, (w.play acts).attempt? name act = some a → a.offer? = some f →
      (a.spends = true → ¬ w.Occurs (fun w act => w.Spends name act) acts) →
      (w.play acts).Binds name act f
  /-- The classifier that an act gives to the name is the one it offers. -/
  offered : ∀ act f, (w.play acts).Binds name act f →
    ∃ a, (w.play acts).attempt? name act = some a ∧ a.offer? = some f
  /-- Until an act has done so, every kind trips. -/
  before : ¬ w.Occurs (fun w act => ∃ f, w.Binds name act f) acts →
    ∀ c, (w.play acts).gateway.registry.circuit? name = some c → c.classify = .tripAll
  /-- From then on the circuit classifies by what was given. -/
  after : ∀ f, w.Occurs (fun w act => w.Binds name act f) acts →
    ∃ c, (w.play acts).gateway.registry.circuit? name = some c ∧ c.classify = f
  explicit : ∀ f, ∃ took,
    ((w.play acts).command (.bindClassification name f)).2.2 = .flag took ∧
      (took = true ↔ (w.play acts).Binds name (.command (.bindClassification name f)) f)
  direct : ∀ f c, (w.play acts).gateway.registry.circuit? name = some c → ∃ took,
    ((w.play acts).command (.circuit (.named name) (.bindClassifier f))).2.2 = .flag took ∧
      (took = true ↔
        (w.play acts).Binds name (.command (.circuit (.named name) (.bindClassifier f))) f)
  /-- The name is configured from the first act on that uses its chance. -/
  configured : (w.play acts).gateway.registry.isConfigured? name = some true ↔
    w.Occurs (fun w act => w.Spends name act) acts
  /-- After the first act that uses the chance no further one gives the name a classifier. -/
  barred : w.Occurs (fun w act => w.Spends name act) acts →
    ∀ act f, (w.play acts).Spends name act → ¬ (w.play acts).Binds name act f
  neutral : ∀ act, (w.play acts).Neutral act →
    ((w.play acts).perform act).binding name = (w.play acts).binding name

theorem oneShot_of_fresh (hfresh : w.binding name = {}) (acts : List (Act K)) :
    w.OneShot name acts := by
  have hspent : ((w.play acts).binding name).spent = true ↔
      w.Occurs (fun w act => w.Spends name act) acts := by
    rw [spent_play, hfresh]
    exact or_iff_right Bool.false_ne_true
  have hunbound (hnot : ¬ w.Occurs (fun w act => ∃ f, w.Binds name act f) acts) :
      ((w.play acts).binding name).classifier = none :=
    classifier_of_not_occurs (by rw [hfresh]) hnot
  constructor
  case once =>
    rintro ⟨l, act, m, hl, f, hbinds⟩ act' f' hbinds'
    have hsome := classifier_of_occurs (f := f) ⟨l, act, m, hl, hbinds⟩
    rw [hbinds'.unbound] at hsome
    cases hsome
  case takes =>
    intro hnot act a f ha hoffer hchance
    refine (binds_of_attempt ha hoffer).2 ⟨?_, hunbound hnot⟩
    rw [Attempt.isBarred, Bool.and_eq_false_imp]
    intro hs
    exact Bool.eq_false_iff.2 fun hspent' => hchance hs (hspent.1 hspent')
  case offered =>
    intro act f hbinds
    obtain ⟨a, ha, hoffer, -⟩ := hbinds.attempt
    exact ⟨a, ha, hoffer⟩
  case before =>
    intro hnot c hc
    have hnone : ((w.play acts).gateway.registry.binding name).classifier = none := hunbound hnot
    rw [Circuit.classify, Registry.classifier_of_circuit? hc, hnone]
    rfl
  case after =>
    intro f hoccurs
    have hsome : ((w.play acts).gateway.registry.binding name).classifier = some f :=
      classifier_of_occurs hoccurs
    obtain ⟨c, hc⟩ := Registry.exists_circuit?_of_classifier hsome
    refine ⟨c, hc, ?_⟩
    rw [Circuit.classify, Registry.classifier_of_circuit? hc, hsome]
    rfl
  case explicit => exact (w.play acts).answer_bindClassification name
  case direct => exact fun f c hc => answer_bindClassifier hc f
  case configured => exact Registry.spent_binding.symm.trans hspent
  case barred => exact fun hoccurs act f hs => not_binds_of_spent (hspent.2 hoccurs) hs
  case neutral =>
    intro act hneutral
    rw [binding_perform, hneutral.attempt?_eq_none]
    rfl

omit [DecidableEq K] in
theorem binding_start (s : Setup K) (name : String) : s.world.1.binding name = {} := by
  have hentry := (s.blueprint.upkeep_registry (K := K)).entry name
  rw [Table.get?_empty] at hentry
  show Entry.bindingOf (s.world.1.entryAt name) = {}
  refine (congrArg Entry.bindingOf hentry).trans (Deed.binding_undergo fun d hd => ?_)
  obtain ⟨policy, -, rfl⟩ := List.mem_map.1 hd
  rfl

/-- Every session amounts to such a history, whatever the nesting of its steps. -/
theorem oneShot_of_session (s : Setup K) (steps : List (Step K)) (name : String) :
    ∃ acts, (s.world.1.steps steps).1 = s.world.1.play acts ∧ s.world.1.OneShot name acts :=
  ⟨s.world.1.acts steps, s.world.1.steps_eq_play steps,
    oneShot_of_fresh (binding_start s name) _⟩

/-- **A name gets its classifier at most once**, by whatever way comes first, and its chance is
spent by the first explicit binding or the first call through the gateway. -/
theorem binding_oneShot (s : Setup K) (name : String) (acts : List (Act K)) :
    s.world.1.OneShot name acts := oneShot_of_fresh (binding_start s name) acts

/-- What is bound on the circuit itself leaves the chance to the call, which has no use for it. -/
example :
    let w : World Unit := ({ hierarchy := { parent := fun _ => none, label := fun _ => "" } } :
      World Unit).play
        [.command (.getOrCreate "db"),
          .command (.circuit (.named "db") (.bindClassifier fun _ => .ok .ignore)),
          .enter (.gateway ⟨"db", none⟩), .command (.bindClassification "db" .tripAll)]
    w.gateway.registry.isConfigured? "db" = some true ∧
      (w.gateway.registry.circuit? "db").map (·.classify ()) = some (.ok .ignore) :=
  ⟨rfl, rfl⟩

end World

end Breaker
