import Breaker.Proofs.Metrics
import Breaker.Proofs.Session.Addressed
import Breaker.Proofs.Session.Names

/-!
# Names are isolated

All circuits share one registry, its listeners and its standing policy, and calls stay in flight
while others are made. A step at one name has nothing to do with any other all the same: two steps
at different names can be done in either order (`Commute`), a step at a name leaves all others as
they are (`Apart`), and what a run comes to for a name is what the steps at that name come to
without the others, on the same clock (`Projects`).
-/

namespace Breaker

open Effect (about)

variable {K : Type}

def Step.isAdvance : Step K → Bool
  | .command (.advance _) => true
  | _ => false

/-- The name under which the circuit is found in the registry. -/
def Address.name? : Address → Option String
  | .named name => some name
  | .standalone _ => none

theorem Address.name?_eq_some_iff {a : Address} {name : String} :
    a.name? = some name ↔ a = .named name := by
  cases a <;> simp [name?]

namespace World

/-- The calls in flight are on their way to the names that own their identifiers. -/
def Keeps (owner : String → Option String) (w : World K) : Prop :=
  ∀ name id call, owner id = some name → w.calls.get? id = some call →
    call.route.address = .named name

/-- Whom the calls in flight give their identifiers to. -/
def owners (w : World K) (id : String) : Option String :=
  (w.calls.get? id).bind fun call => call.route.address.name?

theorem keeps_owners (w : World K) : w.Keeps w.owners := by
  intro name id call howner hcall
  rw [owners, hcall, Option.bind_some] at howner
  exact Address.name?_eq_some_iff.1 howner

/-- All that belongs to a name leads to it. -/
def Tidy (owner : String → Option String) (w : World K) : Prop := ∀ name, w.Proper owner name

/-- The step is addressed at the name, or lets time pass. -/
def concerns (owner : String → Option String) (w : World K) (name : String) (step : Step K) :
    Bool :=
  step.isAdvance || w.subject? owner step = some name

variable [DecidableEq K]

/-- What the steps that are kept come to, in a run of all of them. -/
def echo (keep : Step K → Bool) (w : World K) : List (Step K) → List (List Effect × Answer K)
  | [] => []
  | step :: steps =>
    let later := (w.step step).1.echo keep steps
    if keep step then (w.step step).2 :: later else later

/-- The two steps can be done in either order. -/
structure Commute (w : World K) (first second : Step K) : Prop where
  /-- Effects and answers are the same. -/
  first_same : ((w.step second).1.step first).2 = (w.step first).2
  second_same : ((w.step first).1.step second).2 = (w.step second).2
  registry : ((w.step second).1.step first).1.gateway.registry =
    ((w.step first).1.step second).1.gateway.registry
  calls : ((w.step second).1.step first).1.calls = ((w.step first).1.step second).1.calls
  /-- Every circuit has told the same, in the same order. -/
  told : ∀ name, about name ((w.step second).1.step first).1.journal =
    about name ((w.step first).1.step second).1.journal
  metrics : ((w.step second).1.step first).1.metrics = ((w.step first).1.step second).1.metrics

/-- For the name, a run of the steps comes to what a run of `own` comes to. -/
structure Projects (owner : String → Option String) (name : String) (w : World K)
    (steps own : List (Step K)) : Prop where
  echo : w.echo (w.concerns owner name) steps = w.echo (fun _ => true) own
  /-- The entry, the calls in flight, what has been told, and the clock. -/
  view : (w.steps steps).1.view owner name = (w.steps own).1.view owner name
  tally : (w.steps steps).1.metrics.tally name = (w.steps own).1.metrics.tally name

/-- What holds between a name and all others. -/
structure Isolated (owner : String → Option String) (w : World K) : Prop where
  /-- Steps at two names can be done in either order. -/
  commute : ∀ first second n m, w.subject? owner first = some n →
    w.subject? owner second = some m → n ≠ m → w.Commute first second
  /-- A step at a name leaves every other entry, and all that is told of it, as it was. -/
  frame : ∀ step n, w.subject? owner step = some n → w.Apart owner n (w.step step).1
  /-- What a run comes to for a name depends on time and on the steps at that name alone. -/
  project : ∀ name steps,
    (∀ step ∈ steps, step.isAdvance = true ∨ ∃ n, w.subject? owner step = some n) →
      w.Projects owner name steps (steps.filter (w.concerns owner name))

variable {owner : String → Option String} {name n m : String} {w w' v : World K}
  {out out' : World K × List Effect × Answer K} {step first second : Step K}
  {steps : List (Step K)}

/-! ## Tidy worlds -/

omit [DecidableEq K] in
theorem tidy_of_wellNamed (h : w.WellNamed) (hkeeps : w.Keeps owner) : w.Tidy owner :=
  fun name => ⟨h name, hkeeps name⟩

omit [DecidableEq K] in
theorem Confined.tidy (h : Confined owner name w out out') (ht : w.Tidy owner) :
    out.1.Tidy owner := by
  intro n
  by_cases hn : n = name
  · rw [hn]
    exact h.moves.agree.proper
  · refine ⟨fun c hc => (ht n).bears c ?_, fun id call hid hcall => (ht n).keeps id call hid ?_⟩
    · rw [← hc]
      exact congrArg (Option.map _) (h.moves.apart.entries n hn).symm
    · rw [← hcall]
      refine (h.moves.apart.calls id ?_).symm
      rw [hid, ne_eq, Option.some.injEq]
      exact hn

theorem confined_self (ht : w.Tidy owner) (hsubject : w.subject? owner step = some n) :
    Confined owner n w (w.step step) (w.step step) := confined_step (.self (ht n)) hsubject

/-! ## Either order -/

omit [DecidableEq K] in
theorem registry_eq_of_view (h : ∀ name, v.view owner name = w.view owner name) :
    v.gateway.registry = w.gateway.registry := by
  have hentries : v.gateway.registry.entries = w.gateway.registry.entries :=
    Table.ext_get? fun name => congrArg View.entry (h name)
  have hstanding : v.gateway.registry.standing = w.gateway.registry.standing :=
    congrArg (fun view => view.surroundings.standing) (h "")
  exact congrArg₂ Registry.mk hentries hstanding

omit [DecidableEq K] in
theorem calls_eq_of_view (h : ∀ name, v.view owner name = w.view owner name)
    (hunowned : ∀ id, owner id = none → v.calls.get? id = w.calls.get? id) : v.calls = w.calls := by
  refine Table.ext_get? fun id => ?_
  cases hid : owner id with
  | none => exact hunowned id hid
  | some name =>
    have hcall := congrFun (congrArg View.call? (h name)) id
    simp only [World.view, hid, ↓reduceIte] at hcall
    exact hcall

/-- A step at a name comes to the same after a step at another one, and the name sees no
difference. -/
theorem confined_after (ht : w.Tidy owner) (hfirst : w.subject? owner first = some n)
    (hsecond : w.subject? owner second = some m) (hne : n ≠ m) :
    Confined owner n w (w.step first) ((w.step second).1.step first) :=
  confined_step ⟨(confined_self ht hsecond).moves.apart.view_eq hne, ht n⟩ hfirst

theorem apart_after (ht : w.Tidy owner) (hfirst : w.subject? owner first = some n)
    (hsecond : w.subject? owner second = some m) :
    (w.step first).1.Apart owner m ((w.step first).1.step second).1 := by
  have hconfined := confined_self ht hfirst
  refine (confined_self (hconfined.tidy ht) ?_).moves.apart
  rw [subject?_congr hconfined.moves.apart.surroundings, hsecond]

theorem commute (ht : w.Tidy owner) (hfirst : w.subject? owner first = some n)
    (hsecond : w.subject? owner second = some m) (hne : n ≠ m) : w.Commute first second := by
  have hf := confined_after ht hfirst hsecond hne
  have hs := confined_after ht hsecond hfirst hne.symm
  have hfa := apart_after ht hsecond hfirst
  have hsa := apart_after ht hfirst hsecond
  -- either name sees its own step alone, and all others see neither
  have hview : ∀ name, ((w.step second).1.step first).1.view owner name =
      ((w.step first).1.step second).1.view owner name := by
    intro name
    by_cases hn : name = n
    · rw [hn, hsa.view_eq hne, hf.moves.agree.view_eq]
    · by_cases hm : name = m
      · rw [hm, hfa.view_eq hne.symm, hs.moves.agree.view_eq]
      · rw [hfa.view_eq hn, hsa.view_eq hm, hf.moves.apart.view_eq hn, hs.moves.apart.view_eq hm]
  have hunowned : ∀ id, owner id = none → ((w.step second).1.step first).1.calls.get? id =
      ((w.step first).1.step second).1.calls.get? id := by
    intro id hid
    have hnot : ∀ name, owner id ≠ some name := fun name hname => by
      rw [hid] at hname
      cases hname
    rw [hfa.calls id (hnot n), hsa.calls id (hnot m), hf.moves.apart.calls id (hnot n),
      hs.moves.apart.calls id (hnot m)]
  have htold := fun name => congrArg View.journal (hview name)
  exact
    { first_same := hf.same
      second_same := hs.same
      registry := registry_eq_of_view hview
      calls := calls_eq_of_view hview hunowned
      told := htold
      metrics := Metrics.ofEffects_congr htold }

/-! ## Runs -/

omit [DecidableEq K] in
theorem subject?_advance (w : World K) (span : Duration) :
    (w.advance span).1.subject? owner = w.subject? owner := by
  unfold World.advance
  cases w.clock.after? span <;> rfl

theorem exists_span (h : step.isAdvance = true) :
    ∃ span, ∀ w : World K, w.step step = w.advance span := by
  cases step with
  | command c =>
    cases c with
    | advance span => exact ⟨span, fun _ => rfl⟩
    | _ => cases h
  | _ => cases h

/-- A step of a run keeps the world tidy and changes nothing about who is addressed by what. -/
theorem Tidy.after (ht : w.Tidy owner)
    (h : step.isAdvance = true ∨ ∃ n, w.subject? owner step = some n) :
    (w.step step).1.Tidy owner ∧ (w.step step).1.subject? owner = w.subject? owner := by
  rcases h with hadvance | ⟨n, hsubject⟩
  · obtain ⟨span, hspan⟩ := exists_span hadvance
    rw [hspan]
    exact ⟨fun name => ((Agree.self (ht name)).advance span).1.proper, w.subject?_advance span⟩
  · have hconfined := confined_self ht hsubject
    exact ⟨hconfined.tidy ht, funext (subject?_congr hconfined.moves.apart.surroundings)⟩

theorem Agree.both (h : w.Agree owner name v) (hconcerns : w.concerns owner name step = true) :
    (w.step step).1.Agree owner name (v.step step).1 ∧ (v.step step).2 = (w.step step).2 := by
  rcases Bool.or_eq_true_iff.1 hconcerns with hadvance | hsubject
  · obtain ⟨span, hspan⟩ := exists_span hadvance
    rw [hspan, hspan]
    exact h.advance span
  · have hconfined := confined_step h (of_decide_eq_true hsubject)
    exact ⟨hconfined.moves.agree, hconfined.same⟩

/-- Steps at other names go unnoticed. -/
theorem Agree.skip (h : w.Agree owner name v) (ht : w.Tidy owner)
    (hstep : step.isAdvance = true ∨ ∃ n, w.subject? owner step = some n)
    (hconcerns : w.concerns owner name step = false) : (w.step step).1.Agree owner name v := by
  obtain ⟨hadvance, hname⟩ := Bool.or_eq_false_iff.1 hconcerns
  rcases hstep with hadvance' | ⟨n, hsubject⟩
  · rw [hadvance] at hadvance'
    cases hadvance'
  · have hne : name ≠ n := by
      rintro rfl
      exact of_decide_eq_false hname hsubject
    have hconfined := confined_self ht hsubject
    exact ⟨h.view_eq.trans (hconfined.moves.apart.view_eq hne).symm, hconfined.tidy ht name⟩

omit [DecidableEq K] in
theorem concerns_congr (h : v.subject? owner = w.subject? owner) :
    v.concerns owner name = w.concerns owner name := by
  unfold concerns
  rw [h]

theorem steps_cons (w : World K) (step : Step K) (steps : List (Step K)) :
    (w.steps (step :: steps)).1 = ((w.step step).1.steps steps).1 := by
  rw [World.steps]

/-- The steps that concern the name come to the same without the others. -/
theorem echo_filter (h : w.Agree owner name v) (ht : w.Tidy owner)
    (hsteps : ∀ step ∈ steps, step.isAdvance = true ∨ ∃ n, w.subject? owner step = some n) :
    v.echo (fun _ => true) (steps.filter (w.concerns owner name)) =
        w.echo (w.concerns owner name) steps ∧
      (v.steps (steps.filter (w.concerns owner name))).1.view owner name =
        (w.steps steps).1.view owner name := by
  induction steps generalizing w v with
  | nil => exact ⟨rfl, h.view_eq⟩
  | cons step steps ih =>
    obtain ⟨hstep, hsteps⟩ := List.forall_mem_cons.1 hsteps
    obtain ⟨ht', hsubject⟩ := ht.after hstep
    rw [← hsubject] at hsteps
    -- no step renames a service, so the same steps concern the name from here on
    have hconcerns : (w.step step).1.concerns owner name = w.concerns owner name :=
      concerns_congr hsubject
    rw [steps_cons]
    cases hc : w.concerns owner name step with
    | true =>
      obtain ⟨h', hsame⟩ := h.both hc
      obtain ⟨hecho, hview⟩ := ih h' ht' hsteps
      rw [hconcerns] at hecho hview
      rw [List.filter_cons_of_pos hc, steps_cons]
      simp only [World.echo, hc, ↓reduceIte, hsame, hecho, hview, and_self]
    | false =>
      obtain ⟨hecho, hview⟩ := ih (h.skip ht hstep hc) ht' hsteps
      rw [hconcerns] at hecho hview
      rw [List.filter_cons_of_neg (by rw [hc]; exact Bool.false_ne_true)]
      simp only [World.echo, hc, Bool.false_eq_true, ↓reduceIte, hecho, hview, and_self]

omit [DecidableEq K] in
theorem tally_eq_of_view (h : v.view owner name = w.view owner name) :
    v.metrics.tally name = w.metrics.tally name := by
  have hjournal : about name v.journal = about name w.journal := congrArg View.journal h
  unfold metrics Metrics.tally
  rw [Metrics.get?_ofEffects, hjournal, ← Metrics.get?_ofEffects]

theorem isolated_of_tidy (ht : w.Tidy owner) : w.Isolated owner where
  commute _ _ _ _ hfirst hsecond hne := commute ht hfirst hsecond hne
  frame _ _ hsubject := (confined_self ht hsubject).moves.apart
  project name steps hsteps := by
    obtain ⟨hecho, hview⟩ := echo_filter (.self (ht name)) ht hsteps
    exact ⟨hecho.symm, hview.symm, tally_eq_of_view hview.symm⟩

/-- **Names are isolated**, after any acts of any session, if each identifier of a call belongs to
one name. -/
theorem names_are_isolated (s : Setup K) (acts : List (Act K)) (owner : String → Option String)
    (hkeeps : (s.world.1.play acts).Keeps owner) : (s.world.1.play acts).Isolated owner :=
  isolated_of_tidy (tidy_of_wellNamed ((wellNamed_start s).play acts) hkeeps)

/-- A call to one name is in flight, and fails while another name gets its policy. -/
theorem names_are_isolated_inFlight :
    let s : Setup Unit := { hierarchy := { parent := fun _ => none, label := fun _ => "" } }
    let acts : List (Act Unit) := [.command (.start "call" (.gateway ⟨"db", none⟩) none false)]
    let w := s.world.1.play acts
    let fail : Step Unit := .command (.finish "call" (.error ⟨(), "", ""⟩))
    let bind : Step Unit := .command (.bindPolicy "mail" (.ok (.single .zero)))
    let w' := ((w.step fail).1.step bind).1
    w.Keeps w.owners ∧ w.Commute fail bind ∧
      (w'.named? "db").map (·.state) = some .opened ∧
      (w'.named? "mail").map (·.policy) = some (.single .zero) := by
  intro s acts w fail bind w'
  have hkeeps : w.Keeps w.owners := w.keeps_owners
  have hisolated : w.Isolated w.owners := names_are_isolated s acts w.owners hkeeps
  exact ⟨hkeeps, hisolated.commute fail bind "db" "mail" rfl rfl (by decide),
    by decide +kernel, by decide +kernel⟩

end World

end Breaker
