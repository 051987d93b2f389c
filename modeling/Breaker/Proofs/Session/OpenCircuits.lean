import Breaker.Proofs.Circuit.Candid
import Breaker.Proofs.Session.Admission

/-!
# The circuits that are listed as open

A circuit is listed as open unless it shows itself closed. Whether it rejects a call is another
question: it also depends on the cooldown, and so on the time. The two agree but for circuits whose
cooldown is over and that wait for a trial (`World.AwaitsTrial`): these are listed, yet the next
call is let in, whichever way it takes (`listed_as_open_iff`).
-/

namespace Breaker

variable {K : Type}

theorem Registry.mem_openCircuits_iff {r : Registry K} {name : String} :
    name ∈ r.openCircuits ↔ ∃ c, r.circuit? name = some c ∧ c.published ≠ .closed := by
  unfold Registry.openCircuits Registry.circuit? Table.keys Table.filter
  simp only [List.mem_map, List.mem_filter, decide_eq_true_eq, Option.map_eq_some_iff]
  constructor
  · rintro ⟨⟨n, e⟩, ⟨hmem, hshown⟩, rfl⟩
    exact ⟨e.circuit, ⟨e, (Table.mem_entries_iff _).1 hmem, rfl⟩, hshown⟩
  · rintro ⟨c, ⟨e, hget, rfl⟩, hshown⟩
    exact ⟨(name, e), ⟨(Table.mem_entries_iff _).2 hget, hshown⟩, rfl⟩

/-! ## What an arriving call gets -/

namespace Circuit

variable {c : Circuit K} {now : Instant}

/-- The circuit is opened and its cooldown is over. -/
def Cooled (c : Circuit K) (now : Instant) : Prop :=
  c.state = .opened ∧ c.cooldownLeft? now = none

instance : Decidable (c.Cooled now) :=
  inferInstanceAs (Decidable (c.state = .opened ∧ c.cooldownLeft? now = none))

theorem Cooled.admits (h : c.Cooled now) : ∃ p, (c.arrive now).2.2 = .ok p ∧ p.trial = true :=
  arrive_trial h.1 h.2

theorem exists_ok_arrive (hs : c.state = .closed) (now : Instant) :
    ∃ p, (c.arrive now).2.2 = .ok p := by
  rw [arrive_of_closed hs]
  exact ⟨_, rfl⟩

theorem exists_error_arrive (hs : c.state ≠ .closed) (h : ¬ c.Cooled now) :
    ∃ e, (c.arrive now).2.2 = .error e := by
  cases hstate : c.state with
  | closed => exact absurd hstate hs
  | halfOpen =>
    rw [arrive_of_halfOpen hstate]
    exact ⟨_, rfl⟩
  | opened =>
    cases hleft : c.cooldownLeft? now with
    | none => exact absurd ⟨hstate, hleft⟩ h
    | some left =>
      rw [arrive_of_cooling hstate hleft]
      exact ⟨_, rfl⟩

/-- A classifier has no say in who is let in. -/
theorem cooled_bindClassifier (c : Circuit K) (f : Classifier K) (now : Instant) :
    (c.bindClassifier f).1.Cooled now ↔ c.Cooled now := by
  unfold bindClassifier
  cases c.classifier <;> exact Iff.rfl

end Circuit

namespace World

variable [DecidableEq K] {w : World K} {name : String} {c : Circuit K}

/-- There is a circuit of the name, and it turns away whatever call comes, on whatever way. -/
structure Rejects (w : World K) (name : String) : Prop where
  known : w.named? name ≠ none
  error : ∀ route, route.address = .named name → ∃ result, (w.enter route).2.2 = .error result

/-- The cooldown of the circuit is over: the next call gets in as the trial, on whatever way. -/
structure AwaitsTrial (w : World K) (name : String) : Prop where
  cooled : ∃ c, w.named? name = some c ∧ c.Cooled w.clock
  trial : ∀ route, route.address = .named name →
    ∃ p, (w.enter route).2.2 = .ok p ∧ p.trial = true

/-! ## Circuits of a session -/

/-- Every circuit that is found by name shows the state that it is in. -/
def Candid (w : World K) : Prop := ∀ name c, w.named? name = some c → c.Candid

omit [DecidableEq K] in
theorem innate_candid : Innate fun _ (c : Circuit K) => c.Candid where
  made _ _ _ := rfl
  kept _ _ _ _ _ hdoes h := hdoes.candid h

theorem candid_play (s : Setup K) (acts : List (Act K)) : (s.world.1.play acts).Candid :=
  innate_candid.play (innate_candid.start s) acts

/-! ## What a call by name gets -/

theorem arrives_of_named (h : w.named? name = some c) (route : Route K)
    (hroute : route.address = .named name) :
    ∃ c', w.Arrives route c' ∧ c'.state = c.state ∧ (c'.Cooled w.clock ↔ c.Cooled w.clock) := by
  have hfound : w.circuit? route.address = some c := by
    rw [hroute]
    exact h
  rcases w.arrives_enter route with ⟨c', harrives⟩ | ⟨hnone, -⟩
  · refine ⟨c', harrives, ?_⟩
    rcases harrives.found c hfound with rfl | ⟨f, rfl⟩
    · exact ⟨rfl, Iff.rfl⟩
    · exact ⟨Circuit.state_bindClassifier f, c.cooled_bindClassifier f w.clock⟩
  · rw [hfound] at hnone
    cases hnone

theorem rejects_of_named (h : w.named? name = some c) (hs : c.state ≠ .closed)
    (hcooled : ¬ c.Cooled w.clock) : w.Rejects name where
  known := by
    rw [h]
    exact Option.some_ne_none c
  error route hroute := by
    obtain ⟨c', harrives, hstate, hcooled'⟩ := arrives_of_named h route hroute
    rw [← hstate] at hs
    rw [← hcooled'] at hcooled
    obtain ⟨e, he⟩ := Circuit.exists_error_arrive hs hcooled
    cases hanswer : (w.enter route).2.2 with
    | error result => exact ⟨result, rfl⟩
    | ok p =>
      have hp := (harrives.answer p).1 hanswer
      rw [he] at hp
      cases hp

theorem awaitsTrial_of_named (h : w.named? name = some c) (hcooled : c.Cooled w.clock) :
    w.AwaitsTrial name where
  cooled := ⟨c, h, hcooled⟩
  trial route hroute := by
    obtain ⟨c', harrives, -, hcooled'⟩ := arrives_of_named h route hroute
    obtain ⟨p, hp, ht⟩ := (hcooled'.2 hcooled).admits
    exact ⟨p, (harrives.answer p).2 hp, ht⟩

theorem AwaitsTrial.not_rejects (h : w.AwaitsTrial name) : ¬ w.Rejects name := by
  intro hrejects
  obtain ⟨p, hp, -⟩ := h.trial (.direct (.named name)) rfl
  obtain ⟨result, hresult⟩ := hrejects.error (.direct (.named name)) rfl
  rw [hp] at hresult
  cases hresult

theorem not_rejects_of_closed (h : w.named? name = some c) (hs : c.state = .closed) :
    ¬ w.Rejects name := by
  intro hrejects
  obtain ⟨c', harrives, hstate, -⟩ := arrives_of_named h (.direct (.named name)) rfl
  obtain ⟨p, hp⟩ := Circuit.exists_ok_arrive (hstate.trans hs) w.clock
  obtain ⟨result, hresult⟩ := hrejects.error (.direct (.named name)) rfl
  rw [(harrives.answer p).2 hp] at hresult
  cases hresult

/-! ## The law -/

theorem Candid.mem_openCircuits_iff (h : w.Candid) (name : String) :
    name ∈ w.gateway.registry.openCircuits ↔ w.Rejects name ∨ w.AwaitsTrial name := by
  rw [Registry.mem_openCircuits_iff]
  constructor
  · rintro ⟨c, hc, hshown⟩
    have hs : c.state ≠ .closed := h name c hc ▸ hshown
    by_cases hcooled : c.Cooled w.clock
    · exact .inr (awaitsTrial_of_named hc hcooled)
    · exact .inl (rejects_of_named hc hs hcooled)
  · rintro (hrejects | hawaits)
    · obtain ⟨c, hc⟩ := Option.ne_none_iff_exists'.1 hrejects.known
      refine ⟨c, hc, fun hshown => ?_⟩
      exact not_rejects_of_closed hc ((h name c hc).symm.trans hshown) hrejects
    · obtain ⟨c, hc, hopened, -⟩ := hawaits.cooled
      refine ⟨c, hc, ?_⟩
      rw [h name c hc, hopened]
      decide

/-- The same world at another time. -/
def atTime (w : World K) (now : Instant) : World K := { w with clock := now }

/-- **The circuits that are listed as open are those that reject calls and those that wait for a
trial**, which are never the same, at whatever time one asks. -/
theorem listed_as_open_iff (s : Setup K) (acts : List (Act K)) (now : Instant) :
    let w := (s.world.1.play acts).atTime now
    ∃ names, w.command .openCircuits = (w, [], .names names) ∧ ∀ name,
      (name ∈ names ↔ w.Rejects name ∨ w.AwaitsTrial name) ∧
        ¬ (w.Rejects name ∧ w.AwaitsTrial name) := by
  intro w
  have hcandid : w.Candid := candid_play s acts
  refine ⟨w.gateway.registry.openCircuits, rfl, fun name => ⟨?_, ?_⟩⟩
  · exact hcandid.mem_openCircuits_iff name
  · rintro ⟨hrejects, hawaits⟩
    exact hawaits.not_rejects hrejects

/-- When the cooldown is over, a circuit is still listed as open, but rejects nobody. -/
theorem cooled_circuit_listed :
    let s : Setup Unit := { hierarchy := { parent := fun _ => none, label := fun _ => "" } }
    let w := s.world.1.play
      [.command (.getOrCreate "db"), .command (.circuit (.named "db") .forceOpen),
        .command (.advance (.ofSeconds 15))]
    w.gateway.registry.openCircuits = ["db"] ∧ w.AwaitsTrial "db" ∧ ¬ w.Rejects "db" := by
  intro s w
  have hany : (w.named? "db").any (fun c => decide (c.Cooled w.clock)) = true := by
    decide +kernel
  obtain ⟨c, hc, hcooled⟩ := (Option.any_eq_true _ _).1 hany
  have hawaits : w.AwaitsTrial "db" := awaitsTrial_of_named hc (of_decide_eq_true hcooled)
  exact ⟨by decide +kernel, hawaits, hawaits.not_rejects⟩

end World

end Breaker
