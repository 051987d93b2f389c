import Breaker.Proofs.Circuit.Advance

/-!
# Circuits of different age

Two circuits may differ in nothing but how many transitions there have been and when the last one
was (`Circuit.ageless`). No operation can tell such circuits apart: it does the same to both, has
the same effects and gives the same answer, up to the age of the state that a snapshot shows. Only
permits are of a generation: `Lag` compares permits of the two circuits by how many generations have
gone by since they were given, and two that lag alike end alike.
-/

namespace Breaker

/-- The snapshot without the time since the last change. -/
def Snapshot.ageless (s : Snapshot) : Snapshot := { s with sinceChange := .zero }

namespace Circuit

variable {K V E α : Type} {c d c' d' : Circuit K} {now : Instant} {g : UInt64} {t : Instant}

/-- The circuit but for its generation and the time of its last change. -/
def ageless (c : Circuit K) : Circuit K := { c with lastChange := 0, generation := 0 }

/-- The circuit at another age. -/
def aged (c : Circuit K) (generation : UInt64) (lastChange : Instant) : Circuit K :=
  { c with generation, lastChange }

/-- Both outcomes are the same but for the age of the circuit. -/
structure SameButAge (out out' : Circuit K × α) : Prop where
  circuit : out.1.ageless = out'.1.ageless
  rest : out.2 = out'.2

theorem eq_aged (h : c.ageless = d.ageless) : d = c.aged d.generation d.lastChange := by
  cases c
  cases d
  simp only [ageless, mk.injEq] at h
  simp only [aged, mk.injEq]
  grind

/-! ## Operations -/

theorem transition_aged (c : Circuit K) (g : UInt64) (t : Instant) (target : State)
    (now : Instant) :
    SameButAge (c.transition target now) ((c.aged g t).transition target now) := by
  by_cases h : c.state = target
  · rw [transition_self h, transition_self (c := c.aged g t) h]
    exact ⟨rfl, rfl⟩
  · have h' : (c.aged g t).state ≠ target := h
    simp only [transition, h, h', ↓reduceIte]
    exact ⟨rfl, rfl⟩

theorem permit_ageless (now : Instant) (h : c.ageless = d.ageless) :
    (c.permit now).1 = (d.permit now).1 ∧
      (c.permit now).2.map Permit.trial = (d.permit now).2.map Permit.trial := by
  rw [eq_aged h]
  exact ⟨rfl, rfl⟩

/-- The same calls are let in, and the same ones as trials. -/
theorem arrive_aged (c : Circuit K) (g : UInt64) (t : Instant) (now : Instant) :
    (c.arrive now).1.ageless = ((c.aged g t).arrive now).1.ageless ∧
      (c.arrive now).2.1 = ((c.aged g t).arrive now).2.1 ∧
      (c.arrive now).2.2.map Permit.trial = ((c.aged g t).arrive now).2.2.map Permit.trial := by
  cases h : c.state with
  | closed =>
    rw [arrive_of_closed h, arrive_of_closed (c := c.aged g t) h]
    exact ⟨rfl, rfl, rfl⟩
  | halfOpen =>
    rw [arrive_of_halfOpen h, arrive_of_halfOpen (c := c.aged g t) h]
    exact ⟨rfl, rfl, rfl⟩
  | opened =>
    cases hl : c.cooldownLeft? now with
    | some left =>
      rw [arrive_of_cooling h hl, arrive_of_cooling (c := c.aged g t) h hl]
      exact ⟨rfl, rfl, rfl⟩
    | none =>
      rw [arrive_of_cooled h hl, arrive_of_cooled (c := c.aged g t) h hl]
      have ht := transition_aged c g t .halfOpen now
      obtain ⟨heffects, hanswer⟩ := permit_ageless now ht.circuit
      exact ⟨ht.circuit, by rw [ht.rest, heffects], hanswer⟩

theorem settleTrial_aged (c : Circuit K) (g : UInt64) (t : Instant) (now : Instant) :
    SameButAge (c.settleTrial now) ((c.aged g t).settleTrial now) := by
  by_cases h : c.state = .halfOpen
  · have h' : (c.aged g t).state = .halfOpen := h
    simp only [settleTrial, h, h', ↓reduceIte]
    exact transition_aged c g t .closed now
  · have h' : (c.aged g t).state ≠ .halfOpen := h
    simp only [settleTrial, h, h', ↓reduceIte]
    exact ⟨rfl, rfl⟩

theorem recordSuccess_aged (c : Circuit K) (g : UInt64) (t : Instant) (now : Instant) :
    SameButAge (c.recordSuccess now) ((c.aged g t).recordSuccess now) := by
  have h := settleTrial_aged c g t now
  exact ⟨h.circuit, congrArg (_ ++ ·) h.rest⟩

theorem recordIgnored_aged (c : Circuit K) (g : UInt64) (t : Instant) (now : Instant) :
    SameButAge (c.recordIgnored now) ((c.aged g t).recordIgnored now) := by
  have h := settleTrial_aged c g t now
  exact ⟨h.circuit, congrArg (_ ++ ·) h.rest⟩

theorem recordFailure_aged (c : Circuit K) (g : UInt64) (t : Instant) (now : Instant) :
    SameButAge (c.recordFailure now) ((c.aged g t).recordFailure now) := by
  cases h : c.state with
  | closed =>
    by_cases hf : c.policy.count ≤ (c.withFailure now).length
    · rw [recordFailure_of_filled h hf, recordFailure_of_filled (c := c.aged g t) h hf]
      have ht := transition_aged { c with failures := c.withFailure now } g t .opened now
      exact ⟨ht.circuit, congrArg (c.failureTold now ++ ·) ht.rest⟩
    · rw [recordFailure_of_short h hf, recordFailure_of_short (c := c.aged g t) h hf]
      exact ⟨rfl, rfl⟩
  | halfOpen =>
    rw [recordFailure_of_halfOpen h, recordFailure_of_halfOpen (c := c.aged g t) h]
    have ht := transition_aged c g t .opened now
    exact ⟨ht.circuit, congrArg (_ ++ ·) ht.rest⟩
  | opened =>
    rw [recordFailure_of_opened h, recordFailure_of_opened (c := c.aged g t) h]
    exact ⟨rfl, rfl⟩

theorem recordClassified_aged (c : Circuit K) (g : UInt64) (t : Instant) (now : Instant)
    (verdict : Classification) :
    SameButAge (c.recordClassified now verdict) ((c.aged g t).recordClassified now verdict) := by
  unfold recordClassified
  split
  · exact recordFailure_aged c g t now
  · exact recordIgnored_aged c g t now

theorem reopen_aged (c : Circuit K) (g : UInt64) (t : Instant) (now : Instant) :
    SameButAge (c.reopen now) ((c.aged g t).reopen now) := by
  have h := transition_aged c g t .opened now
  refine ⟨?_, h.rest⟩
  exact congrArg (fun c' : Circuit K => { c' with openedAt := c.openedAt }) h.circuit

theorem forceOpen_aged (c : Circuit K) (g : UInt64) (t : Instant) (now : Instant) :
    SameButAge (c.forceOpen now) ((c.aged g t).forceOpen now) := by
  by_cases h : c.state = .opened
  · have h' : (c.aged g t).state = .opened := h
    simp only [forceOpen, h, h', ↓reduceIte]
    exact ⟨rfl, rfl⟩
  · have h' : (c.aged g t).state ≠ .opened := h
    simp only [forceOpen, h, h', ↓reduceIte]
    exact transition_aged c g t .opened now

theorem forceClosed_aged (c : Circuit K) (g : UInt64) (t : Instant) (now : Instant) :
    SameButAge (c.forceClosed now) ((c.aged g t).forceClosed now) := by
  have h := transition_aged c g t .closed now
  refine ⟨?_, h.rest⟩
  exact congrArg (fun c' : Circuit K => { c' with failures := [] }) h.circuit

theorem snapshot_aged (c : Circuit K) (g : UInt64) (t : Instant) (now : Instant) :
    (c.snapshot now).1.ageless = ((c.aged g t).snapshot now).1.ageless ∧
      (c.snapshot now).2.ageless = ((c.aged g t).snapshot now).2.ageless := ⟨rfl, rfl⟩

theorem bindClassifier_aged (c : Circuit K) (g : UInt64) (t : Instant) (f : Classifier K) :
    SameButAge (c.bindClassifier f) ((c.aged g t).bindClassifier f) := by
  have h' : (c.aged g t).classifier = c.classifier := rfl
  cases h : c.classifier with
  | some f' =>
    simp only [bindClassifier, h, h']
    exact ⟨rfl, rfl⟩
  | none =>
    simp only [bindClassifier, h, h']
    exact ⟨rfl, rfl⟩

/-! ## Permits -/

/-- `p` is to `c` what `q` is to `d`. -/
structure Lag (c d : Circuit K) (p q : Permit) : Prop where
  trial : p.trial = q.trial
  behind : c.generation - p.generation = d.generation - q.generation

section Permits

variable {p q : Permit} {effects : List Effect}

theorem Lag.generation_eq_iff (h : Lag c d p q) :
    c.generation = p.generation ↔ d.generation = q.generation := by
  have hbehind := h.behind
  grind

/-- The same effects take both circuits on by as many generations. -/
theorem Lag.turn (h : Lag c d p q) (hc : Turn c c' effects) (hd : Turn d d' effects) :
    Lag c' d' p q := by
  have hbehind := h.behind
  refine ⟨h.trial, ?_⟩
  cases hc with
  | stays hn _ hg =>
    cases hd with
    | stays _ _ hg' => rw [hg, hg', hbehind]
    | turns hn' _ _ => exact absurd (hn.symm.trans hn') (by decide)
  | turns hn _ hg =>
    cases hd with
    | stays hn' _ _ => exact absurd (hn.symm.trans hn') (by decide)
    | turns _ _ hg' =>
      rw [hg, hg']
      grind

/-- Permits that have just been given. -/
theorem Lag.granted {now' : Instant} (hp : (c.arrive now).2.2 = .ok p)
    (hq : (d.arrive now').2.2 = .ok q) (h : p.trial = q.trial) :
    Lag (c.arrive now).1 (d.arrive now').1 p q := by
  refine ⟨h, ?_⟩
  rw [(permit_of_arrive hp).1, (permit_of_arrive hq).1, UInt64.sub_self, UInt64.sub_self]

theorem abandon_aged (h : Lag c (c.aged g t) p q) (now : Instant) :
    SameButAge (c.abandon now p) ((c.aged g t).abandon now q) := by
  by_cases hp : p.trial = true ∧ c.generation = p.generation ∧ c.state = .halfOpen
  · rw [abandon_of_live hp.1 hp.2.1 hp.2.2]
    rw [abandon_of_live (h.trial ▸ hp.1) (h.generation_eq_iff.1 hp.2.1) hp.2.2]
    exact reopen_aged c g t now
  · rw [abandon_of_dead hp, abandon_of_dead]
    · exact ⟨rfl, rfl⟩
    · rintro ⟨htrial, hgen, hs⟩
      exact hp ⟨h.trial ▸ htrial, h.generation_eq_iff.2 hgen, hs⟩

theorem settle_aged (h : Lag c (c.aged g t) p q) (now : Instant) (kindOf : E → K)
    (action : Action V E) :
    SameButAge (c.settle now p kindOf action) ((c.aged g t).settle now q kindOf action) := by
  cases action with
  | ok v =>
    by_cases hg : c.generation = p.generation
    · rw [settle_ok hg, settle_ok (h.generation_eq_iff.1 hg)]
      have hr := recordSuccess_aged c g t now
      exact ⟨hr.circuit, by rw [hr.rest]⟩
    · have hg' : (c.aged g t).generation ≠ q.generation := hg ∘ h.generation_eq_iff.2
      simp only [settle, complete, hg, hg', ↓reduceIte]
      exact ⟨rfl, rfl⟩
  | error e =>
    cases hv : c.classify (kindOf e) with
    | error panic =>
      rw [settle_crashed hv, settle_crashed (c := c.aged g t) hv]
      exact ⟨rfl, rfl⟩
    | ok verdict =>
      have hv' : (c.aged g t).classify (kindOf e) = .ok verdict := hv
      by_cases hg : c.generation = p.generation
      · rw [settle_error hg hv, settle_error (h.generation_eq_iff.1 hg) hv']
        have hr := recordClassified_aged c g t now verdict
        exact ⟨hr.circuit, by rw [hr.rest]⟩
      · have hg' : (c.aged g t).generation ≠ q.generation := hg ∘ h.generation_eq_iff.2
        simp only [settle, complete, hv, hv', hg, hg', ↓reduceIte]
        exact ⟨rfl, rfl⟩
  | panic panic =>
    rw [settle_panic, settle_panic]
    have ha := abandon_aged h now
    exact ⟨ha.circuit, by rw [ha.rest]⟩

end Permits

end Circuit

end Breaker
