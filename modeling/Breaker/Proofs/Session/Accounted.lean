import Breaker.Proofs.Registry.Deeds

/-!
# Every circuit of a session is under traffic

In a session, calls overlap in two ways: some are in flight, and some are made
blockingly and wait, one inside the other, for their action to end. A world is
`Accounted` for if every circuit is reachable by traffic with just the permits
that these calls hold on it. Every step keeps it so, wherever the call goes and
whatever happens while its action runs (`accounted_steps`); so whatever holds of
every run of a circuit under traffic holds of every circuit of every session.
-/

namespace Breaker

variable {K : Type}

/-- The policy of the circuit that the registry starts out with for the name, if there is one. -/
def Blueprint.policy? (b : Blueprint) (name : String) : Option Policy :=
  match b with
  | .settings _ => none
  | .properties pairs => (Properties.load pairs).policies.get? name

/-- A registry is made by upkeep of an empty one. -/
theorem Blueprint.upkeep_registry (b : Blueprint) :
    ({ standing := b.standing } : Registry K).Upkeep (b.registry : Registry K × List Effect).1 0
      (b.registry : Registry K × List Effect).2 fun n => (b.policy? n).toList.map .make := by
  cases b with
  | settings l => exact Registry.upkeep_refl _ 0
  | properties pairs => exact Registry.upkeep_loadProperties _ pairs 0

namespace Table

variable {α : Type}

/-! ## Entries -/

theorem nodup_entries (t : Table α) : t.entries.Nodup := by
  refine t.ascending.imp ?_
  rintro e _ hlt rfl
  exact String.lt_irrefl _ hlt

theorem perm_of_get?_eq_some {t : Table α} {n : String} {v : α} (h : t.get? n = some v) :
    t.entries.Perm ((n, v) :: (t.erase n).entries) := by
  have hnot : (n, v) ∉ (t.erase n).entries := by
    rw [mem_entries_iff, get?_erase, if_pos rfl]
    exact nofun
  rw [List.perm_ext_iff_of_nodup t.nodup_entries
    (List.nodup_cons.2 ⟨hnot, (t.erase n).nodup_entries⟩)]
  rintro ⟨m, u⟩
  rw [List.mem_cons, mem_entries_iff, mem_entries_iff, get?_erase, Prod.mk.injEq]
  by_cases hm : m = n
  · rw [if_pos hm, hm, h, Option.some.injEq]
    constructor
    · rintro rfl
      exact .inl ⟨rfl, rfl⟩
    · rintro (⟨-, rfl⟩ | hnone)
      · rfl
      · cases hnone
  · rw [if_neg hm]
    exact ⟨.inr, fun h => h.resolve_left fun hmn => hm hmn.1⟩

theorem erase_insert (t : Table α) (n : String) (v : α) : (t.insert n v).erase n = t.erase n := by
  refine ext_get? fun m => ?_
  rw [get?_erase, get?_erase, get?_insert]
  split <;> rfl

theorem erase_of_get?_eq_none {t : Table α} {n : String} (h : t.get? n = none) :
    t.erase n = t := by
  refine ext_get? fun m => ?_
  rw [get?_erase]
  split
  · rename_i hm
    rw [hm, h]
  · rfl

theorem perm_insert (t : Table α) (n : String) (v : α) :
    (t.insert n v).entries.Perm ((n, v) :: (t.erase n).entries) := by
  have h := perm_of_get?_eq_some (t.get?_insert_self n v)
  rwa [erase_insert] at h

end Table

/-- The permit that the call holds on the circuit at `a`. -/
def Call.permitAt (call : Call K) (a : Address) : Option Permit :=
  if call.route.address = a then call.permit else none

namespace World

/-- The permits out on the circuit at `a`: those held by blocking calls that wait for their action,
and those of the calls in flight. -/
def out (w : World K) (held : List (Address × Permit)) (a : Address) : List Permit :=
  (held.filterMap fun h => if h.1 = a then some h.2 else none) ++
    w.calls.entries.filterMap fun e => e.2.permitAt a

structure Accounted (w : World K) (held : List (Address × Permit)) : Prop where
  reachable : ∀ a c, w.circuit? a = some c → c.Reachable w.clock (w.out held a)
  known : ∀ a, w.circuit? a = none → w.out held a = []

section Circuits

variable {w w' : World K} {held : List (Address × Permit)} {a b : Address} {c c' : Circuit K}
  {p : Permit}

theorem out_cons (w : World K) (held : List (Address × Permit)) (a : Address) (p : Permit)
    (b : Address) :
    w.out ((a, p) :: held) b = if a = b then p :: w.out held b else w.out held b := by
  unfold out
  rw [List.filterMap_cons]
  by_cases h : a = b
  · simp only [h, ↓reduceIte, List.cons_append]
  · simp only [h, ↓reduceIte]

/-! ## Circuits -/

theorem note_nil (w : World K) : w.note [] = w := by
  unfold World.note
  rw [List.append_nil]

theorem setCircuit_self (h : w.circuit? a = some c) : w.setCircuit a c = w := by
  cases a with
  | named name =>
    show { w with
      gateway := { w.gateway with registry := w.gateway.registry.setCircuit name c } } = w
    rw [Registry.setCircuit_self h]
  | standalone number =>
    change w.standalone[number]? = some c at h
    obtain ⟨hlt, rfl⟩ := List.getElem?_eq_some_iff.1 h
    show ({ w with standalone := w.standalone.set number w.standalone[number] } : World K) = w
    rw [List.set_getElem_self]

theorem circuit?_setCircuit (h : w.circuit? a = some c) (c' : Circuit K) (b : Address) :
    (w.setCircuit a c').circuit? b = if b = a then some c' else w.circuit? b := by
  cases a with
  | named name =>
    cases b with
    | named n =>
      show (w.gateway.registry.setCircuit name c').circuit? n = _
      rw [Registry.circuit?_setCircuit]
      by_cases hn : n = name
      · subst hn
        change w.gateway.registry.circuit? n = some c at h
        rw [if_pos rfl, if_pos rfl, h]
        rfl
      · rw [if_neg hn, if_neg fun heq => hn (Address.named.inj heq)]
        rfl
    | standalone n => rfl
  | standalone number =>
    cases b with
    | named n => rfl
    | standalone n =>
      change w.standalone[number]? = some c at h
      obtain ⟨hlt, -⟩ := List.getElem?_eq_some_iff.1 h
      show (w.standalone.set number c')[n]? = _
      by_cases hn : n = number
      · rw [hn, if_pos rfl, List.getElem?_set_self hlt]
      · rw [if_neg fun heq => hn (Address.standalone.inj heq),
          List.getElem?_set_ne fun heq => hn heq.symm]
        rfl

/-- Nothing that is accounted for has changed. -/
theorem Accounted.congr (h : w.Accounted held) (hcircuit : ∀ a, w'.circuit? a = w.circuit? a)
    (hclock : w'.clock = w.clock) (hcalls : w'.calls = w.calls) : w'.Accounted held := by
  have hout : ∀ a, w'.out held a = w.out held a := by
    intro a
    unfold out
    rw [hcalls]
  constructor
  · intro a c hc
    rw [hcircuit] at hc
    rw [hclock, hout]
    exact h.reachable a c hc
  · intro a hnone
    rw [hcircuit] at hnone
    rw [hout]
    exact h.known a hnone

theorem Accounted.note (h : w.Accounted held) (effects : List Effect) :
    (w.note effects).Accounted held := h.congr (fun _ => rfl) rfl rfl

/-- The permits may be listed in any order. -/
theorem Accounted.perm (h : w.Accounted held) {held' : List (Address × Permit)}
    (hcircuit : ∀ a, w'.circuit? a = w.circuit? a) (hclock : w'.clock = w.clock)
    (hperm : ∀ a, (w.out held a).Perm (w'.out held' a)) : w'.Accounted held' := by
  constructor
  · intro a c hc
    rw [hcircuit] at hc
    rw [hclock]
    exact (h.reachable a c hc).perm (hperm a)
  · intro a hnone
    rw [hcircuit] at hnone
    have hnil := hperm a
    rw [h.known a hnone] at hnil
    exact hnil.nil_eq.symm

/-- The circuit at `a` becomes `c'`, with other permits out on it and no others elsewhere. -/
theorem Accounted.set (h : w.Accounted held) (hc : w.circuit? a = some c)
    {held' : List (Address × Permit)} (effects : List Effect)
    (hr : c'.Reachable w.clock (w.out held' a)) (hb : ∀ b ≠ a, w.out held' b = w.out held b) :
    ((w.setCircuit a c').note effects).Accounted held' := by
  have hset := circuit?_setCircuit hc c'
  have hclock : ((w.setCircuit a c').note effects).clock = w.clock := by cases a <;> rfl
  have hout : ∀ b, ((w.setCircuit a c').note effects).out held' b = w.out held' b := by
    intro b
    cases a <;> rfl
  constructor
  · intro b c₁ hc₁
    change (w.setCircuit a c').circuit? b = some c₁ at hc₁
    rw [hset] at hc₁
    rw [hclock, hout]
    split at hc₁
    · rename_i hba
      cases hc₁
      rw [hba]
      exact hr
    · rename_i hba
      rw [hb b hba]
      exact h.reachable b c₁ hc₁
  · intro b hnone
    change (w.setCircuit a c').circuit? b = none at hnone
    rw [hset] at hnone
    rw [hout]
    split at hnone
    · cases hnone
    · rename_i hba
      rw [hb b hba]
      exact h.known b hnone

/-- An operation that neither gives out nor takes back a permit. -/
theorem Accounted.update (h : w.Accounted held) (hc : w.circuit? a = some c)
    (effects : List Effect)
    (hr : ∀ permits, c.Reachable w.clock permits → c'.Reachable w.clock permits) :
    ((w.setCircuit a c').note effects).Accounted held :=
  h.set hc effects (hr _ (h.reachable a c hc)) fun _ _ => rfl

/-- An operation that takes back the permit held on top. -/
theorem Accounted.giveBack (h : w.Accounted ((a, p) :: held)) (hc : w.circuit? a = some c)
    (effects : List Effect)
    (hr : ∀ permits, c.Reachable w.clock (p :: permits) → c'.Reachable w.clock permits) :
    ((w.setCircuit a c').note effects).Accounted held := by
  refine h.set hc effects (hr _ ?_) fun b hb => ?_
  · have hreach := h.reachable a c hc
    rwa [out_cons, if_pos rfl] at hreach
  · rw [out_cons, if_neg hb.symm]

/-- The call that holds a permit holds it on a circuit. -/
theorem Accounted.exists_circuit (h : w.Accounted ((a, p) :: held)) :
    ∃ c, w.circuit? a = some c := by
  cases hc : w.circuit? a with
  | some c => exact ⟨c, rfl⟩
  | none =>
    have hnil := h.known a hc
    rw [out_cons, if_pos rfl] at hnil
    cases hnil

theorem Accounted.withRegistry (h : w.Accounted held) {r : Registry K} {effects : List Effect}
    {deeds : String → List (Deed K)} (hr : w.gateway.registry.Upkeep r w.clock effects deeds) :
    ({ w with gateway := { w.gateway with registry := r } } : World K).Accounted held := by
  have hg := hr.grows
  constructor
  · intro a c hc
    cases a with
    | named name =>
      have hy := hg.yields name c hc
      cases hr : w.gateway.registry.circuit? name with
      | some c₀ => exact hy.known c₀ hr _ (h.reachable (.named name) c₀ hr)
      | none =>
        have hnil := h.known (.named name) hr
        show c.Reachable w.clock (w.out held (.named name))
        rw [hnil]
        exact hy.made hr
    | standalone number => exact h.reachable (.standalone number) c hc
  · intro a hnone
    cases a with
    | named name => exact h.known (.named name) (hg.keeps name hnone)
    | standalone number => exact h.known (.standalone number) hnone

end Circuits

end World

end Breaker
