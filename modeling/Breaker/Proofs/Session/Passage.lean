import Breaker.Proofs.Session.Deeds

/-!
# The transitions of one circuit in a session

`World.effectsAt` are the effects that an act has by what its motions do with the circuit at one
address, which need not be the only one of its name; so `World.turnsAt` counts the transitions that
this circuit makes during some acts. Whatever the acts are, the circuit is there afterwards, so many
transitions later (`passes_play`).
-/

namespace Breaker

variable {K : Type}

open Circuit (Later)

namespace Effect

theorem switches_unheard (effects : List Effect) :
    switches (unheard effects) = switches effects := by
  induction effects with
  | nil => rfl
  | cons e l ih =>
    cases e with
    | notify n =>
      rw [switches_notify]
      exact ih
    | log entry => exact (switches_log ..).trans (ih.trans (switches_log ..).symm)
    | counted name o => exact (switches_counted ..).trans (ih.trans (switches_counted ..).symm)
    | switched name s s' =>
      exact (switches_switched ..).trans ((congrArg (· + 1) ih).trans (switches_switched ..).symm)

end Effect

namespace World

/-- The circuit at `a` is there still, so many transitions later. -/
structure Passes (a : Address) (turns : Nat) (w w' : World K) : Prop where
  circuit : ∀ c, w.circuit? a = some c → ∃ c', w'.circuit? a = some c' ∧ Later turns c c'
  clock_le : w.clock ≤ w'.clock

variable {w w' w'' : World K} {a b : Address} {c : Circuit K} {turns more : Nat} {α : Type}

namespace Passes

theorem of_same (hcircuit : w'.circuit? a = w.circuit? a) (hclock : w.clock ≤ w'.clock) :
    Passes a 0 w w' where
  circuit c hc := ⟨c, hcircuit.trans hc, .refl c⟩
  clock_le := hclock

theorem refl (w : World K) : Passes a 0 w w := .of_same rfl (Nat.le_refl _)

theorem trans (h : Passes a turns w w') (h' : Passes a more w' w'') :
    Passes a (turns + more) w w'' where
  circuit c hc := by
    obtain ⟨c', hc', hlater⟩ := h.circuit c hc
    obtain ⟨c'', hc'', hlater'⟩ := h'.circuit c' hc'
    exact ⟨c'', hc'', hlater.trans hlater'⟩
  clock_le := Nat.le_trans h.clock_le h'.clock_le

end Passes

/-- The effects, if they are due to the circuit at `a`. -/
def dueTo (a : Address) (b : Option Address) (effects : List Effect) : List Effect :=
  if b = some a then effects else []

theorem dueTo_nil (a : Address) (b : Option Address) : dueTo a b [] = [] := ite_self []

theorem circuit?_forget (w : World K) (id : String) (a : Address) :
    (w.forget id).circuit? a = w.circuit? a := by
  cases a <;> rfl

/-! ## One circuit -/

theorem switches_heard (b : Address) (effects : List Effect) :
    Effect.switches (heard b effects) = Effect.switches effects := by
  cases b with
  | named name => rfl
  | standalone number => exact Effect.switches_unheard effects

theorem passes_onCircuit (hc : w.circuit? b = some c)
    (op : Circuit K → Instant → Circuit K × List Effect × α)
    (hop : c.Does w.clock (op c w.clock).1 (op c w.clock).2.1) (a : Address) :
    Passes a (Effect.switches (dueTo a (some b) (w.onCircuit b c op).2.1)) w
      (w.onCircuit b c op).1 := by
  have hclock : w.clock ≤ (w.onCircuit b c op).1.clock := by cases b <;> exact Nat.le_refl _
  have hset : (w.onCircuit b c op).1.circuit? a =
      if a = b then some (op c w.clock).1 else w.circuit? a := circuit?_setCircuit hc _ a
  by_cases hab : b = a
  · subst hab
    refine ⟨fun c₀ hc₀ => ⟨_, by rw [hset, if_pos rfl], ?_⟩, hclock⟩
    cases hc.symm.trans hc₀
    rw [dueTo, if_pos rfl]
    show Later (Effect.switches (heard b (op c w.clock).2.1)) _ _
    rw [switches_heard]
    exact Circuit.later_of_does hop
  · rw [dueTo, if_neg fun h => hab (Option.some.inj h)]
    refine .of_same ?_ hclock
    rw [hset, if_neg (Ne.symm hab)]

theorem passes_settle (w : World K) (b : Address) (p : Permit) (action : Action Json (Failure K))
    (a : Address) :
    Passes a (Effect.switches (dueTo a (some b) (w.settle b p action).2.1)) w
      (w.settle b p action).1 := by
  unfold World.settle
  cases hc : w.circuit? b with
  | none =>
    rw [dueTo_nil]
    exact .refl w
  | some c => exact passes_onCircuit hc _ (.settle p Failure.kind action) a

/-! ## The registry -/

/-- Upkeep of a registry makes no transition. -/
theorem passes_withRegistry {r : Registry K} {effects : List Effect}
    {deeds : String → List (Deed K)} (h : w.gateway.registry.Upkeep r w.clock effects deeds)
    (a : Address) : Passes a 0 w { w with gateway := { w.gateway with registry := r } } where
  circuit c hc := by
    cases a with
    | named name => exact h.later hc
    | standalone number => exact ⟨c, hc, .refl c⟩
  clock_le := Nat.le_refl _

variable [DecidableEq K] {ε : Type}

/-! ## Calls -/

omit [DecidableEq K] in
theorem passes_begun (route : Route K) {out : World K × List Effect × Except ε Permit}
    (h : Passes a turns w out.1) : Passes a turns w (begun route out).1 where
  circuit := by
    rw [fst_begun (World.circuit? · a) fun w => by cases route <;> cases a <;> rfl]
    exact h.circuit
  clock_le := by
    rw [fst_begun World.clock fun w => by cases route <;> rfl]
    exact h.clock_le

/-- The world once the circuit of a gateway call is found, and the circuit. -/
def resolved (w : World K) (ctx : CallContext K) : World K × Circuit K :=
  let (r, _, c) := w.gateway.registry.resolve ctx.name (ctx.rule.map (.ofRule w.hierarchy)) w.clock
  ({ w with gateway := { w.gateway with registry := r } }, c)

theorem circuit?_resolved (w : World K) (ctx : CallContext K) :
    (w.resolved ctx).1.circuit? (.named ctx.name) = some (w.resolved ctx).2 :=
  w.gateway.registry.circuit?_resolve ctx.name (ctx.rule.map (.ofRule w.hierarchy)) w.clock

/-- A gateway call arrives at the circuit that is found. -/
theorem circuit?_enterGateway (w : World K) (ctx : CallContext K) (a : Address) :
    (w.enterGateway ctx).1.circuit? a =
      ((w.resolved ctx).1.onCircuit (.named ctx.name) (w.resolved ctx).2
        Circuit.arrive).1.circuit? a := by
  cases a <;> rfl

theorem circuit?_enterGateway_self (w : World K) (ctx : CallContext K) :
    (w.enterGateway ctx).1.circuit? (.named ctx.name) =
      some ((w.resolved ctx).2.arrive w.clock).1 := by
  have hset := circuit?_setCircuit (w.circuit?_resolved ctx) ((w.resolved ctx).2.arrive w.clock).1
    (.named ctx.name)
  rw [if_pos rfl] at hset
  exact hset

theorem switches_enterGateway (w : World K) (ctx : CallContext K) (a : Address) :
    Effect.switches (dueTo a (some (.named ctx.name)) (w.enterGateway ctx).2.1) =
      Effect.switches (dueTo a (some (.named ctx.name))
        ((w.resolved ctx).1.onCircuit (.named ctx.name) (w.resolved ctx).2
          Circuit.arrive).2.1) := by
  have hfound := (w.gateway.registry.upkeep_resolve ctx.name
    (ctx.rule.map (.ofRule w.hierarchy)) w.clock).onlyLogs.switches_eq_zero
  have heffects : (w.enterGateway ctx).2.1 =
      (w.gateway.registry.resolve ctx.name (ctx.rule.map (.ofRule w.hierarchy)) w.clock).2.1 ++
        .log (.dispatching ctx.name (w.resolved ctx).2.published) ::
          ((w.resolved ctx).2.arrive w.clock).2.1 := rfl
  unfold dueTo
  split
  · rw [heffects, Effect.switches_append, hfound, Effect.switches_log, Nat.zero_add]
    rfl
  · rfl

theorem passes_enterGateway (w : World K) (ctx : CallContext K) (a : Address) :
    Passes a (Effect.switches (dueTo a (some (.named ctx.name)) (w.enterGateway ctx).2.1)) w
      (w.enterGateway ctx).1 := by
  have hresolve : Passes a 0 w (w.resolved ctx).1 := passes_withRegistry
    (w.gateway.registry.upkeep_resolve ctx.name (ctx.rule.map (.ofRule w.hierarchy)) w.clock) a
  have harrive := passes_onCircuit (w.circuit?_resolved ctx) Circuit.arrive .arrive a
  have hboth := hresolve.trans harrive
  rw [Nat.zero_add] at hboth
  rw [switches_enterGateway]
  refine ⟨fun c hc => ?_, Nat.le_refl _⟩
  rw [circuit?_enterGateway]
  exact hboth.circuit c hc

theorem passes_enter (w : World K) (route : Route K) (a : Address) :
    Passes a (Effect.switches (dueTo a (some route.address) (w.enter route).2.1)) w
      (w.enter route).1 := by
  cases route with
  | gateway ctx =>
    rw [enter_gateway, effects_begun]
    exact passes_begun _ (w.passes_enterGateway ctx a)
  | service number ctx inner =>
    rw [enter_service, effects_begun]
    exact passes_begun _ (w.passes_enterGateway ctx a)
  | direct b =>
    cases hc : w.circuit? b with
    | none =>
      rw [enter_direct_of_none hc, dueTo_nil]
      exact .refl w
    | some c =>
      rw [enter_direct_of_some hc, effects_begun]
      exact passes_begun _ (passes_onCircuit hc Circuit.arrive .arrive a)

/-! ## Motions -/

/-- Where the one circuit is that a motion works on. -/
def motionAt? (w : World K) : Motion K → Option Address
  | .enter route => some route.address
  | .settle b .. | .abandon b _ => some b
  | .control t _ => (w.locate t).toOption.map Prod.fst
  | _ => none

/-- What the motions of a script do with the circuit at `a`. -/
def runAt (w : World K) (a : Address) : Script K → List Effect
  | .done _ => []
  | .move m next =>
    dueTo a (w.motionAt? m) (w.move m).2.1 ++ (w.move m).1.runAt a (next (w.move m).2.2)

/-- What an act does with the circuit at `a`. -/
def effectsAt (w : World K) (a : Address) (act : Act K) : List Effect := w.runAt a (w.actScript act)

/-- How many transitions the circuit at `a` makes during the acts. -/
def turnsAt (w : World K) (a : Address) : List (Act K) → Nat
  | [] => 0
  | act :: acts => Effect.switches (w.effectsAt a act) + (w.perform act).turnsAt a acts

omit [DecidableEq K] in
theorem passes_advance (w : World K) (span : Duration) (a : Address) :
    Passes a 0 w (w.advance span).1 := by
  unfold World.advance
  cases hnow : w.clock.after? span with
  | none => exact .refl w
  | some now =>
    exact .of_same (by cases a <;> rfl) (Instant.le_of_after?_eq_some hnow)

omit [DecidableEq K] in
theorem passes_makeCircuit (w : World K) (id name : String) (policy : Policy) (a : Address) :
    Passes a 0 w (w.makeCircuit id name policy).1 where
  circuit c hc := by
    refine ⟨c, ?_, .refl c⟩
    cases a with
    | named n => exact hc
    | standalone number =>
      change w.standalone[number]? = some c at hc
      show (w.standalone ++ [_])[number]? = some c
      obtain ⟨hlt, -⟩ := List.getElem?_eq_some_iff.1 hc
      rwa [List.getElem?_append_left hlt]
  clock_le := Nat.le_refl _

/-- A motion takes the circuit at `a` as many transitions on as there are among its effects there.
-/
theorem passes_move (w : World K) (m : Motion K) (a : Address) :
    Passes a (Effect.switches (dueTo a (w.motionAt? m) (w.move m).2.1)) w (w.move m).1 := by
  have hsame : ∀ (w' : World K) (b : Option Address),
      (∀ a, w'.circuit? a = w.circuit? a) → w'.clock = w.clock →
        Passes a (Effect.switches (dueTo a b [])) w w' := by
    intro w' b hcircuit hclock
    rw [dueTo_nil]
    exact .of_same (hcircuit a) (Nat.le_of_eq hclock.symm)
  cases m with
  | enter route => exact w.passes_enter route a
  | settle b p action => exact w.passes_settle b p action a
  | abandon b p =>
    show Passes a (Effect.switches (dueTo a (some b) (w.abandonAt b p).2.1)) w (w.abandonAt b p).1
    unfold World.abandonAt
    cases hc : w.circuit? b with
    | none => exact hsame w _ (fun _ => rfl) rfl
    | some c => exact passes_onCircuit hc _ (.abandon p) a
  | control t command =>
    show Passes a (Effect.switches (dueTo a ((w.locate t).toOption.map Prod.fst)
      (w.commandCircuit t command).2.1)) w (w.commandCircuit t command).1
    unfold World.commandCircuit
    cases hl : w.locate t with
    | error answer => exact hsame w _ (fun _ => rfl) rfl
    | ok found =>
      exact passes_onCircuit (circuit?_of_locate hl) command.run
        ((Operation.control command).does _ _) a
  | registry command =>
    have hupkeep := passes_withRegistry (command.upkeep w.gateway.registry w.clock) a
    refine ⟨fun c hc => ?_, hupkeep.clock_le⟩
    obtain ⟨c', hc', hlater⟩ := hupkeep.circuit c hc
    exact ⟨c', by rw [← hc']; cases a <;> rfl, hlater⟩
  | advance span => exact w.passes_advance span a
  | makeCircuit id name policy => exact w.passes_makeCircuit id name policy a
  | pollService id readiness =>
    show Passes a (Effect.switches (dueTo a none (w.pollService id readiness).2.1)) w
      (w.pollService id readiness).1
    unfold World.pollService
    cases w.service id with
    | error answer => exact hsame w _ (fun _ => rfl) rfl
    | ok found => exact hsame _ _ (fun b => by cases b <;> rfl) rfl
  | _ => exact hsame _ _ (fun b => by cases b <;> rfl) rfl

theorem passes_run (w : World K) (script : Script K) (a : Address) :
    Passes a (Effect.switches (w.runAt a script)) w (w.run script).1 := by
  induction script generalizing w with
  | done answer => exact .refl w
  | move m next ih =>
    have hboth := (w.passes_move m a).trans (ih (w.move m).2.2 (w.move m).1)
    rwa [← Effect.switches_append] at hboth

/-- One act takes the circuit at `a` as many transitions on as there are among its effects there. -/
theorem passes_perform (w : World K) (act : Act K) (a : Address) :
    Passes a (Effect.switches (w.effectsAt a act)) w (w.perform act) := by
  rw [perform_eq]
  exact w.passes_run (w.actScript act) a

theorem passes_play (w : World K) (acts : List (Act K)) (a : Address) :
    Passes a (w.turnsAt a acts) w (w.play acts) := by
  induction acts generalizing w with
  | nil => exact .refl w
  | cons act acts ih => exact (w.passes_perform act a).trans (ih (w.perform act))

end World

end Breaker
