import Breaker.Proofs.Session.Accounted

/-!
# Sessions as traffic

Every step of a session keeps the world accounted for. What gives out a permit
adds it to those held by blocking calls or leaves it with a call in flight; what
ends or drops a call takes it from there again. With the induction over the
steps, which follows their nesting, every circuit of a session is one that
traffic leads to.
-/

namespace Breaker

variable {K : Type}

namespace World

variable {w : World K} {held : List (Address × Permit)} {a : Address} {c : Circuit K}
  {p : Permit} {id : String} {call : Call K}

/-! ## Calls in flight -/

theorem filterMap_permitAt_cons (call : Call K) (a : Address) (l : List (String × Call K)) :
    ((id, call) :: l).filterMap (fun e => e.2.permitAt a) =
      (call.permitAt a).toList ++ l.filterMap fun e => e.2.permitAt a := by
  rw [List.filterMap_cons]
  cases call.permitAt a <;> rfl

theorem perm_out_forget (h : w.calls.get? id = some call) (held : List (Address × Permit))
    (a : Address) :
    (w.out held a).Perm ((call.permitAt a).toList ++ (w.forget id).out held a) := by
  have hperm := (Table.perm_of_get?_eq_some h).filterMap fun e => e.2.permitAt a
  rw [filterMap_permitAt_cons] at hperm
  exact (hperm.append_left _).trans (List.perm_append_comm_assoc ..)

theorem perm_out_insert (w : World K) (id : String) (call : Call K)
    (held : List (Address × Permit)) (a : Address) :
    (({ w with calls := w.calls.insert id call } : World K).out held a).Perm
      ((call.permitAt a).toList ++ (w.forget id).out held a) := by
  have hperm := (Table.perm_insert w.calls id call).filterMap fun e => e.2.permitAt a
  rw [filterMap_permitAt_cons] at hperm
  exact (hperm.append_left _).trans (List.perm_append_comm_assoc ..)

theorem permitAt_of_none (h : call.permit = none) : call.permitAt a = none := by
  unfold Call.permitAt
  rw [h, ite_self]

theorem permitAt_append_out (h : call.permit = some p) (w : World K)
    (held : List (Address × Permit)) (a : Address) :
    (call.permitAt a).toList ++ w.out held a = w.out ((call.route.address, p) :: held) a := by
  unfold Call.permitAt
  rw [out_cons, h]
  split <;> rfl

/-- A call that has not been polled may be forgotten. -/
theorem Accounted.forget (h : w.Accounted held)
    (hnone : ∀ call, w.calls.get? id = some call → call.permit = none) :
    (w.forget id).Accounted held := by
  refine h.perm (fun _ => rfl) rfl fun a => ?_
  cases hcall : w.calls.get? id with
  | none =>
    unfold World.forget
    rw [Table.erase_of_get?_eq_none hcall]
  | some call =>
    have hperm := perm_out_forget hcall held a
    rwa [permitAt_of_none (hnone call hcall)] at hperm

/-- A call in flight that is forgotten leaves its permit to be held. -/
theorem Accounted.take (h : w.Accounted held) (hcall : w.calls.get? id = some call)
    (hp : call.permit = some p) :
    (w.forget id).Accounted ((call.route.address, p) :: held) := by
  refine h.perm (fun _ => rfl) rfl fun a => ?_
  rw [← permitAt_append_out hp]
  exact perm_out_forget hcall held a

theorem Accounted.put (h : (w.forget id).Accounted ((call.route.address, p) :: held))
    (hp : call.permit = some p) :
    ({ w with calls := w.calls.insert id call } : World K).Accounted held := by
  refine h.perm (fun _ => rfl) rfl fun a => ?_
  rw [← permitAt_append_out hp]
  exact (perm_out_insert w id call held a).symm

theorem Accounted.putUnpolled (h : (w.forget id).Accounted held) (hp : call.permit = none) :
    ({ w with calls := w.calls.insert id call } : World K).Accounted held := by
  refine h.perm (fun _ => rfl) rfl fun a => ?_
  have hperm := perm_out_insert w id call held a
  rw [permitAt_of_none hp] at hperm
  exact hperm.symm

/-! ## The second half of a call -/

theorem Accounted.settle (h : w.Accounted ((a, p) :: held)) (action : Action Json (Failure K)) :
    (w.settle a p action).1.Accounted held := by
  obtain ⟨c, hc⟩ := h.exists_circuit
  unfold World.settle
  rw [hc]
  exact h.giveBack hc _ fun _ hr => hr.settle action

theorem settle_forget (w : World K) (id : String) (a : Address) (p : Permit)
    (action : Action Json (Failure K)) :
    ((w.forget id).settle a p action).1 = (w.settle a p action).1.forget id := by
  have hcircuit : (w.forget id).circuit? a = w.circuit? a := rfl
  unfold World.settle
  rw [hcircuit]
  cases w.circuit? a with
  | none => rfl
  | some c => cases a <;> rfl

theorem Accounted.proceed (h : (w.forget id).Accounted ((call.route.address, p) :: held)) :
    (w.proceed id call p).1.Accounted held := by
  have hput : ({ w with calls := w.calls.insert id { call with permit := some p } } :
      World K).Accounted held := Accounted.put h rfl
  unfold World.proceed
  split
  · exact hput
  · rename_i action _
    have hsettled := h.settle action
    rw [settle_forget] at hsettled
    exact hsettled

theorem Accounted.drop (h : w.Accounted held) (hcall : w.calls.get? id = some call) :
    (w.drop id call).1.Accounted held := by
  unfold World.drop
  cases hp : call.permit with
  | none =>
    refine h.forget fun call' hcall' => ?_
    rw [hcall] at hcall'
    cases hcall'
    exact hp
  | some p =>
    have htaken := h.take hcall hp
    obtain ⟨c, hc⟩ := htaken.exists_circuit
    simp only [hc]
    exact htaken.giveBack hc _ fun _ hr => hr.abandon

theorem get?_drop (w : World K) (id : String) (call : Call K) :
    (w.drop id call).1.calls.get? id = none := by
  have hforget : (w.forget id).calls.get? id = none := by
    show (w.calls.erase id).get? id = none
    rw [Table.get?_erase, if_pos rfl]
  unfold World.drop
  cases hp : call.permit with
  | none => exact hforget
  | some p =>
    cases hc : (w.forget id).circuit? call.route.address with
    | none =>
      simp only [hc]
      exact hforget
    | some c =>
      simp only [hc]
      cases call.route.address <;> exact hforget

theorem Accounted.dropCall (h : w.Accounted held) (id : String) :
    (w.dropCall id).1.Accounted held ∧ (w.dropCall id).1.calls.get? id = none := by
  unfold World.dropCall
  cases hcall : w.calls.get? id with
  | none => exact ⟨h, hcall⟩
  | some call => exact ⟨h.drop hcall, w.get?_drop id call⟩

/-! ## The first half of a call -/

variable {ε : Type}

/-- The answer to a call that has asked for a permit on the circuit at `a`. -/
structure Entered (held : List (Address × Permit)) (a : Address)
    (out : World K × List Effect × Except ε Permit) : Prop where
  admitted : ∀ p, out.2.2 = .ok p → out.1.Accounted ((a, p) :: held)
  rejected : ∀ e, out.2.2 = .error e → out.1.Accounted held

theorem Accounted.arrive (h : w.Accounted held) (hc : w.circuit? a = some c)
    (f : OpenError → ε) (effects effects' : List Effect) :
    Entered held a ((w.setCircuit a (c.arrive w.clock).1).note effects, effects',
      (c.arrive w.clock).2.2.mapError f) := by
  have hr := h.reachable a c hc
  cases hanswer : (c.arrive w.clock).2.2 with
  | ok p =>
    refine ⟨?_, fun e he => nomatch he⟩
    rintro _ ⟨⟩
    refine h.set hc effects ?_ fun b hb => ?_
    · rw [out_cons, if_pos rfl]
      exact hr.arrive_ok hanswer
    · rw [out_cons, if_neg hb.symm]
  | error e =>
    refine ⟨fun p hp => (nomatch hp), fun _ _ => ?_⟩
    exact h.update hc effects fun _ hr => hr.arrive_error hanswer

theorem Accounted.begin (h : w.Accounted held) (route : Route K) :
    (w.begin route).Accounted held := by
  cases route with
  | gateway ctx => exact h
  | service number ctx inner => exact h.congr (fun _ => rfl) rfl rfl
  | direct a => exact h

theorem calls_begin (w : World K) (route : Route K) : (w.begin route).calls = w.calls := by
  cases route <;> rfl

/-- The action is started if there is a permit. -/
def begun (route : Route K) :
    World K × List Effect × Except ε Permit → World K × List Effect × Except ε Permit
  | (w, effects, .ok p) => (w.begin route, effects, .ok p)
  | (w, effects, .error result) => (w, effects, .error result)

theorem Entered.begun {out : World K × List Effect × Except ε Permit} (h : Entered held a out)
    (route : Route K) : Entered held a (begun route out) := by
  obtain ⟨w, effects, answer⟩ := out
  cases answer with
  | ok p =>
    refine ⟨?_, fun e he => nomatch he⟩
    rintro _ ⟨⟩
    exact (h.admitted p rfl).begin route
  | error e => exact ⟨fun p hp => (nomatch hp), fun _ _ => h.rejected e rfl⟩

/-- What starting an action leaves as it is, is left as it is. -/
theorem fst_begun {α : Type} (f : World K → α) {route : Route K}
    (hf : ∀ w : World K, f (w.begin route) = f w) (out : World K × List Effect × Except ε Permit) :
    f (begun route out).1 = f out.1 := by
  obtain ⟨w, effects, answer⟩ := out
  cases answer with
  | ok p => exact hf w
  | error e => rfl

theorem calls_begun (route : Route K) (out : World K × List Effect × Except ε Permit) :
    (begun route out).1.calls = out.1.calls :=
  fst_begun World.calls (calls_begin · route) out

variable [DecidableEq K]

theorem Accounted.enterGateway (h : w.Accounted held) (ctx : CallContext K) :
    Entered held (.named ctx.name) (w.enterGateway ctx) := by
  have hfound := h.withRegistry (w.gateway.registry.upkeep_resolve ctx.name
    (ctx.rule.map (.ofRule w.hierarchy)) w.clock)
  have hc := w.gateway.registry.circuit?_resolve ctx.name
    (ctx.rule.map (.ofRule w.hierarchy)) w.clock
  exact Accounted.arrive (a := .named ctx.name) hfound hc (w.gateway.rejection ctx) _ _

theorem enter_gateway (w : World K) (ctx : CallContext K) :
    w.enter (.gateway ctx) = begun (.gateway ctx) (w.enterGateway ctx) := by
  rcases hout : w.enterGateway ctx with ⟨w', effects, answer⟩
  cases answer <;> simp only [World.enter, begun, hout]

theorem enter_service (w : World K) (number : Nat) (ctx : CallContext K) (inner : Instance) :
    w.enter (.service number ctx inner) =
      begun (.service number ctx inner) (w.enterGateway ctx) := by
  rcases hout : w.enterGateway ctx with ⟨w', effects, answer⟩
  cases answer <;> simp only [World.enter, begun, hout]

theorem enter_direct_of_some (hc : w.circuit? a = some c) :
    w.enter (.direct a) = begun (.direct a)
      ((w.setCircuit a (c.arrive w.clock).1).note (heard a (c.arrive w.clock).2.1),
        heard a (c.arrive w.clock).2.1,
        (c.arrive w.clock).2.2.mapError fun e => CallResult.error (.rejected e)) := by
  rcases hout : c.arrive w.clock with ⟨c', effects, answer⟩
  cases answer <;> simp only [World.enter, begun, onCircuit, hc, hout] <;> rfl

theorem enter_direct_of_none (hc : w.circuit? a = none) :
    w.enter (.direct a) = (w, [], .error (.panicked ⟨"no such circuit"⟩)) := by
  unfold World.enter
  simp only [hc]

theorem Accounted.enter (h : w.Accounted held) (route : Route K) :
    Entered held route.address (w.enter route) := by
  cases route with
  | gateway ctx =>
    rw [enter_gateway]
    exact (h.enterGateway ctx).begun _
  | service number ctx inner =>
    rw [enter_service]
    exact (h.enterGateway ctx).begun _
  | direct a =>
    cases hc : w.circuit? a with
    | none =>
      rw [enter_direct_of_none hc]
      exact ⟨fun p hp => (nomatch hp), fun _ _ => h⟩
    | some c =>
      rw [enter_direct_of_some hc]
      exact (h.arrive hc _ _ _).begun _

theorem calls_enter (w : World K) (route : Route K) : (w.enter route).1.calls = w.calls := by
  cases route with
  | gateway ctx =>
    rw [enter_gateway, calls_begun]
    rfl
  | service number ctx inner =>
    rw [enter_service, calls_begun]
    rfl
  | direct a =>
    cases hc : w.circuit? a with
    | none => rw [enter_direct_of_none hc]
    | some c =>
      rw [enter_direct_of_some hc, calls_begun]
      cases a <;> rfl

/-! ## Calls by identifier -/

/-- What goes under the identifier is the call, as far as its permit is concerned. -/
structure Filed (w : World K) (id : String) (call : Call K) : Prop where
  of_some : ∀ call₀, w.calls.get? id = some call₀ →
    call₀.route = call.route ∧ call₀.permit = call.permit
  of_none : w.calls.get? id = none → call.permit = none

theorem Accounted.poll (h : w.Accounted held) (hf : w.Filed id call) :
    (w.poll id call).1.Accounted held := by
  unfold World.poll
  cases hp : call.permit with
  | some p =>
    cases hcall : w.calls.get? id with
    | none =>
      rw [hf.of_none hcall] at hp
      cases hp
    | some call₀ =>
      obtain ⟨hroute, hpermit⟩ := hf.of_some call₀ hcall
      have htaken := h.take hcall (hpermit.trans hp)
      rw [hroute] at htaken
      exact htaken.proceed
  | none =>
    have he := h.enter call.route
    have hcalls := w.calls_enter call.route
    rcases hout : w.enter call.route with ⟨w', effects, answer⟩
    rw [hout] at he hcalls
    have hnone : ∀ call₀, w'.calls.get? id = some call₀ → call₀.permit = none := by
      intro call₀ hcall
      change w'.calls = w.calls at hcalls
      rw [hcalls] at hcall
      exact (hf.of_some call₀ hcall).2.trans hp
    cases answer with
    | error result => exact (he.rejected result rfl).forget hnone
    | ok p => exact ((he.admitted p rfl).forget hnone).proceed

theorem Accounted.startCall (h : w.Accounted held) (id : String) (origin : Origin K)
    (outcome : Option (Action Json (Failure K))) (unpolled : Bool) :
    (w.startCall id origin outcome unpolled).1.Accounted held := by
  unfold World.startCall
  cases w.route origin with
  | error answer => exact h
  | ok route =>
    obtain ⟨hdropped, hnone⟩ := h.dropCall id
    cases unpolled with
    | true =>
      refine Accounted.putUnpolled (hdropped.forget fun call hcall => ?_) ?_
      · rw [hnone] at hcall
        cases hcall
      · rfl
    | false =>
      have hfiled : (w.dropCall id).1.Filed id { route, outcome } := by
        refine ⟨fun call hcall => ?_, fun _ => rfl⟩
        rw [hnone] at hcall
        cases hcall
      exact hdropped.poll hfiled

theorem Accounted.pollCall (h : w.Accounted held) (id : String)
    (outcome : Option (Action Json (Failure K))) :
    (w.pollCall id outcome).1.Accounted held := by
  unfold World.pollCall
  cases hcall : w.calls.get? id with
  | none => exact h
  | some call =>
    refine h.poll ⟨fun call₀ hcall₀ => ?_, fun hnone => ?_⟩
    · rw [hcall] at hcall₀
      cases hcall₀
      exact ⟨rfl, rfl⟩
    · rw [hcall] at hnone
      cases hnone

/-! ## Commands -/

omit [DecidableEq K] in
theorem reachable_command (command : CircuitCommand K) {now : Instant} {permits : List Permit}
    (h : c.Reachable now permits) : (command.run c now).1.Reachable now permits := by
  cases command with
  | bindClassifier f => exact h.bindClassifier f
  | classify kinds =>
    cases hk : kinds.mapM c.classify with
    | ok classes => simpa only [CircuitCommand.run, hk] using h
    | error panic => simpa only [CircuitCommand.run, hk] using h
  | info => exact h
  | snapshot => exact h.snapshot
  | forceOpen => exact h.forceOpen
  | forceClosed => exact h.forceClosed
  | reset => exact h.forceClosed

omit [DecidableEq K] in
theorem circuit?_of_locate {t : Target} (h : w.locate t = .ok (a, c)) : w.circuit? a = some c := by
  unfold World.locate at h
  split at h
  · cases h
  · split at h
    · rename_i hc
      cases h
      exact hc
    · cases h
  · split at h
    · rename_i hc
      cases h
      exact hc
    · cases h

omit [DecidableEq K] in
theorem Accounted.commandCircuit (h : w.Accounted held) (t : Target)
    (command : CircuitCommand K) : (w.commandCircuit t command).1.Accounted held := by
  unfold World.commandCircuit
  cases hl : w.locate t with
  | error answer => exact h
  | ok found =>
    obtain ⟨a, c⟩ := found
    exact h.update (circuit?_of_locate hl) _ fun _ hr => reachable_command command hr

omit [DecidableEq K] in
theorem Accounted.registry (h : w.Accounted held) (command : RegistryCommand K) :
    (w.onRegistry command.run).1.Accounted held :=
  (h.withRegistry (command.upkeep w.gateway.registry w.clock)).note _

omit [DecidableEq K] in
theorem Accounted.advance (h : w.Accounted held) (span : Duration) :
    (w.advance span).1.Accounted held := by
  unfold World.advance
  cases hnow : w.clock.after? span with
  | none => exact h
  | some now =>
    have hle := Instant.le_of_after?_eq_some hnow
    exact ⟨fun a c hc => (h.reachable a c hc).later hle, fun a hnone => h.known a hnone⟩

omit [DecidableEq K] in
theorem Accounted.makeCircuit (h : w.Accounted held) (id name : String) (policy : Policy) :
    (w.makeCircuit id name policy).1.Accounted held := by
  constructor
  · intro a c hc
    cases a with
    | named n => exact h.reachable (.named n) c hc
    | standalone number =>
      change (w.standalone ++ [.create name policy w.clock])[number]? = some c at hc
      by_cases hlt : number < w.standalone.length
      · rw [List.getElem?_append_left hlt] at hc
        exact h.reachable (.standalone number) c hc
      · have hnone : w.circuit? (.standalone number) = none :=
          List.getElem?_eq_none (Nat.not_lt.1 hlt)
        have hnil := h.known (.standalone number) hnone
        rw [List.getElem?_append_right (Nat.not_lt.1 hlt), List.getElem?_singleton] at hc
        split at hc
        · cases hc
          show Circuit.Reachable _ w.clock (w.out held (.standalone number))
          rw [hnil]
          exact .create name policy w.clock
        · cases hc
  · intro a hnone
    cases a with
    | named n => exact h.known (.named n) hnone
    | standalone number =>
      refine h.known (.standalone number) ?_
      change (w.standalone ++ [.create name policy w.clock])[number]? = none at hnone
      rw [List.getElem?_eq_none_iff, List.length_append] at hnone
      exact List.getElem?_eq_none (by omega)

omit [DecidableEq K] in
theorem Accounted.pollService (h : w.Accounted held) (id : String)
    (readiness : Readiness (Failure K)) : (w.pollService id readiness).1.Accounted held := by
  unfold World.pollService
  cases w.service id with
  | error answer => exact h
  | ok found => exact h.congr (fun _ => rfl) rfl rfl

/-- A motion that is not of a call gives out no permit and takes none back. -/
theorem Accounted.move (h : w.Accounted held) {m : Motion K} (hm : m.isOfCall = false) :
    (w.move m).1.Accounted held := by
  cases m with
  | control t command => exact h.commandCircuit t command
  | registry command => exact h.registry command
  | advance span => exact h.advance span
  | makeCircuit id name policy => exact h.makeCircuit id name policy
  | makeService id ctx => exact h.congr (fun _ => rfl) rfl rfl
  | pollService id readiness => exact h.pollService id readiness
  | _ => cases hm

theorem Accounted.command (h : w.Accounted held) (command : Command K) :
    (w.command command).1.Accounted held := by
  cases hcall : command.call? with
  | none =>
    exact fst_command_induction (P := (·.Accounted held)) hcall h fun m hm => h.move hm
  | some id =>
    cases command with
    | start id origin outcome unpolled => exact h.startCall id origin outcome unpolled
    | poll id => exact h.pollCall id none
    | finish id outcome => exact h.pollCall id (some outcome)
    | cancel id => exact (h.dropCall id).1
    | _ => cases hcall

/-! ## Steps -/

mutual

theorem accounted_step {w : World K} {held : List (Address × Permit)} (h : w.Accounted held)
    (step : Step K) : (w.step step).1.Accounted held := by
  cases step with
  | command c => exact h.command c
  | call ctx action during => exact accounted_blocking h (.gateway ctx) action during
  | invoke t action during =>
    unfold World.step
    cases w.address? t with
    | error answer => exact h
    | ok a => exact accounted_blocking h (.direct a) action during

/-- While the action runs, the permit is held on top of those held already. -/
theorem accounted_blocking {w : World K} {held : List (Address × Permit)} (h : w.Accounted held)
    (route : Route K) (action : Action Json (Failure K))
    (during : Option (List (Step K))) : (w.blocking route action during).1.Accounted held := by
  have he := h.enter route
  rcases hout : w.enter route with ⟨w', effects, answer⟩
  rw [hout] at he
  cases during with
  | none =>
    unfold World.blocking
    rw [hout]
    cases answer with
    | error result => exact he.rejected result rfl
    | ok p => exact (he.admitted p rfl).settle action
  | some steps =>
    unfold World.blocking
    rw [hout]
    cases answer with
    | error result => exact he.rejected result rfl
    | ok p => exact (accounted_steps (he.admitted p rfl) steps).settle action

theorem accounted_steps {w : World K} {held : List (Address × Permit)} (h : w.Accounted held)
    (steps : List (Step K)) : (w.steps steps).1.Accounted held := by
  cases steps with
  | nil => exact h
  | cons step steps =>
    unfold World.steps
    exact accounted_steps (accounted_step h step) steps

end

/-! ## Sessions -/

omit [DecidableEq K] in
/-- Nothing is out in a world that has only just got its registry. -/
theorem accounted_start (s : Setup K) : s.world.1.Accounted [] := by
  have hempty : ({ hierarchy := s.hierarchy
                   gateway :=
                     { registry := { standing := s.blueprint.standing }
                       mapper := s.mappers.getLast? }
                   listeners := s.blueprint.listeners } : World K).Accounted [] := by
    constructor
    · intro a c hc
      cases a <;> cases hc
    · intro a _
      rfl
  exact (hempty.withRegistry s.blueprint.upkeep_registry).note _

/-- **Traffic leads to every circuit of every session**, with just the permits out that calls in
flight hold. -/
theorem reachable_of_session (s : Setup K) (steps : List (Step K)) (a : Address)
    (hc : (s.world.1.steps steps).1.circuit? a = some c) :
    c.Reachable (s.world.1.steps steps).1.clock ((s.world.1.steps steps).1.out [] a) :=
  (accounted_steps (accounted_start s) steps).reachable a c hc

/-- So the circuits of a session are coherent, for one thing. -/
theorem coherent_of_session (s : Setup K) (steps : List (Step K)) (a : Address)
    (hc : (s.world.1.steps steps).1.circuit? a = some c) :
    c.Coherent (s.world.1.steps steps).1.clock := by
  obtain ⟨t, ht, rfl, hclock, -⟩ := reachable_of_session s steps a hc
  rw [← hclock]
  exact ht.sound.coherent

end World

end Breaker
