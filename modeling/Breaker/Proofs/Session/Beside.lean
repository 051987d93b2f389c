import Breaker.Proofs.Service
import Breaker.Proofs.Session.Likeness
import Breaker.Proofs.Session.Traffic

/-!
# Worlds with one more call in flight

`w.Beside exact id call w'` says that `w'` is `w` but for the pending call `id`, and that its
services may have got other requests if not `exact`. Whatever spares the call, that is, does not
start, poll or drop one under its identifier, does the same in both worlds and leaves them so
(`Beside.steps`). That its action is still running is seen by nothing, and requests are seen by
counting them alone.
-/

namespace Breaker

variable {K : Type}

/-! ## Tables -/

namespace Table

variable {α : Type} {n m : String}

theorem insert_comm (t : Table α) (h : n ≠ m) (u v : α) :
    (t.insert n u).insert m v = (t.insert m v).insert n u := by
  refine ext_get? fun k => ?_
  rw [get?_insert, get?_insert, get?_insert, get?_insert]
  by_cases hn : k = n
  · rw [if_pos hn, if_pos hn, if_neg fun hm => h (hn.symm.trans hm)]
  · rw [if_neg hn, if_neg hn]

theorem erase_insert_of_ne (t : Table α) (h : n ≠ m) (u : α) :
    (t.insert n u).erase m = (t.erase m).insert n u := by
  refine ext_get? fun k => ?_
  rw [get?_erase, get?_insert, get?_insert, get?_erase]
  by_cases hn : k = n
  · rw [if_pos hn, if_pos hn, if_neg fun hm => h (hn.symm.trans hm)]
  · rw [if_neg hn, if_neg hn]

end Table

/-! ## What leaves a call alone -/

namespace Command

/-- The command neither starts, polls nor drops a call under the identifier. -/
def spares (id : String) : Command K → Bool
  | start id' _ _ _ | poll id' | finish id' _ | cancel id' => id' != id
  | _ => true

end Command

namespace Step

mutual

def spares (id : String) : Step K → Bool
  | .command c => c.spares id
  | .call _ _ during | .invoke _ _ during => sparesDuring id during

def sparesDuring (id : String) : Option (List (Step K)) → Bool
  | none => true
  | some during => sparesAll id during

/-- None of the steps, nor any inside them, has to do with a call under the identifier. -/
def sparesAll (id : String) : List (Step K) → Bool
  | [] => true
  | step :: steps => step.spares id && sparesAll id steps

end

end Step

namespace Step

variable {id : String}

mutual

theorem spares_of_mem_commands (step : Step K) (h : step.spares id = true) :
    ∀ c ∈ step.commands, c.spares id = true := by
  cases step with
  | command c => exact List.forall_mem_singleton.2 h
  | call ctx action during => exact spares_of_mem_commandsDuring during h
  | invoke t action during => exact spares_of_mem_commandsDuring during h

theorem spares_of_mem_commandsDuring (during : Option (List (Step K)))
    (h : sparesDuring id during = true) : ∀ c ∈ commandsDuring during, c.spares id = true := by
  cases during with
  | none => exact List.forall_mem_nil _
  | some steps => exact spares_of_mem_commandsAll steps h

/-- If the steps spare a call, so do all commands among them. -/
theorem spares_of_mem_commandsAll (steps : List (Step K)) (h : sparesAll id steps = true) :
    ∀ c ∈ commandsAll steps, c.spares id = true := by
  cases steps with
  | nil => exact List.forall_mem_nil _
  | cons step steps =>
    obtain ⟨hstep, hsteps⟩ := Bool.and_eq_true_iff.1 h
    exact List.forall_mem_append.2
      ⟨spares_of_mem_commands step hstep, spares_of_mem_commandsAll steps hsteps⟩

end

end Step

/-- The motion does not have the call under the identifier come or go. -/
def Motion.Spares (id : String) : Motion K → Prop
  | file id' _ | forget id' => id' ≠ id
  | _ => True

/-- What is heard of a step, apart from its answer. -/
def Report.heard {A : Type} (r : Report A) : List Record × List LogEntry × Table State :=
  (r.records, r.log, r.states)

namespace World

/-- The second world has one more call in flight, and its services may have got other requests. -/
inductive Beside (exact : Bool) (id : String) (call : Call K) (w : World K) : World K → Prop
  | intro (services : List (Service K (Failure K)))
    (alike : List.Forall₂ (Service.Alike exact) w.services services)
    (free : w.calls.get? id = none) :
    Beside exact id call w { w with calls := w.calls.insert id call, services }

/-- The second outcome is that of the same thing done beside the call. -/
structure Follows (exact : Bool) (id : String) (call : Call K) {α : Type}
    (out out' : World K × List Effect × α) : Prop where
  world : out.1.Beside exact id call out'.1
  effects : out'.2.1 = out.2.1
  answer : out'.2.2 = out.2.2

variable {exact : Bool} {id id' : String} {call call' : Call K} {w w' : World K}
  {α ε : Type} {a : Address} {c : Circuit K}

theorem route_service (w : World K) (sid : String) :
    w.route (.service sid) = (w.service sid).map fun (number, s) =>
      .service number ⟨s.name, s.rule⟩ s.instanceForRequest := by
  unfold World.service
  cases hid : w.serviceIds.get? sid with
  | none => simp only [World.route, hid, Except.map]
  | some number => cases hs : w.services[number]? <;> simp only [World.route, hid, hs, Except.map]

theorem Beside.begin (h : w.Beside exact id call w') (route : Route K) :
    (w.begin route).Beside exact id call (w'.begin route) := by
  cases route with
  | gateway ctx => exact h
  | direct a => exact h
  | service number ctx inner =>
    obtain ⟨services, alike, free⟩ := h
    exact .intro _ (Service.alike_modify alike number inner) free

/-- A call that has got its permit begins in both worlds. -/
theorem Follows.begun {out out' : World K × List Effect × Except ε Permit}
    (h : Follows exact id call out out') (route : Route K) :
    Follows exact id call (begun route out) (begun route out') := by
  obtain ⟨w, effects, answer⟩ := out
  obtain ⟨w', effects', answer'⟩ := out'
  obtain ⟨hworld, rfl, rfl⟩ := h
  cases answer' with
  | ok p => exact ⟨hworld.begin route, rfl, rfl⟩
  | error e => exact ⟨hworld, rfl, rfl⟩

namespace Beside

/-! ## Parts of the world -/

theorem free (h : w.Beside exact id call w') : w.calls.get? id = none := by
  cases h
  assumption

theorem calls (h : w.Beside exact id call w') : w'.calls = w.calls.insert id call := by
  cases h
  rfl

theorem circuit? (h : w.Beside exact id call w') (a : Address) :
    w'.circuit? a = w.circuit? a := by
  cases h
  rfl

theorem address? (h : w.Beside exact id call w') (t : Target) :
    w'.address? t = w.address? t := by
  cases h
  rfl

theorem locate (h : w.Beside exact id call w') (t : Target) : w'.locate t = w.locate t := by
  cases h
  rfl

theorem report (h : w.Beside exact id call w') (effects : List Effect) (answer : Answer K) :
    w'.report effects answer = w.report effects answer := by
  cases h
  rfl

theorem heard_report (h : w.Beside exact id call w') (effects : List Effect)
    (answer answer' : Answer K) :
    (w'.report effects answer').heard = (w.report effects answer).heard := by
  cases h
  rfl

theorem get?_calls (h : w.Beside exact id call w') (hne : id' ≠ id) :
    w'.calls.get? id' = w.calls.get? id' := by
  cases h
  exact (Table.get?_insert _ _ _ _).trans (if_neg hne)

theorem service (h : w.Beside exact id call w') (sid : String) :
    (∃ answer, w.service sid = .error answer ∧ w'.service sid = .error answer) ∨
      ∃ number s s', w.service sid = .ok (number, s) ∧ w'.service sid = .ok (number, s') ∧
        s.Alike exact s' := by
  obtain ⟨services, alike, free⟩ := h
  unfold World.service
  cases w.serviceIds.get? sid with
  | none => exact .inl ⟨_, rfl, rfl⟩
  | some number =>
    rcases Service.alike_getElem? alike number with ⟨hs, hs'⟩ | ⟨s, s', hs, hs', halike⟩
    · simp only [hs, hs']
      exact .inl ⟨_, rfl, rfl⟩
    · simp only [hs, hs']
      exact .inr ⟨number, s, s', rfl, rfl, halike⟩

theorem route (h : w.Beside exact id call w') (origin : Origin K) :
    w'.route origin = w.route origin := by
  cases origin with
  | gateway ctx => rfl
  | direct t => exact congrArg (Except.map Route.direct) (h.address? t)
  | service sid =>
    rw [route_service, route_service]
    rcases h.service sid with ⟨answer, hs, hs'⟩ | ⟨number, s, s', hs, hs', halike⟩
    · rw [hs, hs']
    · rw [hs, hs']
      simp only [Except.map, halike.name_eq, halike.rule_eq]
      rfl

/-- Requests are seen by those who count them. -/
theorem countRequests (h : w.Beside true id call w') (sid : String) :
    w'.countRequests sid = w.countRequests sid := by
  unfold World.countRequests
  rcases h.service sid with ⟨answer, hs, hs'⟩ | ⟨number, s, s', hs, hs', halike⟩
  · rw [hs, hs']
  · rw [hs, hs', halike.eq]

/-! ## Motions -/

theorem onCircuit (h : w.Beside exact id call w') (a : Address) (c : Circuit K)
    (op : Circuit K → Instant → Circuit K × List Effect × α) :
    Follows exact id call (w.onCircuit a c op) (w'.onCircuit a c op) := by
  obtain ⟨services, alike, free⟩ := h
  cases a <;> exact ⟨.intro services alike free, rfl, rfl⟩

theorem withCalls (h : w.Beside exact id call w') {calls calls' : Table (Call K)}
    (hfree : calls.get? id = none) (hcalls : calls' = calls.insert id call) :
    ({ w with calls } : World K).Beside exact id call { w' with calls := calls' } := by
  obtain ⟨services, alike, -⟩ := h
  rw [hcalls]
  exact .intro services alike hfree

theorem forget (h : w.Beside exact id call w') (hne : id' ≠ id) :
    (w.forget id').Beside exact id call (w'.forget id') := by
  refine h.withCalls ?_ ?_
  · rw [Table.get?_erase, h.free, ite_self]
  · rw [h.calls, Table.erase_insert_of_ne _ hne.symm]

theorem board (h : w.Beside exact id call w') (hne : id' ≠ id) (call' : Call K) :
    ({ w with calls := w.calls.insert id' call' } : World K).Beside exact id call
      { w' with calls := w'.calls.insert id' call' } := by
  refine h.withCalls ?_ ?_
  · rw [Table.get?_insert, h.free, if_neg hne.symm]
  · rw [h.calls, Table.insert_comm _ hne.symm]

theorem settle (h : w.Beside exact id call w') (a : Address) (p : Permit)
    (action : Action Json (Failure K)) :
    Follows exact id call (w.settle a p action) (w'.settle a p action) := by
  unfold World.settle
  rw [h.circuit?]
  cases w.circuit? a with
  | none => exact ⟨h, rfl, rfl⟩
  | some c => exact h.onCircuit a c _

theorem abandonAt (h : w.Beside exact id call w') (a : Address) (p : Permit) :
    Follows exact id call (w.abandonAt a p) (w'.abandonAt a p) := by
  unfold World.abandonAt
  rw [h.circuit?]
  cases w.circuit? a with
  | none => exact ⟨h, rfl, rfl⟩
  | some c => exact h.onCircuit a c _

theorem pollService (h : w.Beside exact id call w') (sid : String)
    (readiness : Readiness (Failure K)) :
    Follows exact id call (w.pollService sid readiness) (w'.pollService sid readiness) := by
  unfold World.pollService
  rcases h.service sid with ⟨answer, hs, hs'⟩ | ⟨number, s, s', hs, hs', halike⟩
  · rw [hs, hs']
    exact ⟨h, rfl, rfl⟩
  · rw [hs, hs']
    obtain ⟨services, alike, free⟩ := h
    exact ⟨.intro _ (Service.alike_set alike (halike.poll readiness) number) free, rfl, rfl⟩

theorem makeService (h : w.Beside exact id call w') (sid : String) (ctx : CallContext K) :
    Follows exact id call (w.makeService sid ctx) (w'.makeService sid ctx) := by
  obtain ⟨services, alike, free⟩ := h
  have halike : List.Forall₂ (Service.Alike exact)
      (w.services ++ [{ name := ctx.name, rule := ctx.rule }])
      (services ++ [{ name := ctx.name, rule := ctx.rule }]) :=
    List.rel_append alike (Service.alike_refl exact _)
  refine ⟨?_, rfl, rfl⟩
  unfold World.makeService
  rw [← alike.length_eq]
  exact .intro _ halike free

theorem commandCircuit (h : w.Beside exact id call w') (t : Target) (command : CircuitCommand K) :
    Follows exact id call (w.commandCircuit t command) (w'.commandCircuit t command) := by
  unfold World.commandCircuit
  rw [h.locate]
  cases w.locate t with
  | error answer => exact ⟨h, rfl, rfl⟩
  | ok found => exact h.onCircuit found.1 found.2 command.run

theorem advance (h : w.Beside exact id call w') (span : Duration) :
    Follows exact id call (w.advance span) (w'.advance span) := by
  obtain ⟨services, alike, free⟩ := h
  unfold World.advance
  cases w.clock.after? span with
  | none => exact ⟨.intro services alike free, rfl, rfl⟩
  | some now => exact ⟨.intro services alike free, rfl, rfl⟩

theorem onRegistry (h : w.Beside exact id call w')
    (op : Registry K → Instant → Registry K × List Effect × α) :
    Follows exact id call (w.onRegistry op) (w'.onRegistry op) := by
  obtain ⟨services, alike, free⟩ := h
  exact ⟨.intro services alike free, rfl, rfl⟩

theorem makeCircuit (h : w.Beside exact id call w') (cid name : String) (policy : Policy) :
    Follows exact id call (w.makeCircuit cid name policy) (w'.makeCircuit cid name policy) := by
  obtain ⟨services, alike, free⟩ := h
  exact ⟨.intro services alike free, rfl, rfl⟩

variable [DecidableEq K]

theorem enterGateway (h : w.Beside exact id call w') (ctx : CallContext K) :
    Follows exact id call (w.enterGateway ctx) (w'.enterGateway ctx) := by
  obtain ⟨services, alike, free⟩ := h
  exact ⟨.intro services alike free, rfl, rfl⟩

theorem enter (h : w.Beside exact id call w') (route : Route K) :
    Follows exact id call (w.enter route) (w'.enter route) := by
  cases route with
  | gateway ctx =>
    rw [enter_gateway, enter_gateway]
    exact (h.enterGateway ctx).begun _
  | service number ctx inner =>
    rw [enter_service, enter_service]
    exact (h.enterGateway ctx).begun _
  | direct a =>
    cases hc : w.circuit? a with
    | none =>
      rw [enter_direct_of_none hc, enter_direct_of_none ((h.circuit? a).trans hc)]
      exact ⟨h, rfl, rfl⟩
    | some c =>
      rw [enter_direct_of_some hc, enter_direct_of_some ((h.circuit? a).trans hc)]
      have harrive := h.onCircuit a c fun c now =>
        ((c.arrive now).1, (c.arrive now).2.1, (c.arrive now).2.2.mapError fun e =>
          (CallResult.error (.rejected e) : CallResult Json (Failure K)))
      exact harrive.begun (.direct a)

end Beside

/-! ## What is the same beside a call -/

/-- The second world has one more call in flight, and the answers are the same if `exact`. -/
def oneMoreCall (exact : Bool) (id : String) (call : Call K) : Likeness K :=
  .sameEffects (Beside exact id call) (fun answer answer' => exact = true → answer' = answer)
    fun _ _ => rfl

theorem map_eq_of_forall₂ {β : Type} {f : Report (Answer K) → β}
    {reports reports' : List (Report (Answer K))}
    (h : List.Forall₂ (fun report report' => f report' = f report) reports reports') :
    reports'.map f = reports.map f := by
  induction h with
  | nil => rfl
  | cons hreport _ ih => rw [List.map_cons, List.map_cons, hreport, ih]

theorem eq_of_forall₂ {reports reports' : List (Report (Answer K))}
    (h : List.Forall₂ (fun report report' => report'.heard = report.heard ∧
      (exact = true → report' = report)) reports reports') (hexact : exact = true) :
    reports' = reports := by
  have hmap := map_eq_of_forall₂ (f := id) (h.imp fun _ _ hreport => hreport.2 hexact)
  rwa [List.map_id, List.map_id] at hmap

def besideTelling (exact : Bool) (id : String) (call : Call K) :
    (oneMoreCall exact id call).Telling where
  reports report report' := report'.heard = report.heard ∧ (exact = true → report' = report)
  report := by
    rintro w w' effects effects' answer answer' hw rfl h
    refine ⟨hw.heard_report effects' answer answer', fun hexact => ?_⟩
    rw [h hexact]
    exact hw.report effects' answer
  ran result _ _ h hexact := by rw [eq_of_forall₂ h hexact]
  rejected h hexact := by
    cases h hexact
    rfl

variable [DecidableEq K]

/-- **A motion that spares the call does beside it what it does without it.** -/
theorem Beside.move (h : w.Beside exact id call w') {m : Motion K} (hspares : m.Spares id) :
    Follows exact id call (w.move m) (w'.move m) := by
  cases m with
  | enter route => exact h.enter route
  | settle a p action => exact h.settle a p action
  | abandon a p => exact h.abandonAt a p
  | file id' call' => exact ⟨h.board hspares call', rfl, rfl⟩
  | forget id' => exact ⟨h.forget hspares, rfl, rfl⟩
  | control t command => exact h.commandCircuit t command
  | registry command => exact h.onRegistry command.run
  | advance span => exact h.advance span
  | makeCircuit cid name policy => exact h.makeCircuit cid name policy
  | makeService sid ctx => exact h.makeService sid ctx
  | pollService sid readiness => exact h.pollService sid readiness

theorem respects_beside (exact : Bool) (id : String) (call : Call K) :
    (oneMoreCall exact id call).Respects (·.Spares id) := by
  intro m hspares w w' hw
  have hmove := hw.move hspares
  exact .of_eq hmove.world hmove.effects hmove.answer

/-- All that is looked at is the same, but for the number of requests if not `exact`. -/
theorem Beside.looks (h : w.Beside exact id call w') {command : Command K} (hlooks : command.Looks)
    (hexact : exact = true) : (w'.command command).2.2 = (w.command command).2.2 := by
  subst hexact
  cases hlooks with
  | countRequests sid => exact h.countRequests sid
  | _ =>
    obtain ⟨services, alike, free⟩ := h
    rfl

theorem Beside.command (h : w.Beside exact id call w') (c : Command K)
    (hspares : c.spares id = true) :
    (oneMoreCall exact id call).Alike (oneMoreCall exact id call).answers (w.command c)
      (w'.command c) := by
  have hne : ∀ id' ∈ c.call?, id' ≠ id := by
    intro id' hid
    cases c with
    | start | poll | finish | cancel =>
      cases hid
      exact bne_iff_ne.1 hspares
    | _ => cases hid
  have huses : (w.script c).Uses (·.Spares id) := by
    refine uses_script ?_ (fun id' route hdrives => ?_) fun m hm => ?_
    · rintro id' origin outcome unpolled route rfl -
      exact hne id' rfl
    · have hid : id' ≠ id := by
        cases hdrives with
        | makes => exact hne id' rfl
        | goesOn names => exact hne id' names
      exact ⟨trivial, fun _ _ => trivial, fun _ => trivial, fun _ _ => hid, hid⟩
    · have hcall := Command.isOfCall_of_motion? hm
      cases m with
      | file => cases hcall
      | forget => cases hcall
      | _ => trivial
  exact (respects_beside exact id call).command h huses (fun origin _ => h.route origin)
    (fun id' hid => h.get?_calls (hne id' hid)) h.looks

theorem sustains_beside (exact : Bool) (id : String) (call : Call K) :
    (oneMoreCall exact id call).Sustains (·.spares id = true) where
  address? h t := h.address? t
  enter h route := respects_beside exact id call (.enter route) trivial _ _ h
  settle h a p action := respects_beside exact id call (.settle a p action) trivial _ _ h
  command h c hspares := h.command c hspares

/-- Steps beside a call are heard alike, and answered alike if `exact`. -/
structure FollowAll (exact : Bool) (id : String) (call : Call K)
    (out out' : World K × List (Report (Answer K))) : Prop where
  world : out.1.Beside exact id call out'.1
  heard : out'.2.map Report.heard = out.2.map Report.heard
  reports : exact = true → out'.2 = out.2

/-- **Steps that spare the call do beside it what they do without it.** -/
theorem Beside.steps (h : w.Beside exact id call w') (steps : List (Step K))
    (hspares : Step.sparesAll id steps = true) :
    FollowAll exact id call (w.steps steps) (w'.steps steps) := by
  have hsteps := (sustains_beside exact id call).steps (besideTelling exact id call) h steps
    (Step.spares_of_mem_commandsAll steps hspares)
  exact ⟨hsteps.world, map_eq_of_forall₂ (hsteps.reports.imp fun _ _ hreport => hreport.1),
    eq_of_forall₂ hsteps.reports⟩

end World

end Breaker
