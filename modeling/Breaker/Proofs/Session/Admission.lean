import Breaker.Proofs.Session.Names
import Breaker.Proofs.Session.Passage
import Mathlib.Data.List.Induction

/-!
# How calls get their permits

An act leaves a call in flight with the permit that it had, or polls it for the first time and the
circuit on its way has just given it one (`inFlight_perform`). So the history of a call that has its
permit leads back to its admission, and since then the call has been in flight all along
(`exists_admission`).
-/

namespace Breaker

variable {K : Type}

/-- The call that a command polls. -/
def Command.polled? : Command K → Option String
  | start id _ _ false | poll id | finish id _ => some id
  | _ => none

namespace World

/-- There is a call in flight under the identifier, on this way and with this permit. -/
def InFlight (w : World K) (id : String) (route : Route K) (permit : Option Permit) : Prop :=
  ∃ outcome, w.calls.get? id = some { route, permit, outcome }

variable [DecidableEq K] {w w' : World K} {act : Act K} {acts : List (Act K)} {id id' : String}
  {route : Route K} {permit : Option Permit} {p : Permit} {call : Call K} {c : Circuit K}
  {a : Address}

/-- The act polls the call under the identifier for the first time, and the call gets its permit
from the circuit on its way, which is `c` then. -/
structure Admits (w : World K) (act : Act K) (id : String) (route : Route K) (p : Permit)
    (c : Circuit K) : Prop where
  polls : ∃ command, act = .command command ∧ command.polled? = some id ∧
    w.polls? command = some route
  circuit : (w.perform act).circuit? route.address = some c
  grants : c.Grants (w.perform act).clock p

/-- The call was admitted by one of the acts, and has been in flight ever since. -/
structure Admission (w : World K) (acts : List (Act K)) (id : String) (route : Route K) (p : Permit)
    (before : List (Act K)) (act : Act K) (since : List (Act K)) (c : Circuit K) : Prop where
  split : acts = before ++ act :: since
  admits : (w.play before).Admits act id route p c
  stays : ∀ l, l <+: since → (w.play (before ++ act :: l)).InFlight id route (some p)

/-! ## Calls and their circuits -/

/-- The call arrives at the circuit `c`, which is the one at its address or has just been made. -/
structure Arrives (w : World K) (route : Route K) (c : Circuit K) : Prop where
  circuit : (w.enter route).1.circuit? route.address = some (c.arrive w.clock).1
  answer : ∀ p, (w.enter route).2.2 = .ok p ↔ (c.arrive w.clock).2.2 = .ok p
  found : ∀ c₀, w.circuit? route.address = some c₀ → c = c₀ ∨ ∃ f, c = (c₀.bindClassifier f).1

theorem arrives_of_begun {ctx : CallContext K} (hname : route.address = .named ctx.name)
    (henter : w.enter route = begun route (w.enterGateway ctx)) : w.Arrives route
      (w.gateway.registry.resolve ctx.name (ctx.rule.map (.ofRule w.hierarchy)) w.clock).2.2 where
  circuit := by
    rw [henter, hname]
    rw [fst_begun (World.circuit? · _) fun w => by cases route <;> rfl]
    exact w.circuit?_enterGateway_self ctx
  answer p := by
    rw [henter, answer_begun]
    exact w.answer_enterGateway ctx p
  found c₀ hc₀ := by
    rw [hname] at hc₀
    obtain ⟨e, he, rfl⟩ := Option.map_eq_some_iff.1 hc₀
    rw [Registry.resolve_of_some he]
    exact Deed.circuit_declare ctx.name e (ctx.rule.map (.ofRule w.hierarchy))

/-- A call arrives at some circuit, unless it is made on one that is not there. -/
theorem arrives_enter (w : World K) (route : Route K) :
    (∃ c, w.Arrives route c) ∨
      w.circuit? route.address = none ∧ ∀ p, (w.enter route).2.2 ≠ .ok p := by
  cases route with
  | gateway ctx => exact .inl ⟨_, arrives_of_begun rfl (w.enter_gateway ctx)⟩
  | service number ctx inner =>
    exact .inl ⟨_, arrives_of_begun rfl (w.enter_service number ctx inner)⟩
  | direct a =>
    cases hc : w.circuit? a with
    | none =>
      refine .inr ⟨hc, fun p hp => ?_⟩
      rw [enter_direct_of_none hc] at hp
      cases hp
    | some c =>
      refine .inl ⟨c, ?_, fun p => ?_, fun c₀ hc₀ => .inl ?_⟩
      · rw [enter_direct_of_some hc, fst_begun (World.circuit? · _) fun w => rfl]
        have hset := circuit?_setCircuit hc (c.arrive w.clock).1 a
        rw [if_pos rfl] at hset
        exact hset
      · rw [enter_direct_of_some hc, answer_begun]
        exact mapError_eq_ok_iff
      · exact Option.some.inj (hc.symm.trans hc₀)

/-- The circuit that gives the permit. -/
theorem grants_enter (h : (w.enter route).2.2 = .ok p) :
    ∃ c, (w.enter route).1.circuit? route.address = some c ∧ c.Grants w.clock p := by
  rcases w.arrives_enter route with ⟨c, harrives⟩ | ⟨-, hnone⟩
  · exact ⟨_, harrives.circuit, Circuit.grants_of_arrive ((harrives.answer p).1 h)⟩
  · exact absurd h (hnone p)

/-! ## The calls in flight -/

omit [DecidableEq K] in
theorem calls_settle (w : World K) (a : Address) (p : Permit) (action : Action Json (Failure K)) :
    (w.settle a p action).1.calls = w.calls := by
  unfold World.settle
  cases w.circuit? a with
  | none => rfl
  | some c => cases a <;> rfl

omit [DecidableEq K] in
theorem calls_drop (w : World K) (id : String) (call : Call K) :
    (w.drop id call).1.calls = w.calls.erase id := by
  unfold World.drop
  cases call.permit with
  | none => rfl
  | some p =>
    cases hc : (w.forget id).circuit? call.route.address with
    | none =>
      simp only [hc]
      rfl
    | some c =>
      simp only [hc]
      cases call.route.address <;> rfl

omit [DecidableEq K] in
theorem calls_dropCall (w : World K) (id : String) :
    (w.dropCall id).1.calls = w.calls.erase id := by
  unfold World.dropCall
  cases hcall : w.calls.get? id with
  | none => exact (Table.erase_of_get?_eq_none hcall).symm
  | some call => exact w.calls_drop id call

theorem clock_enter (w : World K) (route : Route K) : (w.enter route).1.clock = w.clock := by
  cases route with
  | gateway ctx => rw [enter_gateway, fst_begun World.clock fun w => rfl]; rfl
  | service number ctx inner => rw [enter_service, fst_begun World.clock fun w => rfl]; rfl
  | direct a =>
    cases hc : w.circuit? a with
    | none => rw [enter_direct_of_none hc]
    | some c =>
      rw [enter_direct_of_some hc, fst_begun World.clock fun w => rfl]
      cases a <;> rfl

/-- What a poll leaves of a call: nothing, or the call with its permit. -/
inductive Polled (w w' : World K) (id : String) (call : Call K) : Prop
  | gone (calls : w'.calls = w.calls.erase id)
  | kept (p : Permit) (calls : w'.calls = w.calls.insert id { call with permit := some p })
    (had : call.permit = some p)
  | admitted (p : Permit) (c : Circuit K)
    (calls : w'.calls = w.calls.insert id { call with permit := some p })
    (hadNone : call.permit = none) (circuit : w'.circuit? call.route.address = some c)
    (grants : c.Grants w'.clock p)

omit [DecidableEq K] in
theorem proceed_of_pending (h : call.outcome = none) (w : World K) (id : String) (p : Permit) :
    (w.proceed id call p).1 =
      { w with calls := w.calls.insert id { call with permit := some p } } := by
  simp only [World.proceed, h]

omit [DecidableEq K] in
theorem calls_proceed_of_decided {action : Action Json (Failure K)}
    (h : call.outcome = some action) (w : World K) (id : String) (p : Permit) :
    (w.proceed id call p).1.calls = w.calls.erase id := by
  simp only [World.proceed, h]
  exact congrArg (Table.erase · id) (w.calls_settle call.route.address p action)

theorem polled_poll (w : World K) (id : String) (call : Call K) :
    Polled w (w.poll id call).1 id call := by
  unfold World.poll
  cases hp : call.permit with
  | some p =>
    cases ho : call.outcome with
    | some action => exact .gone (calls_proceed_of_decided ho w id p)
    | none =>
      refine .kept p ?_ hp
      show (w.proceed id call p).1.calls = _
      rw [proceed_of_pending ho]
  | none =>
    have hcalls := w.calls_enter call.route
    have hclock := w.clock_enter call.route
    have hgrants := @grants_enter _ _ w call.route
    rcases hout : w.enter call.route with ⟨w', effects, answer⟩
    rw [hout] at hcalls hclock hgrants
    change w'.calls = w.calls at hcalls
    change w'.clock = w.clock at hclock
    cases answer with
    | error result => exact .gone (congrArg (Table.erase · id) hcalls)
    | ok p =>
      show Polled w (w'.proceed id call p).1 id call
      cases ho : call.outcome with
      | some action => exact .gone ((calls_proceed_of_decided ho w' id p).trans (hcalls ▸ rfl))
      | none =>
        obtain ⟨c, hc, hgrant⟩ := hgrants rfl
        rw [proceed_of_pending ho]
        refine .admitted p c (hcalls ▸ rfl) hp ?_ (hclock ▸ hgrant)
        rw [← hc]
        cases call.route.address <;> rfl

/-! ## One act -/

omit [DecidableEq K] in
theorem inFlight_insert (calls : Table (Call K)) (hcalls : w'.calls = calls.insert id' call)
    (h : w'.InFlight id route permit) :
    id = id' ∧ call.route = route ∧ call.permit = permit ∨
      id ≠ id' ∧ ∃ outcome, calls.get? id = some { route, permit, outcome } := by
  obtain ⟨outcome, hget⟩ := h
  rw [hcalls, Table.get?_insert] at hget
  split at hget
  · rename_i heq
    cases hget
    exact .inl ⟨heq, rfl, rfl⟩
  · rename_i hne
    exact .inr ⟨hne, outcome, hget⟩

omit [DecidableEq K] in
theorem inFlight_erase {calls : Table (Call K)} (hcalls : w'.calls = calls.erase id')
    (h : w'.InFlight id route permit) :
    id ≠ id' ∧ ∃ outcome, calls.get? id = some { route, permit, outcome } := by
  obtain ⟨outcome, hget⟩ := h
  rw [hcalls, Table.get?_erase] at hget
  split at hget
  · cases hget
  · rename_i hne
    exact ⟨hne, outcome, hget⟩

omit [DecidableEq K] in
theorem InFlight.of_calls (h : w'.InFlight id route permit) (hcalls : w'.calls = w.calls) :
    w.InFlight id route permit := by
  unfold InFlight at h ⊢
  rwa [hcalls] at h

/-- Where a call comes from that is in flight after the act. -/
inductive Descends (w : World K) (act : Act K) (id : String) (route : Route K) :
    Option Permit → Prop
  /-- It has not been polled yet. -/
  | unpolled : Descends w act id route none
  | admitted (p : Permit) (c : Circuit K) (admits : w.Admits act id route p c) :
    Descends w act id route (some p)
  /-- It was in flight before, with the same permit. -/
  | carried (permit : Option Permit) (inFlight : w.InFlight id route permit) :
    Descends w act id route permit

theorem descends_startCall {origin : Origin K} {outcome : Option (Action Json (Failure K))}
    {unpolled : Bool} (h : (w.startCall id' origin outcome unpolled).1.InFlight id route permit) :
    w.Descends (.command (.start id' origin outcome unpolled)) id route permit := by
  have hperform : w.perform (.command (.start id' origin outcome unpolled)) =
      (w.startCall id' origin outcome unpolled).1 := rfl
  have hdropped {outcome : Option (Action Json (Failure K))}
      (hne : id ≠ id') (hget : (w.dropCall id').1.calls.get? id = some { route, permit, outcome }) :
      w.InFlight id route permit := (inFlight_erase (w.calls_dropCall id') ⟨outcome, hget⟩).2
  unfold World.startCall at h hperform
  cases hroute : w.route origin with
  | error answer =>
    rw [hroute] at h
    exact .carried permit h
  | ok way =>
    rw [hroute] at h hperform
    cases unpolled with
    | true =>
      rcases inFlight_insert (w.dropCall id').1.calls rfl h with
        ⟨rfl, -, rfl⟩ | ⟨hne, outcome, hget⟩
      · exact .unpolled
      · exact .carried permit (hdropped hne hget)
    | false =>
      have hpolled := (w.dropCall id').1.polled_poll id' { route := way, outcome }
      cases hpolled with
      | gone calls =>
        obtain ⟨hne, outcome, hget⟩ := inFlight_erase calls h
        exact .carried permit (hdropped hne hget)
      | kept p calls had => cases had
      | admitted p c calls hadNone circuit grants =>
        rcases inFlight_insert _ calls h with ⟨rfl, rfl, rfl⟩ | ⟨hne, outcome, hget⟩
        · refine .admitted p c ⟨⟨_, rfl, rfl, ?_⟩, ?_, ?_⟩
          · simp only [polls?, hroute, Except.toOption]
          · rw [hperform]
            exact circuit
          · rw [hperform]
            exact grants
        · exact .carried permit (hdropped hne hget)

theorem descends_pollCall {command : Command K} (outcome : Option (Action Json (Failure K)))
    (hcommand : (w.command command).1 = (w.pollCall id' outcome).1)
    (hpolled : command.polled? = some id') (hpolls : w.polls? command = w.polls? (.poll id'))
    (h : (w.command command).1.InFlight id route permit) :
    w.Descends (.command command) id route permit := by
  have hperform : w.perform (.command command) = (w.pollCall id' outcome).1 := hcommand
  rw [hcommand] at h
  unfold World.pollCall at h hperform
  cases hcall : w.calls.get? id' with
  | none =>
    rw [hcall] at h
    exact .carried permit h
  | some call =>
    rw [hcall] at h hperform
    have hpoll := w.polled_poll id' { call with outcome := outcome <|> call.outcome }
    cases hpoll with
    | gone calls => exact .carried permit (inFlight_erase calls h).2
    | kept p calls had =>
      rcases inFlight_insert _ calls h with ⟨rfl, rfl, rfl⟩ | ⟨-, hget⟩
      · refine .carried _ ⟨call.outcome, hcall.trans ?_⟩
        change call.permit = some p at had
        rw [← had]
      · exact .carried permit hget
    | admitted p c calls hadNone circuit grants =>
      rcases inFlight_insert _ calls h with ⟨rfl, rfl, rfl⟩ | ⟨-, hget⟩
      · refine .admitted p c ⟨⟨command, rfl, hpolled, ?_⟩, ?_, ?_⟩
        · change call.permit = none at hadNone
          rw [hpolls]
          simp only [polls?, hcall, hadNone, Option.bind_some, Option.isNone_none, ↓reduceIte]
        · rw [hperform]
          exact circuit
        · rw [hperform]
          exact grants
      · exact .carried permit hget

/-- A motion that is not of a call has nothing to do with those in flight. -/
theorem calls_move {m : Motion K} (hm : m.isOfCall = false) : (w.move m).1.calls = w.calls := by
  cases m with
  | control t command =>
    show (w.commandCircuit t command).1.calls = w.calls
    unfold commandCircuit
    cases w.locate t with
    | error answer => rfl
    | ok found =>
      obtain ⟨a, c⟩ := found
      cases a <;> rfl
  | advance span =>
    show (w.advance span).1.calls = w.calls
    unfold World.advance
    cases w.clock.after? span <;> rfl
  | pollService id readiness =>
    show (w.pollService id readiness).1.calls = w.calls
    unfold World.pollService
    cases w.service id <;> rfl
  | registry command => rfl
  | makeCircuit id name policy => rfl
  | makeService id ctx => rfl
  | _ => cases hm

theorem descends_command (command : Command K)
    (h : (w.command command).1.InFlight id route permit) :
    w.Descends (.command command) id route permit := by
  cases hcall : command.call? with
  | none =>
    have hcalls : (w.command command).1.calls = w.calls :=
      fst_command_induction (P := fun w' => w'.calls = w.calls) hcall rfl fun m hm => calls_move hm
    exact .carried permit (h.of_calls hcalls)
  | some id' =>
    cases command with
    | start id' origin outcome unpolled => exact descends_startCall h
    | poll id' => exact descends_pollCall none rfl rfl rfl h
    | finish id' outcome => exact descends_pollCall (some outcome) rfl rfl rfl h
    | cancel id' => exact .carried permit (inFlight_erase (w.calls_dropCall id') h).2
    | _ => cases hcall

/-- A call in flight has not been polled, or has just been admitted, or was in flight before. -/
theorem inFlight_perform (h : (w.perform act).InFlight id route permit) :
    w.Descends act id route permit := by
  cases act with
  | command command => exact descends_command command h
  | enter route' => exact .carried permit (h.of_calls (w.calls_enter route'))
  | settle a p action => exact .carried permit (h.of_calls (w.calls_settle a p action))

/-! ## A history -/

/-- Every call that has its permit got it by an act of the history. -/
theorem exists_admission (hempty : ∀ id, w.calls.get? id = none) (acts : List (Act K))
    (h : (w.play acts).InFlight id route (some p)) :
    ∃ before act since c, w.Admission acts id route p before act since c := by
  induction acts using List.reverseRecOn with
  | nil =>
    obtain ⟨outcome, hget⟩ := h
    rw [play_nil, hempty id] at hget
    cases hget
  | append_singleton acts last ih =>
    have hnow := h
    rw [play_snoc] at h
    cases inFlight_perform h with
    | admitted _ c admits =>
      refine ⟨acts, last, [], c, rfl, admits, fun l hl => ?_⟩
      rw [List.prefix_nil.1 hl]
      exact hnow
    | carried _ inFlight =>
      obtain ⟨before, act, since, c, rfl, admits, stays⟩ := ih inFlight
      refine ⟨before, act, since ++ [last], c, by simp, admits, fun l hl => ?_⟩
      rcases List.prefix_concat_iff.1 hl with rfl | hl
      · rwa [List.append_assoc, List.cons_append] at hnow
      · exact stays l hl

end World

end Breaker
