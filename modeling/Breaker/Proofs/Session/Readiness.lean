import Breaker.Proofs.Session.OneShot
import Breaker.Proofs.Session.Results

/-!
# Requests and the readiness of instances

Whoever makes calls through a service polls it first, until it is ready, and again before the next
call. The wrapper passes the polls on to the instance that it holds, but a call takes a copy of that
instance along, which nobody has polled. So every request meets an instance that is not ready, in
whatever order wrappers are polled, copied and called and calls are polled, ended and dropped
(`requests_meet_unready`).
-/

namespace Breaker

variable {K : Type}

/-- Whether the answer says that the action has been started. -/
def Answer.ran : Answer K → Bool
  | .pending ran | .ended _ ran => ran
  | _ => false

def Progress.ran : Progress K → Bool
  | .pending ran | .ended _ ran => ran

/-- The number of the service on the way. -/
def Route.service? : Route K → Option Nat
  | .service number _ _ => some number
  | _ => none

/-- The act is no blocking call through a service: such calls are started and polled. -/
def Act.Unserved : Act K → Prop
  | .enter route => route.service? = none
  | _ => True

/-- What may take place where services can be copied. -/
inductive Turn (K : Type) where
  | act (act : Act K) (unserved : act.Unserved)
  | clone (id copyId : String)

namespace Turn

def command (c : Command K) : Turn K := .act (.command c) trivial

/-- The services that are owed a call: polled with success, and neither called since nor replaced.
-/
def owed (ids : List String) : Turn K → List String
  | .act (.command (.pollService id .ready)) _ => id :: ids
  | .act (.command (.pollService id _)) _ | .act (.command (.start _ (.service id) _ _)) _
  | .act (.command (.makeService id _)) _ | .clone _ id => ids.filter (· ≠ id)
  | _ => ids

/-- Each call of a service has a poll of its own before it, which found the service ready. -/
def orderly (ids : List String) : List (Turn K) → Bool
  | [] => true
  | turn :: turns =>
    (match turn with
      | .act (.command (.start _ (.service id) _ _)) _ => ids.contains id
      | _ => true) && orderly (turn.owed ids) turns

end Turn

namespace World

/-- For each request to the service of the number: whether the instance was ready for it. -/
def requestsOf (w : World K) (number : Nat) : List Bool :=
  (w.services[number]?.map (·.requests)).getD []

/-- The service is there, and the instance that the call has taken along is not ready. -/
def Unready (w : World K) : Route K → Prop
  | .service number _ inner => number < w.services.length ∧ inner.ready = false
  | _ => True

/-- No call in flight has taken a ready instance along. -/
def Unprepared (w : World K) : Prop := ∀ id call, w.calls.get? id = some call → w.Unready call.route

/-- What becomes of services and of calls in flight, if `served` is the service that got a
request. -/
structure Handles (w w' : World K) (served : Option Nat) : Prop where
  length_le : w.services.length ≤ w'.services.length
  requests : ∀ n, w'.requestsOf n = w.requestsOf n ++ if served = some n then [false] else []
  unprepared : w'.Unprepared

variable {w w' w'' : World K} {id : String} {call : Call K} {route : Route K} {served : Option Nat}
  {p : Permit}

theorem Unready.mono (h : w.Unready route) (hle : w.services.length ≤ w'.services.length) :
    w'.Unready route := by
  cases route with
  | service number ctx inner => exact ⟨Nat.lt_of_lt_of_le h.1 hle, h.2⟩
  | gateway ctx => trivial
  | direct a => trivial

namespace Handles

/-- No request is made. -/
theorem still (hle : w.services.length ≤ w'.services.length)
    (hrequests : ∀ n, w'.requestsOf n = w.requestsOf n)
    (hcalls : ∀ id call, w'.calls.get? id = some call → w.Unready call.route) :
    Handles w w' none where
  length_le := hle
  requests n := by rw [hrequests, if_neg nofun, List.append_nil]
  unprepared id call hcall := (hcalls id call hcall).mono hle

theorem of_services (h : w'.services = w.services)
    (hcalls : ∀ id call, w'.calls.get? id = some call → w.Unready call.route) :
    Handles w w' none :=
  still (Nat.le_of_eq (by rw [h])) (fun n => by rw [requestsOf, h, requestsOf]) hcalls

theorem of_calls (hw : w.Unprepared) (h : w'.services = w.services) (hcalls : w'.calls = w.calls) :
    Handles w w' none := by
  refine of_services h fun id call hcall => ?_
  rw [hcalls] at hcall
  exact hw id call hcall

theorem refl (h : w.Unprepared) : Handles w w none := of_calls h rfl rfl

theorem erase (hw : w.Unprepared) (h : w'.services = w.services)
    (hcalls : w'.calls = w.calls.erase id) : Handles w w' none := by
  refine of_services h fun id' call hcall => ?_
  rw [hcalls, Table.get?_erase] at hcall
  split at hcall
  · cases hcall
  · exact hw id' call hcall

theorem insert (hw : w.Unprepared) (hroute : w.Unready call.route)
    (h : w'.services = w.services) (hcalls : w'.calls = w.calls.insert id call) :
    Handles w w' none := by
  refine of_services h fun id' call' hcall => ?_
  rw [hcalls, Table.get?_insert] at hcall
  split at hcall
  · cases hcall
    exact hroute
  · exact hw id' call' hcall

theorem before (h : Handles w w' none) (h' : Handles w' w'' served) : Handles w w'' served where
  length_le := Nat.le_trans h.length_le h'.length_le
  requests n := by
    have hfirst := h.requests n
    rw [if_neg nofun, List.append_nil] at hfirst
    rw [h'.requests n, hfirst]
  unprepared := h'.unprepared

theorem after (h : Handles w w' served) (h' : Handles w' w'' none) : Handles w w'' served where
  length_le := Nat.le_trans h.length_le h'.length_le
  requests n := by
    rw [h'.requests n, if_neg nofun, List.append_nil]
    exact h.requests n
  unprepared := h'.unprepared

end Handles

/-! ## Calls -/

/-- A request marks its service and nothing else. -/
theorem handles_request {number : Nat} {inner : Instance} (hw : w.Unprepared)
    (hnumber : number < w.services.length) (hinner : inner.ready = false)
    (h : w'.services = w.services.modify number (·.request inner)) (hcalls : w'.calls = w.calls) :
    Handles w w' (some number) := by
  have hlength : w'.services.length = w.services.length := by rw [h, List.length_modify]
  refine ⟨Nat.le_of_eq hlength.symm, fun n => ?_, fun id call hcall => ?_⟩
  · unfold requestsOf
    rw [h, List.getElem?_modify]
    by_cases hn : number = n
    · subst hn
      have hs := List.getElem?_eq_getElem hnumber
      simp only [hs, ↓reduceIte, Option.map_eq_map, Option.map_some, Option.getD_some,
        Service.request, hinner]
    · have hne : some number ≠ some n := fun h => hn (Option.some.inj h)
      simp only [hn, hne, ↓reduceIte, Option.map_eq_map, Option.map_id', List.append_nil]
  · rw [hcalls] at hcall
    exact (hw id call hcall).mono (Nat.le_of_eq hlength.symm)

variable [DecidableEq K]

omit [DecidableEq K] in
theorem handles_settle (hw : w.Unprepared) (a : Address) (p : Permit)
    (action : Action Json (Failure K)) : Handles w (w.settle a p action).1 none :=
  .of_calls hw (w.services_settle a p action) (w.calls_settle a p action)

omit [DecidableEq K] in
theorem ran_proceed (w : World K) (id : String) (call : Call K) (p : Permit) :
    (w.proceed id call p).2.2.ran = true := by
  unfold World.proceed
  cases call.outcome <;> rfl

omit [DecidableEq K] in
theorem handles_proceed (hw : w.Unprepared) (hroute : w.Unready call.route) (id : String)
    (p : Permit) : Handles w (w.proceed id call p).1 none := by
  have hservices := w.services_proceed id call p
  cases ho : call.outcome with
  | some action => exact .erase hw hservices (calls_proceed_of_decided ho w id p)
  | none =>
    have hcalls : (w.proceed id call p).1.calls =
        w.calls.insert id { call with permit := some p } := by rw [proceed_of_pending ho]
    refine .insert hw ?_ hservices hcalls
    exact hroute

theorem services_enter_direct (w : World K) (a : Address) :
    (w.enter (.direct a)).1.services = w.services := by
  cases hc : w.circuit? a with
  | none => rw [enter_direct_of_none hc]
  | some c =>
    rw [enter_direct_of_some hc, fst_begun World.services fun _ => rfl]
    cases a <;> rfl

/-- Entering gives the service on the way a request if the call is admitted. -/
theorem handles_enter (hw : w.Unprepared) (hroute : w.Unready route) :
    Handles w (w.enter route).1 (if (w.enter route).2.2.isOk then route.service? else none) := by
  have hcalls := w.calls_enter route
  cases route with
  | gateway ctx =>
    have hservices : (w.enter (.gateway ctx)).1.services = w.services := by
      rw [enter_eq_enterGateway]
      exact w.services_enterGateway ctx
    have hhandles := Handles.of_calls hw hservices hcalls
    rwa [← ite_self (none : Option Nat)] at hhandles
  | direct a =>
    have hhandles := Handles.of_calls hw (w.services_enter_direct a) hcalls
    rwa [← ite_self (none : Option Nat)] at hhandles
  | service number ctx inner =>
    obtain ⟨hnumber, hinner⟩ := hroute
    cases henter : (w.enter (.service number ctx inner)).2.2 with
    | error result =>
      have hctx : (Route.service number ctx inner).context? = some ctx := rfl
      exact .of_calls hw (services_of_rejected hctx henter) hcalls
    | ok p =>
      refine handles_request hw hnumber hinner ?_ hcalls
      have hservices := w.services_enterGateway ctx
      rw [enter_service, answer_begun] at henter
      rw [enter_service]
      rcases hout : w.enterGateway ctx with ⟨w', effects, answer⟩
      rw [hout] at henter hservices
      cases henter
      exact congrArg (·.modify number (·.request inner)) hservices

/-- So does the first poll of a call. -/
theorem handles_poll (hw : w.Unprepared) (id : String) (call : Call K)
    (hroute : w.Unready call.route) :
    Handles w (w.poll id call).1 (if (w.poll id call).2.2.ran then
      (if call.permit.isNone then some call.route else none).bind Route.service? else none) := by
  unfold World.poll
  cases hp : call.permit with
  | some p =>
    rw [Option.isNone_some, if_neg Bool.false_ne_true, Option.bind_none, ite_self]
    exact handles_proceed hw hroute id p
  | none =>
    have henter := handles_enter hw hroute
    rcases hout : w.enter call.route with ⟨w', effects, answer⟩
    rw [hout] at henter
    cases answer with
    | error result => exact henter.after (.erase henter.unprepared rfl rfl)
    | ok p =>
      have hran := w'.ran_proceed id call p
      have hproceed := handles_proceed henter.unprepared (hroute.mono henter.length_le) id p
      dsimp only
      rw [hran]
      exact henter.after hproceed

omit [DecidableEq K] in
theorem services_drop (w : World K) (id : String) (call : Call K) :
    (w.drop id call).1.services = w.services := by
  unfold World.drop
  cases call.permit with
  | none => rfl
  | some p =>
    cases hc : (w.forget id).circuit? call.route.address with
    | none =>
      simp only [hc]
      rfl
    | some c =>
      simp only [hc]
      cases call.route.address <;> rfl

omit [DecidableEq K] in
theorem handles_dropCall (hw : w.Unprepared) (id : String) : Handles w (w.dropCall id).1 none := by
  refine .erase hw ?_ (w.calls_dropCall id)
  unfold World.dropCall
  cases w.calls.get? id with
  | none => rfl
  | some call => exact w.services_drop id call

omit [DecidableEq K] in
theorem getElem?_of_service {sid : String} {number : Nat} {s : Service K (Failure K)}
    (h : w.service sid = .ok (number, s)) : w.services[number]? = some s := by
  unfold World.service at h
  cases hid : w.serviceIds.get? sid with
  | none =>
    simp only [hid] at h
    cases h
  | some n =>
    cases hs : w.services[n]? with
    | none =>
      simp only [hid, hs] at h
      cases h
    | some s' =>
      simp only [hid, hs] at h
      cases h
      exact hs

omit [DecidableEq K] in
/-- A call takes a copy along, not the instance that is polled. -/
theorem unready_of_route {origin : Origin K} (h : w.route origin = .ok route) :
    w.Unready route := by
  cases origin with
  | gateway ctx =>
    cases h
    trivial
  | direct t =>
    obtain ⟨a, rfl⟩ := direct_of_route h
    trivial
  | service sid =>
    rw [route_service] at h
    cases hs : w.service sid with
    | error answer =>
      rw [hs] at h
      cases h
    | ok found =>
      rw [hs] at h
      cases h
      exact ⟨(List.getElem?_eq_some_iff.1 (getElem?_of_service hs)).1, rfl⟩

omit [DecidableEq K] in
theorem ran_answer (progress : Progress K) : (Progress.answer progress).ran = progress.ran := by
  cases progress <;> rfl

/-! ## Commands -/

/-- The service that gets a request by the command: the one on the way of a call that is polled for
the first time, if that starts its action. -/
def requested? (w : World K) (command : Command K) : Option Nat :=
  if (w.command command).2.2.ran then (w.polls? command).bind Route.service? else none

theorem requested?_of_unpolled {command : Command K} (h : w.polls? command = none) :
    w.requested? command = none := by
  rw [requested?, h, Option.bind_none, ite_self]

theorem handles_startCall (hw : w.Unprepared) (id : String) (origin : Origin K)
    (outcome : Option (Action Json (Failure K))) (unpolled : Bool) :
    Handles w (w.startCall id origin outcome unpolled).1
      (w.requested? (.start id origin outcome unpolled)) := by
  cases hroute : w.route origin with
  | error answer =>
    have hpolls : w.polls? (.start id origin outcome unpolled) = none := by
      cases unpolled with
      | true => rfl
      | false =>
        simp only [polls?, hroute]
        rfl
    rw [requested?_of_unpolled hpolls]
    unfold World.startCall
    rw [hroute]
    exact .refl hw
  | ok route =>
    have hdrop := handles_dropCall hw id
    have hunready := (unready_of_route hroute).mono hdrop.length_le
    cases unpolled with
    | true =>
      rw [requested?_of_unpolled rfl]
      unfold World.startCall
      rw [hroute]
      refine hdrop.before (.insert hdrop.unprepared ?_ rfl rfl)
      exact hunready
    | false =>
      have hpolls : w.polls? (.start id origin outcome false) = some route := by
        simp only [polls?, hroute]
        rfl
      have hran : (w.command (.start id origin outcome false)).2.2.ran =
          ((w.dropCall id).1.poll id { route, outcome }).2.2.ran := by
        rw [← ran_answer]
        simp only [World.command, World.startCall, hroute]
        rfl
      rw [requested?, hpolls, hran]
      unfold World.startCall
      rw [hroute]
      exact hdrop.before (handles_poll hdrop.unprepared id { route, outcome } hunready)

theorem handles_pollCall {command : Command K} (hw : w.Unprepared) (id : String)
    (outcome : Option (Action Json (Failure K)))
    (hcommand : w.command command = w.pollCall id outcome)
    (hpolls : w.polls? command = w.polls? (.poll id)) :
    Handles w (w.command command).1 (w.requested? command) := by
  cases hcall : w.calls.get? id with
  | none =>
    have hnone : w.polls? command = none := by
      rw [hpolls]
      simp only [polls?, hcall, Option.bind_none]
    rw [requested?_of_unpolled hnone, hcommand]
    unfold World.pollCall
    rw [hcall]
    exact .refl hw
  | some call =>
    have hpolled := handles_poll hw id { call with outcome := outcome <|> call.outcome }
      (hw id call hcall)
    have hran : (w.command command).2.2.ran =
        (w.poll id { call with outcome := outcome <|> call.outcome }).2.2.ran := by
      rw [hcommand, ← ran_answer]
      simp only [World.pollCall, hcall]
    have hway : w.polls? (.poll id) = if call.permit.isNone then some call.route else none := by
      simp only [polls?, hcall, Option.bind_some]
    rw [requested?, hpolls, hway, hran, hcommand]
    unfold World.pollCall
    rw [hcall]
    exact hpolled

omit [DecidableEq K] in
/-- A poll of the wrapper may make its instance ready, and asks for nothing. -/
theorem handles_pollService (hw : w.Unprepared) (sid : String) (readiness : Readiness (Failure K)) :
    Handles w (w.pollService sid readiness).1 none := by
  unfold World.pollService
  cases hs : w.service sid with
  | error answer => exact .refl hw
  | ok found =>
    obtain ⟨number, s⟩ := found
    have hget := getElem?_of_service hs
    refine .still (Nat.le_of_eq List.length_set.symm) (fun n => ?_) hw
    unfold requestsOf
    dsimp only
    rw [List.getElem?_set]
    split
    · rename_i heq
      subst heq
      rw [if_pos (List.getElem?_eq_some_iff.1 hget).1, hget]
      rfl
    · rfl

omit [DecidableEq K] in
theorem handles_append {s : Service K (Failure K)} (hw : w.Unprepared)
    (h : w'.services = w.services ++ [s]) (hs : s.requests = []) (hcalls : w'.calls = w.calls) :
    Handles w w' none := by
  have hlength : w'.services.length = w.services.length + 1 := by
    rw [h, List.length_append, List.length_singleton]
  refine .still (by omega) (fun n => ?_) fun id call hcall => ?_
  · unfold requestsOf
    rw [h, List.getElem?_append]
    split
    · rfl
    · rename_i hle
      rw [List.getElem?_eq_none (Nat.not_lt.1 hle)]
      cases n - w.services.length with
      | zero => exact hs
      | succ k => rfl
  · rw [hcalls] at hcall
    exact hw id call hcall

/-- A motion that is not of a call makes no request. -/
theorem handles_move (hw : w.Unprepared) {m : Motion K} (hm : m.isOfCall = false) :
    Handles w (w.move m).1 none := by
  have hcalls := calls_move (w := w) hm
  cases m with
  | control t command =>
    refine .of_calls hw ?_ hcalls
    show (w.commandCircuit t command).1.services = w.services
    unfold commandCircuit
    cases w.locate t with
    | error answer => rfl
    | ok found =>
      obtain ⟨a, c⟩ := found
      cases a <;> rfl
  | registry command => exact .of_calls hw rfl hcalls
  | advance span =>
    refine .of_calls hw ?_ hcalls
    show (w.advance span).1.services = w.services
    unfold World.advance
    cases w.clock.after? span <;> rfl
  | makeCircuit id name policy => exact .of_calls hw rfl hcalls
  | makeService id ctx => exact handles_append hw rfl rfl hcalls
  | pollService id readiness => exact handles_pollService hw id readiness
  | _ => cases hm

theorem handles_command (hw : w.Unprepared) (command : Command K) :
    Handles w (w.command command).1 (w.requested? command) := by
  cases hcall : command.call? with
  | none =>
    rw [requested?_of_unpolled (polls?_of_call?_eq_none hcall)]
    exact fst_command_induction (P := fun w' => Handles w w' none) hcall (.refl hw)
      fun m hm => handles_move hw hm
  | some id =>
    cases command with
    | start id origin outcome unpolled => exact handles_startCall hw id origin outcome unpolled
    | poll id => exact handles_pollCall hw id none rfl rfl
    | finish id outcome => exact handles_pollCall hw id (some outcome) rfl rfl
    | cancel id =>
      rw [requested?_of_unpolled rfl]
      exact handles_dropCall hw id
    | _ => cases hcall

/-! ## Turns -/

def take (w : World K) : Turn K → World K
  | .act act _ => w.perform act
  | .clone id copyId => w.cloneService id copyId

/-- The world after the turns, in their order. -/
def takeAll (w : World K) (turns : List (Turn K)) : World K := turns.foldl take w

/-- The service that gets a request by the turn. -/
def asked? (w : World K) : Turn K → Option Nat
  | .act (.command command) _ => w.requested? command
  | _ => none

theorem handles_take (hw : w.Unprepared) (turn : Turn K) :
    Handles w (w.take turn) (w.asked? turn) := by
  cases turn with
  | clone id copyId =>
    show Handles w (w.cloneService id copyId) none
    unfold cloneService
    cases w.service id with
    | error answer => exact .refl hw
    | ok found => exact handles_append hw rfl rfl rfl
  | act act unserved =>
    cases act with
    | command command => exact handles_command hw command
    | settle a p action => exact handles_settle hw a p action
    | enter route =>
      change route.service? = none at unserved
      have hroute : w.Unready route := by
        cases route with
        | gateway ctx => trivial
        | direct a => trivial
        | service number ctx inner => cases unserved
      have henter := handles_enter hw hroute
      rw [unserved, ite_self] at henter
      exact henter

/-- No call in flight has a ready instance, and no request ever met one. -/
theorem unprepared_takeAll (hw : w.Unprepared) (hrequests : ∀ n, true ∉ w.requestsOf n)
    (turns : List (Turn K)) :
    (w.takeAll turns).Unprepared ∧ ∀ n, true ∉ (w.takeAll turns).requestsOf n := by
  induction turns generalizing w with
  | nil => exact ⟨hw, hrequests⟩
  | cons turn turns ih =>
    have htaken := handles_take hw turn
    refine ih htaken.unprepared fun n htrue => ?_
    rw [htaken.requests, List.mem_append] at htrue
    rcases htrue with htrue | htrue
    · exact hrequests n htrue
    · split at htrue
      · simp at htrue
      · cases htrue

/-- **Every request of a service meets an instance that is not ready**, in whatever order wrappers
are polled, copied and called and calls are polled, ended and dropped. No request has met a ready
one so far, so services were called as they should be only as long as they were not called at all;
and whatever is done next, the service whose call it admits gets one request more, which meets an
unready instance too. -/
theorem requests_meet_unready (s : Setup K) (turns : List (Turn K)) (n : Nat) :
    let w := s.world.1.takeAll turns
    true ∉ w.requestsOf n ∧ (false ∉ w.requestsOf n ↔ w.requestsOf n = []) ∧
      ∀ turn, (w.take turn).requestsOf n =
        w.requestsOf n ++ if w.asked? turn = some n then [false] else [] := by
  intro w
  have hstart : s.world.1.Unprepared := nofun
  have hnone : ∀ n, true ∉ s.world.1.requestsOf n := fun n => List.not_mem_nil
  obtain ⟨hw, hrequests⟩ := unprepared_takeAll hstart hnone turns
  refine ⟨hrequests n, ⟨fun hfalse => ?_, fun hnil => ?_⟩, fun turn => ?_⟩
  · refine List.eq_nil_iff_forall_not_mem.2 fun ready hready => ?_
    cases ready with
    | true => exact hrequests n hready
    | false => exact hfalse hready
  · rw [hnil]
    exact List.not_mem_nil
  · exact (handles_take hw turn).requests n

/-- A wrapper that is called right after it was found ready asks an instance that is not. -/
theorem orderly_request_unready :
    let s : Setup Unit := { hierarchy := { parent := fun _ => none, label := fun _ => "" } }
    let turns : List (Turn Unit) :=
      [.command (.makeService "s" ⟨"db", none⟩), .command (.pollService "s" .ready),
        .command (.start "t" (.service "s") (some (.ok (.nat 1))) true),
        .command (.pollService "s" .pending), .command (.poll "t")]
    Turn.orderly [] turns = true ∧ (s.world.1.takeAll turns).requestsOf 0 = [false] :=
  ⟨by decide +kernel, by decide +kernel⟩

end World

end Breaker
