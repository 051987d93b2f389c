import Breaker.Proofs.Gateway
import Breaker.Proofs.Session.Admission
import Breaker.Proofs.Session.Ways

/-!
# The ends of calls as they are reported

A call that ends is reported with its result, whether it was made blockingly or has been polled,
and on whatever way it was made. The result shows whether the action ran, in all reports of a
session and in the reports inside them (`steps_reveal`).
-/

namespace Breaker

variable {K : Type}

namespace Answer

/-- The result of a call that has ended, and whether its action ran. -/
def outcome? : Answer K → Option (CallResult Json (Failure K) × Bool)
  | .ended result ran => some (result, ran)
  | .endedDuring result reports => some (result, reports.isSome)
  | _ => none

/-- The reports of what took place while the action ran. -/
def inner : Answer K → List (Report (Answer K))
  | .endedDuring _ (some reports) => reports
  | _ => []

end Answer

/-- One of the reports, or a report inside one of them. -/
inductive Report.Within (r : Report (Answer K)) : List (Report (Answer K)) → Prop
  | head (reports : List (Report (Answer K))) : Within r (r :: reports)
  | tail (other : Report (Answer K)) {reports : List (Report (Answer K))}
    (within : Within r reports) : Within r (other :: reports)
  | inside (reports : List (Report (Answer K))) {other : Report (Answer K)}
    (within : Within r other.answer.inner) : Within r (other :: reports)

/-- If the answer tells the end of a call, its result shows whether the action ran. -/
def Answer.Reveals (answer : Answer K) : Prop :=
  ∀ result ran, answer.outcome? = some (result, ran) → result.Shows ran

/-- The answer tells nothing of calls. -/
structure Answer.Plain (answer : Answer K) : Prop where
  outcome? : answer.outcome? = none
  inner : answer.inner = []

theorem Answer.Plain.reveals {answer : Answer K} (h : answer.Plain) : answer.Reveals := by
  intro result ran houtcome
  rw [h.outcome?] at houtcome
  cases houtcome

namespace World

/-- What the caller is told of an action that has ended: its own result, unless the classifier of
the circuit panics. -/
def passedOn (w : World K) (a : Address) (action : Action Json (Failure K)) :
    CallResult Json (Failure K) :=
  match w.circuit? a with
  | none => action.result
  | some c => c.passedOn Failure.kind action

/-- How far a running call has come. -/
def progress (w : World K) (call : Call K) : Progress K :=
  match call.outcome with
  | none => .pending true
  | some action => .ended (w.passedOn call.route.address action) true

variable [DecidableEq K]

/-- The poll takes the call, which runs with the permit, on from the world `w'`: no action is
started. -/
structure Proceeds (w w' : World K) (id : String) (call : Call K) (p : Permit) : Prop where
  answer : (w.poll id call).2.2 = w'.progress call
  stays : call.outcome = none →
    (w.poll id call).1.calls.get? id = some { call with permit := some p }
  services : (w.poll id call).1.services = w'.services

variable {w : World K} {a : Address} {id : String} {call : Call K} {p : Permit} {route : Route K}
  {ctx : CallContext K} {e : OpenError} {effects : List Effect} {w₁ : World K}
  {result : CallResult Json (Failure K)}

/-! ## The two halves of a call -/

omit [DecidableEq K] in
theorem told_settle (w : World K) (a : Address) (p : Permit) (action : Action Json (Failure K)) :
    (w.settle a p action).2.2 = w.passedOn a action := by
  unfold World.settle passedOn
  cases w.circuit? a with
  | none => rfl
  | some c => exact c.told_settle w.clock p Failure.kind action

omit [DecidableEq K] in
theorem services_settle (w : World K) (a : Address) (p : Permit)
    (action : Action Json (Failure K)) : (w.settle a p action).1.services = w.services := by
  unfold World.settle
  cases w.circuit? a with
  | none => rfl
  | some c => cases a <;> rfl

omit [DecidableEq K] in
theorem shows_passedOn (w : World K) (a : Address) (action : Action Json (Failure K)) :
    (w.passedOn a action).Shows true := by
  unfold passedOn
  cases w.circuit? a with
  | none => exact action.shows_result
  | some c => exact c.shows_passedOn Failure.kind action

omit [DecidableEq K] in
theorem mapError_eq_error_iff {ε ε' α : Type} {f : ε → ε'} {x : Except ε α} {y : ε'} :
    x.mapError f = .error y ↔ ∃ e, x = .error e ∧ y = f e := by
  cases x with
  | ok a => exact ⟨nofun, nofun⟩
  | error e =>
    refine ⟨fun h => ⟨e, rfl, (Except.error.inj h).symm⟩, ?_⟩
    rintro ⟨_, ⟨⟩, rfl⟩
    rfl

/-- A call by name is answered by the circuit that its name leads to. -/
theorem answer_enter (hctx : route.context? = some ctx) :
    (w.enter route).2.2 =
      ((w.resolved ctx).2.arrive w.clock).2.2.mapError fun e => w.gateway.rejection ctx e := by
  cases route with
  | direct a => cases hctx
  | gateway ctx' =>
    cases hctx
    rw [enter_gateway, answer_begun]
    rfl
  | service number ctx' inner =>
    cases hctx
    rw [enter_service, answer_begun]
    rfl

theorem shows_enter (h : w.enter route = (w₁, effects, .error result)) : result.Shows false := by
  have hanswer : (w.enter route).2.2 = .error result := by rw [h]
  cases hctx : route.context? with
  | some ctx =>
    rw [answer_enter hctx] at hanswer
    obtain ⟨e, -, rfl⟩ := mapError_eq_error_iff.1 hanswer
    exact (w.gateway.worded_rejection ctx e).shows
  | none =>
    cases route with
    | gateway ctx => cases hctx
    | service number ctx inner => cases hctx
    | direct a =>
      cases hc : w.circuit? a with
      | none =>
        rw [enter_direct_of_none hc] at hanswer
        cases hanswer
        exact .panicked _ false
      | some c =>
        rw [enter_direct_of_some hc, answer_begun] at hanswer
        obtain ⟨e, -, rfl⟩ := mapError_eq_error_iff.1 hanswer
        exact .rejected rfl

/-! ## Blocking calls -/

theorem blocking_ends_of_ok (henter : w.enter route = (w₁, effects, .ok p))
    (action : Action Json (Failure K)) (during : Option (List (Step K))) :
    (w.blocking route action during).2.2.outcome? =
        some ((w₁.steps (during.getD [])).1.passedOn route.address action, true) ∧
      (w.blocking route action during).2.2.inner = (w₁.steps (during.getD [])).2 := by
  rw [← told_settle _ _ p]
  cases during with
  | none =>
    unfold World.blocking
    rw [henter]
    exact ⟨rfl, rfl⟩
  | some during =>
    unfold World.blocking
    rw [henter]
    exact ⟨rfl, rfl⟩

theorem blocking_ends_of_error (henter : w.enter route = (w₁, effects, .error result))
    (action : Action Json (Failure K)) (during : Option (List (Step K))) :
    (w.blocking route action during).2.2.outcome? = some (result, false) ∧
      (w.blocking route action during).2.2.inner = [] := by
  cases during with
  | none =>
    unfold World.blocking
    rw [henter]
    exact ⟨rfl, rfl⟩
  | some during =>
    unfold World.blocking
    rw [henter]
    exact ⟨rfl, rfl⟩

/-! ## Polls -/

omit [DecidableEq K] in
theorem answer_proceed (w : World K) (id : String) (call : Call K) (p : Permit) :
    (w.proceed id call p).2.2 = w.progress call := by
  unfold World.proceed progress
  cases call.outcome with
  | none => rfl
  | some action =>
    exact congrArg (Progress.ended · true) (w.told_settle call.route.address p action)

omit [DecidableEq K] in
theorem services_proceed (w : World K) (id : String) (call : Call K) (p : Permit) :
    (w.proceed id call p).1.services = w.services := by
  unfold World.proceed
  cases call.outcome with
  | none => rfl
  | some action => exact w.services_settle call.route.address p action

omit [DecidableEq K] in
theorem get?_proceed (h : call.outcome = none) (w : World K) (id : String) (p : Permit) :
    (w.proceed id call p).1.calls.get? id = some { call with permit := some p } := by
  rw [proceed_of_pending h]
  exact Table.get?_insert_self ..

theorem proceeds_of_eq (hworld : (w.poll id call).1 = (w₁.proceed id call p).1)
    (hanswer : (w.poll id call).2.2 = (w₁.proceed id call p).2.2) : w.Proceeds w₁ id call p where
  answer := hanswer.trans (w₁.answer_proceed id call p)
  stays h := by
    rw [hworld]
    exact get?_proceed h w₁ id p
  services := by
    rw [hworld]
    exact w₁.services_proceed id call p

theorem proceeds_of_permit (h : call.permit = some p) : w.Proceeds w id call p := by
  have hpoll : w.poll id call = w.proceed id call p := by simp only [World.poll, h]
  exact proceeds_of_eq (congrArg Prod.fst hpoll) (congrArg (·.2.2) hpoll)

theorem proceeds_of_admitted (h : call.permit = none) (henter : (w.enter call.route).2.2 = .ok p) :
    w.Proceeds (w.enter call.route).1 id call p := by
  rcases hout : w.enter call.route with ⟨w₁, effects, answer⟩
  rw [hout] at henter
  cases henter
  refine proceeds_of_eq ?_ ?_
  · simp only [World.poll, h, hout]
  · simp only [World.poll, h, hout]

theorem poll_of_rejected (h : call.permit = none)
    (henter : w.enter call.route = (w₁, effects, .error result)) :
    w.poll id call = (w₁.forget id, effects, .ended result false) := by
  simp only [World.poll, h, henter]

/-! ## Answers that tell nothing of calls -/

omit [DecidableEq K] in
theorem plain_of_address? {t : Target} {answer : Answer K} (h : w.address? t = .error answer) :
    answer.Plain := by
  obtain ⟨name, rfl⟩ := unknown_of_address? h
  exact ⟨rfl, rfl⟩

omit [DecidableEq K] in
theorem plain_of_locate {t : Target} {answer : Answer K} (h : w.locate t = .error answer) :
    answer.Plain := by
  cases haddress : w.address? t with
  | error answer' =>
    have hanswer : answer' = answer := by
      cases t <;> simpa only [World.locate, haddress, Except.error.injEq] using h
    rw [← hanswer]
    exact plain_of_address? haddress
  | ok a =>
    cases hc : w.circuit? a with
    | none =>
      have hanswer : ∃ name, answer = .unknownCircuit name := by
        cases t with
        | named name | standalone name =>
          simp only [World.locate, haddress, hc, Except.error.injEq] at h
          exact ⟨name, h.symm⟩
      obtain ⟨name, rfl⟩ := hanswer
      exact ⟨rfl, rfl⟩
    | some c =>
      cases t <;> simp only [World.locate, haddress, hc, reduceCtorEq] at h

omit [DecidableEq K] in
theorem plain_of_service {answer : Answer K} (h : w.service id = .error answer) :
    answer.Plain := by
  unfold World.service at h
  cases hid : w.serviceIds.get? id with
  | none =>
    simp only [hid] at h
    cases h
    exact ⟨rfl, rfl⟩
  | some number =>
    cases hs : w.services[number]? with
    | none =>
      simp only [hid, hs] at h
      cases h
      exact ⟨rfl, rfl⟩
    | some s =>
      simp only [hid, hs] at h
      cases h

omit [DecidableEq K] in
theorem plain_of_route {origin : Origin K} {answer : Answer K}
    (h : w.route origin = .error answer) : answer.Plain := by
  cases origin with
  | gateway ctx => cases h
  | service sid =>
    rw [route_service] at h
    cases hs : w.service sid with
    | error answer' =>
      rw [hs] at h
      cases h
      exact plain_of_service hs
    | ok found =>
      rw [hs] at h
      cases h
  | direct t =>
    cases haddress : w.address? t with
    | error answer' =>
      simp only [World.route, haddress] at h
      cases h
      exact plain_of_address? haddress
    | ok a =>
      simp only [World.route, haddress] at h
      cases h

omit [DecidableEq K] in
theorem plain_run (command : CircuitCommand K) (c : Circuit K) (now : Instant) :
    (command.run c now).2.2.Plain := by
  cases command with
  | classify kinds =>
    unfold CircuitCommand.run
    dsimp only
    cases kinds.mapM c.classify <;> exact ⟨rfl, rfl⟩
  | _ => exact ⟨rfl, rfl⟩

/-- Commands that poll no call tell nothing of calls. -/
theorem plain_command {command : Command K} (h : command.polled? = none) (w : World K) :
    (w.command command).2.2.Plain := by
  cases command with
  | poll id => cases h
  | finish id outcome => cases h
  | start id origin outcome unpolled =>
    cases unpolled with
    | false => cases h
    | true =>
      show (w.startCall id origin outcome true).2.2.Plain
      unfold World.startCall
      cases hroute : w.route origin with
      | error answer => exact plain_of_route hroute
      | ok route => exact ⟨rfl, rfl⟩
  | advance span =>
    show (w.advance span).2.2.Plain
    unfold World.advance
    cases w.clock.after? span <;> exact ⟨rfl, rfl⟩
  | pollService id readiness =>
    show (w.pollService id readiness).2.2.Plain
    unfold World.pollService
    cases hs : w.service id with
    | error answer => exact plain_of_service hs
    | ok found => exact ⟨rfl, rfl⟩
  | countRequests id =>
    show (w.countRequests id).Plain
    unfold World.countRequests
    cases hs : w.service id with
    | error answer => exact plain_of_service hs
    | ok found => exact ⟨rfl, rfl⟩
  | get name =>
    show (w.get name).Plain
    unfold World.get
    cases w.gateway.registry.circuit? name <;> exact ⟨rfl, rfl⟩
  | isConfigured name =>
    show (w.isConfigured name).Plain
    unfold World.isConfigured
    cases w.gateway.registry.isConfigured? name <;> exact ⟨rfl, rfl⟩
  | bindPolicy name policy => cases policy <;> exact ⟨rfl, rfl⟩
  | makeCircuit id name policy => cases policy <;> exact ⟨rfl, rfl⟩
  | circuit t command =>
    show (w.commandCircuit t command).2.2.Plain
    unfold World.commandCircuit
    cases hl : w.locate t with
    | error answer => exact plain_of_locate hl
    | ok found => exact plain_run command found.2 w.clock
  | inspect shown =>
    cases shown with
    | registry => exact ⟨rfl, rfl⟩
    | gateway => exact ⟨rfl, rfl⟩
    | circuit t =>
      show (w.inspect (.circuit t)).Plain
      simp only [World.inspect]
      cases hl : w.locate t with
      | error answer => exact plain_of_locate hl
      | ok found => exact ⟨rfl, rfl⟩
  | _ => exact ⟨rfl, rfl⟩

/-! ## All reports -/

omit [DecidableEq K] in
theorem reveals_progress (w : World K) (call : Call K) :
    (Progress.answer (w.progress call)).Reveals := by
  intro result ran h
  unfold progress at h
  cases houtcome : call.outcome with
  | none =>
    rw [houtcome] at h
    cases h
  | some action =>
    rw [houtcome] at h
    cases h
    exact w.shows_passedOn call.route.address action

theorem reveals_poll (w : World K) (id : String) (call : Call K) :
    (Progress.answer (w.poll id call).2.2).Reveals := by
  cases hpermit : call.permit with
  | some p =>
    rw [(proceeds_of_permit hpermit).answer]
    exact w.reveals_progress call
  | none =>
    rcases henter : w.enter call.route with ⟨w₁, effects, answer⟩
    cases answer with
    | ok p =>
      have hanswer : (w.enter call.route).2.2 = .ok p := by rw [henter]
      rw [(proceeds_of_admitted hpermit hanswer).answer]
      exact reveals_progress _ call
    | error result =>
      rw [poll_of_rejected hpermit henter]
      rintro _ _ ⟨⟩
      exact shows_enter henter

omit [DecidableEq K] in
theorem inner_progress (progress : Progress K) : (Progress.answer progress).inner = [] := by
  cases progress <;> rfl

theorem reveals_pollCall (w : World K) (id : String)
    (outcome : Option (Action Json (Failure K))) :
    (w.pollCall id outcome).2.2.Reveals ∧ (w.pollCall id outcome).2.2.inner = [] := by
  unfold World.pollCall
  cases w.calls.get? id with
  | none => exact ⟨Answer.Plain.reveals ⟨rfl, rfl⟩, rfl⟩
  | some call => exact ⟨reveals_poll w id _, inner_progress _⟩

theorem reveals_command (w : World K) (command : Command K) :
    (w.command command).2.2.Reveals ∧ (w.command command).2.2.inner = [] := by
  cases h : command.polled? with
  | none => exact ⟨(plain_command h w).reveals, (plain_command h w).inner⟩
  | some id =>
    cases command with
    | poll id => exact w.reveals_pollCall id none
    | finish id outcome => exact w.reveals_pollCall id (some outcome)
    | start id origin outcome unpolled =>
      show (w.startCall id origin outcome unpolled).2.2.Reveals ∧
        (w.startCall id origin outcome unpolled).2.2.inner = []
      unfold World.startCall
      cases hroute : w.route origin with
      | error answer => exact ⟨(plain_of_route hroute).reveals, (plain_of_route hroute).inner⟩
      | ok route =>
        cases unpolled with
        | true => cases h
        | false => exact ⟨reveals_poll _ id { route, outcome }, inner_progress _⟩
    | _ => cases h

omit [DecidableEq K] in
theorem not_within_nil {r : Report (Answer K)} : ¬ Report.Within r [] := nofun

mutual

theorem step_reveals (w : World K) (step : Step K) :
    (w.step step).2.2.Reveals ∧
      ∀ r, Report.Within r (w.step step).2.2.inner → r.answer.Reveals := by
  cases step with
  | command c =>
    obtain ⟨hreveals, hinner⟩ := w.reveals_command c
    refine ⟨hreveals, fun r hr => ?_⟩
    change Report.Within r (w.command c).2.2.inner at hr
    rw [hinner] at hr
    exact absurd hr not_within_nil
  | call ctx action during => exact blocking_reveals w (.gateway ctx) action during
  | invoke t action during =>
    unfold World.step
    cases haddress : w.address? t with
    | error answer =>
      have hplain := plain_of_address? haddress
      refine ⟨hplain.reveals, fun r hr => ?_⟩
      rw [hplain.inner] at hr
      exact absurd hr not_within_nil
    | ok a => exact blocking_reveals w (.direct a) action during

theorem blocking_reveals (w : World K) (route : Route K) (action : Action Json (Failure K))
    (during : Option (List (Step K))) :
    (w.blocking route action during).2.2.Reveals ∧
      ∀ r, Report.Within r (w.blocking route action during).2.2.inner → r.answer.Reveals := by
  rcases henter : w.enter route with ⟨w₁, effects, answer⟩
  cases answer with
  | error result =>
    obtain ⟨houtcome, hinner⟩ := blocking_ends_of_error henter action during
    refine ⟨fun result' ran h => ?_, fun r hr => ?_⟩
    · rw [houtcome] at h
      cases h
      exact shows_enter henter
    · rw [hinner] at hr
      exact absurd hr not_within_nil
  | ok p =>
    obtain ⟨houtcome, hinner⟩ := blocking_ends_of_ok henter action during
    refine ⟨fun result' ran h => ?_, fun r hr => ?_⟩
    · rw [houtcome] at h
      cases h
      exact shows_passedOn _ route.address action
    · rw [hinner] at hr
      cases during with
      | none => exact absurd hr not_within_nil
      | some during => exact steps_reveal w₁ during r hr

theorem steps_reveal (w : World K) (steps : List (Step K)) :
    ∀ r, Report.Within r (w.steps steps).2 → r.answer.Reveals := by
  cases steps with
  | nil => exact fun r hr => absurd hr not_within_nil
  | cons step steps =>
    intro r hr
    unfold World.steps at hr
    cases hr with
    | head _ => exact (step_reveals w step).1
    | tail _ hr => exact steps_reveal (w.step step).1 steps r hr
    | inside _ hr => exact (step_reveals w step).2 r hr

end

end World

end Breaker
