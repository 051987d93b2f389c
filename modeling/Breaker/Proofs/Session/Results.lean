import Breaker.Proofs.Registry.Local
import Breaker.Proofs.Session.Act
import Breaker.Proofs.Session.Mappers
import Breaker.Proofs.Session.Reports
import Breaker.Session.Mapper

/-!
# Results of calls by name

If the circuit admits a call, its action runs once and the caller gets what the action ended with
(`Carries`). If it does not, the action never runs and the caller gets the rejection in the words of
the mapper that was set last (`Declines`). So every result that is reported shows whether the action
ran, and mappers have a say in nothing else (`ResultLaw`).
-/

namespace Breaker

variable {K : Type}

namespace World

variable [DecidableEq K]

/-- A call is made that is admitted. -/
structure Carries (w : World K) (ctx : CallContext K) (p : Permit) : Prop where
  /-- The action runs once, with all that takes place meanwhile. -/
  world : ∀ action during, (w.step (.call ctx action during)).1 =
    w.play (.enter (.gateway ctx) :: ((w.enter (.gateway ctx)).1.acts (during.getD []) ++
      [.settle (.named ctx.name) p action]))
  outcome : ∀ action during, (w.step (.call ctx action during)).2.2.outcome? =
    some (((w.enter (.gateway ctx)).1.steps (during.getD [])).1.passedOn (.named ctx.name) action,
      true)
  inner : ∀ action during, (w.step (.call ctx action during)).2.2.inner =
    ((w.enter (.gateway ctx)).1.steps (during.getD [])).2
  /-- A call that is polled for the first time gets its permit, and its action is started. -/
  polled : ∀ id call, call.route.context? = some ctx → call.permit = none →
    w.Proceeds (w.enter call.route).1 id call p
  /-- To start the action of a request is to pass the request on to the inner service. -/
  request : ∀ number inner, (w.enter (.service number ctx inner)).1 =
    { (w.enter (.gateway ctx)).1 with services := w.services.modify number (·.request inner) }

/-- A call is made that is rejected, with `mapper` in charge of the words. -/
structure Declines (w : World K) (mapper : Option (ErrorMapper K)) (ctx : CallContext K)
    (e : OpenError) (result : CallResult Json (Failure K)) : Prop where
  error : e = ⟨ctx.name, (w.resolved ctx).2.left w.clock⟩
  worded : Worded mapper ctx e result
  /-- The action never runs, and nothing takes place but the rejection. -/
  world : ∀ action during, (w.step (.call ctx action during)).1 = w.play [.enter (.gateway ctx)]
  outcome : ∀ action during, (w.step (.call ctx action during)).2.2.outcome? = some (result, false)
  inner : ∀ action during, (w.step (.call ctx action during)).2.2.inner = []
  polled : ∀ id call, call.route.context? = some ctx → call.permit = none →
    (w.poll id call).2.2 = .ended result false ∧ (w.poll id call).1.services = w.services

/-- What a gateway with this mapper keeps to in the world. -/
structure ResultLaw (w : World K) (mapper : Option (ErrorMapper K)) : Prop where
  admitted : ∀ ctx p, ((w.resolved ctx).2.arrive w.clock).2.2 = .ok p → w.Carries ctx p
  rejected : ∀ ctx e, ((w.resolved ctx).2.arrive w.clock).2.2 = .error e →
    ∃ result, w.Declines mapper ctx e result
  /-- No poll starts the action of a call again. -/
  running : ∀ id call p, call.permit = some p → w.Proceeds w id call p
  reveals : ∀ steps r, Report.Within r (w.steps steps).2 → r.answer.Reveals
  remapped : ∀ m steps, ParallelAll mapper m (w.steps steps) ((w.mappedBy m).steps steps)

variable {w : World K} {a : Address} {id : String} {call : Call K} {p : Permit} {route : Route K}
  {ctx : CallContext K} {e : OpenError} {effects : List Effect} {w₁ : World K}
  {result : CallResult Json (Failure K)}

/-! ## Blocking calls -/

theorem blockingActs_of_ok (henter : w.enter route = (w₁, effects, .ok p))
    (action : Action Json (Failure K)) (during : Option (List (Step K))) :
    w.blockingActs route action during =
      .enter route :: (w₁.acts (during.getD []) ++ [.settle route.address p action]) := by
  cases during with
  | none =>
    unfold blockingActs
    rw [henter]
    rfl
  | some during =>
    unfold blockingActs
    rw [henter]
    rfl

theorem blockingActs_of_error (henter : w.enter route = (w₁, effects, .error result))
    (action : Action Json (Failure K)) (during : Option (List (Step K))) :
    w.blockingActs route action during = [.enter route] := by
  cases during with
  | none =>
    unfold blockingActs
    rw [henter]
  | some during =>
    unfold blockingActs
    rw [henter]

/-! ## Calls by name -/

theorem services_enterGateway (w : World K) (ctx : CallContext K) :
    (w.enterGateway ctx).1.services = w.services := rfl

theorem services_of_rejected (hctx : route.context? = some ctx)
    (h : (w.enter route).2.2 = .error result) : (w.enter route).1.services = w.services := by
  cases route with
  | direct a => cases hctx
  | gateway ctx' =>
    rw [enter_eq_enterGateway]
    rfl
  | service number ctx' inner =>
    rw [enter_service, answer_begun] at h
    rcases hout : w.enterGateway ctx' with ⟨w₁, effects, answer⟩
    have hservices := w.services_enterGateway ctx'
    rw [hout] at h hservices
    cases h
    rw [enter_service, hout]
    exact hservices

theorem carries_of_arrive (h : ((w.resolved ctx).2.arrive w.clock).2.2 = .ok p) :
    w.Carries ctx p := by
  have hpermit : ∀ route : Route K, route.context? = some ctx → (w.enter route).2.2 = .ok p := by
    intro route hctx
    rw [answer_enter hctx, h]
    rfl
  have hgateway := hpermit (.gateway ctx) rfl
  have hservices := w.services_enterGateway ctx
  rw [← enter_eq_enterGateway] at hservices
  rcases henter : w.enter (.gateway ctx) with ⟨w₁, effects, answer⟩
  rw [henter] at hgateway hservices
  cases hgateway
  refine ⟨fun action during => ?_, fun action during => ?_, fun action during => ?_,
    fun id call hctx hnone => ?_, fun number inner => ?_⟩
  · rw [henter, step_eq_play]
    exact congrArg w.play (blockingActs_of_ok henter action during)
  · rw [henter]
    exact (blocking_ends_of_ok henter action during).1
  · rw [henter]
    exact (blocking_ends_of_ok henter action during).2
  · exact proceeds_of_admitted hnone (hpermit call.route hctx)
  · rw [enter_service_of_ok henter, henter, ← hservices]

theorem declines_of_arrive (hnamed : w.WellNamed)
    (h : ((w.resolved ctx).2.arrive w.clock).2.2 = .error e) :
    w.Declines w.gateway.mapper ctx e (w.gateway.rejection ctx e) := by
  have hrejected : ∀ route : Route K, route.context? = some ctx →
      (w.enter route).2.2 = .error (w.gateway.rejection ctx e) := by
    intro route hctx
    rw [answer_enter hctx, h]
    rfl
  have hname : (w.resolved ctx).2.name = ctx.name :=
    Registry.name_resolve (hnamed ctx.name) (ctx.rule.map (.ofRule w.hierarchy)) w.clock
  have hgateway := hrejected (.gateway ctx) rfl
  rcases henter : w.enter (.gateway ctx) with ⟨w₁, effects, answer⟩
  rw [henter] at hgateway
  cases hgateway
  refine ⟨?_, w.gateway.worded_rejection ctx e, fun action during => ?_, fun action during => ?_,
    fun action during => ?_, fun id call hctx hnone => ?_⟩
  · rw [← hname]
    exact Circuit.error_arrive h
  · rw [step_eq_play]
    exact congrArg w.play (blockingActs_of_error henter action during)
  · exact (blocking_ends_of_error henter action during).1
  · exact (blocking_ends_of_error henter action during).2
  · have hroute := hrejected call.route hctx
    have hservices := services_of_rejected hctx hroute
    rcases hout : w.enter call.route with ⟨w₂, effects', answer⟩
    rw [hout] at hroute hservices
    cases hroute
    rw [poll_of_rejected hnone hout]
    exact ⟨rfl, hservices⟩

/-! ## Sessions -/

theorem perform_mappedBy (w : World K) (m : Option (ErrorMapper K)) (act : Act K) :
    (w.mappedBy m).perform act = (w.perform act).mappedBy m := by
  have hsustains := sustains_mappedBy w.gateway.mapper m
  cases act with
  | command c => exact (hsustains.command ⟨rfl, rfl⟩ c trivial).world.2
  | enter route => exact (hsustains.enter ⟨rfl, rfl⟩ route).world.2
  | settle a p action => exact (hsustains.settle ⟨rfl, rfl⟩ a p action).world.2

theorem play_mappedBy (w : World K) (m : Option (ErrorMapper K)) (acts : List (Act K)) :
    (w.mappedBy m).play acts = (w.play acts).mappedBy m := by
  induction acts generalizing w with
  | nil => rfl
  | cons act acts ih => rw [play_cons, play_cons, perform_mappedBy, ih]

/-- Nothing that takes place sets a mapper. -/
theorem mapper_play (w : World K) (acts : List (Act K)) :
    (w.play acts).gateway.mapper = w.gateway.mapper := by
  have hplay := w.play_mappedBy w.gateway.mapper acts
  rw [mappedBy_self] at hplay
  rw [hplay]
  rfl

theorem resultLaw_of_wellNamed (h : w.WellNamed) : w.ResultLaw w.gateway.mapper where
  admitted _ _ := carries_of_arrive
  rejected _ _ harrive := ⟨_, declines_of_arrive h harrive⟩
  running _ _ _ := proceeds_of_permit
  reveals := w.steps_reveal
  remapped := w.parallel_steps

/-- **Results of calls through the gateway**, in whatever state. If the circuit admits the call, the
action runs once and the caller gets what it ended with, unless the classifier panics on that; so it
is for errors of any type, also if they tell of the rejection of another call. If the circuit
rejects the call, the action never runs and the caller gets the rejection in the words of the last
mapper that was set. Sessions with other mappers differ in these words and in nothing else. -/
theorem gateway_result_law (s : Setup K) (acts : List (Act K)) :
    (s.world.1.play acts).ResultLaw s.mappers.getLast? ∧
      (∀ mappers steps, ParallelAll s.mappers.getLast? mappers.getLast?
        ((s.world.1.play acts).steps steps)
        ((({ s with mappers } : Setup K).world.1.play acts).steps steps)) ∧
      ∀ (V E : Type) (c : Circuit K) (now : Instant) (p : Permit),
        (∀ (kindOf : E → K) (action : Action V E),
          (c.settle now p kindOf action).2.2 = c.passedOn kindOf action) ∧
        ∀ (kindOf : CallError E → K) (e : CallError E),
          c.panic? kindOf (.error e : Action V (CallError E)) = none →
            (c.settle now p kindOf (.error e : Action V (CallError E))).2.2 = .error (.inner e) ∧
              (CallError.inner e).isCircuitOpen = false := by
  have hlaw : (s.world.1.play acts).ResultLaw s.mappers.getLast? := by
    have hmapper : (s.world.1.play acts).gateway.mapper = s.mappers.getLast? :=
      s.world.1.mapper_play acts
    rw [← hmapper]
    exact resultLaw_of_wellNamed ((wellNamed_start s).play acts)
  refine ⟨hlaw, fun mappers steps => ?_, fun V E c now p => ⟨c.told_settle now p, ?_⟩⟩
  · have hother : ({ s with mappers } : Setup K).world.1.play acts =
        (s.world.1.play acts).mappedBy mappers.getLast? :=
      s.world.1.play_mappedBy mappers.getLast? acts
    rw [hother]
    exact hlaw.remapped mappers.getLast? steps
  · intro kindOf e hpanic
    rw [c.told_settle, Circuit.passedOn_of_none hpanic]
    exact ⟨rfl, rfl⟩

/-- The text of the result of a call that has ended, if it is an error, and whether the action
ran. -/
def ending? (answer : Answer Unit) : Option (Option String × Bool) :=
  answer.outcome?.map fun
    | (.error e, ran) => (some (e.message Failure.message), ran)
    | (_, ran) => (none, ran)

/-- A call is rejected inside the action of another call, which is admitted; of two mappers the
first would panic. -/
theorem gateway_result_law_nested :
    let s : Setup Unit :=
      { hierarchy := { parent := fun _ => none, label := fun _ => "" }
        mappers := [Mapper.panicking, fun ctx e => .ok (ctx.name ++ e.circuit)] }
    let acts : List (Act Unit) :=
      [.command (.getOrCreate "db"), .command (.circuit (.named "db") .forceOpen)]
    let w := s.world.1.play acts
    let out := w.step (.call ⟨"web", none⟩ (.ok .null) (some [.call ⟨"db", none⟩ (.ok .null) none]))
    w.ResultLaw s.mappers.getLast? ∧ ending? out.2.2 = some (none, true) ∧
      out.2.2.inner.map (ending? ·.answer) = [some (some "dbdb", false)] := by
  intro s acts w out
  exact ⟨(gateway_result_law s acts).1, by decide +kernel, by decide +kernel⟩

end World

end Breaker
