import Breaker.Proofs.Session.Beside

/-!
# Three ways to make one call

A call is made blockingly, or started and polled, or made as a request to a service. `World.drive`
makes one of the latter two kinds as a caller does who polls it, has some steps take place, and
polls it again when its action has ended. All ways lead to the same (`calls_agree`): to be in flight
while the steps take place instead of waiting for them makes no difference to anything else, and a
request leaves its mark on the service alone.
-/

namespace Breaker

variable {K : Type}

/-- What the caller of a call with steps is told, and what is heard of the steps if its action
ran. -/
def Answer.told? : Answer K →
    Option (CallResult Json (Failure K) × Option (List (List Record × List LogEntry × Table State)))
  | .endedDuring result reports => some (result, reports.map (·.map Report.heard))
  | _ => none

namespace World

/-! ## Up to requests -/

/-- The worlds differ in nothing but the requests of services, and not in these if `exact`. -/
structure Alike (exact : Bool) (w w' : World K) : Prop where
  rest : w' = { w with services := w'.services }
  services : List.Forall₂ (Service.Alike exact) w.services w'.services

/-- Both calls ended in the same way and led to the same, but for the requests of services. -/
structure SameCall (exact : Bool) (out out' : World K × List Effect × Answer K) : Prop where
  world : out.1.Alike exact out'.1
  effects : out'.2.1 = out.2.1
  told : ∃ t, out.2.2.told? = some t ∧ out'.2.2.told? = some t
  answer : exact = true → out'.2.2 = out.2.2

variable {exact : Bool} {w w' : World K} {id : String} {call : Call K}

theorem Alike.refl (exact : Bool) (w : World K) : w.Alike exact w :=
  ⟨rfl, Service.alike_refl exact _⟩

theorem Alike.eq (h : w.Alike true w') : w' = w := by
  rw [h.rest, Service.eq_of_alike h.services]

theorem SameCall.eq {out out' : World K × List Effect × Answer K} (h : SameCall true out out') :
    out' = out :=
  Prod.ext h.world.eq (Prod.ext h.effects (h.answer rfl))

/-- In alike worlds, a call may be in flight in one of them. -/
theorem Alike.beside (h : w.Alike exact w') (hfree : w.calls.get? id = none) (call : Call K) :
    w.Beside exact id call { w' with calls := w'.calls.insert id call } := by
  rw [h.rest]
  exact .intro _ h.services hfree

/-- When it is forgotten, the worlds are alike again. -/
theorem Beside.alike (h : w.Beside exact id call w') : w.Alike exact (w'.forget id) := by
  obtain ⟨services, alike, free⟩ := h
  refine ⟨?_, alike⟩
  show ({ w with calls := (w.calls.insert id call).erase id, services } : World K) =
    { w with services }
  rw [Table.erase_insert, Table.erase_of_get?_eq_none free]

variable [DecidableEq K] {origin : Origin K} {route route₀ : Route K} {effects : List Effect}
  {result : CallResult Json (Failure K)} {w₀ w₁ : World K} {p : Permit}
  {action : Action Json (Failure K)} {during : List (Step K)}

/-! ## Driving a call -/

/-- The call is started and polled once; if it is pending then, the steps take place and it is
polled again with its outcome. -/
def drive (w : World K) (id : String) (origin : Origin K) (action : Action Json (Failure K))
    (during : List (Step K)) : World K × List Effect × Answer K :=
  match w.command (.start id origin none false) with
  | (w, effects, .pending _) =>
    let (w, reports) := w.steps during
    match w.command (.finish id action) with
    | (w, more, .ended result _) => (w, effects ++ more, .endedDuring result (some reports))
    | (w, more, answer) => (w, effects ++ more, answer)
  | (w, effects, .ended result _) => (w, effects, .endedDuring result none)
  | (w, effects, answer) => (w, effects, answer)

omit [DecidableEq K] in
theorem forget_of_free (hfree : w.calls.get? id = none) : w.forget id = w := by
  show ({ w with calls := w.calls.erase id } : World K) = w
  rw [Table.erase_of_get?_eq_none hfree]

theorem start_of_route (hroute : w.route origin = .ok route) (hfree : w.calls.get? id = none) :
    w.command (.start id origin none false) =
      ((w.poll id { route }).1, (w.poll id { route }).2.1,
        Progress.answer (w.poll id { route }).2.2) := by
  show w.startCall id origin none false = _
  unfold World.startCall World.dropCall
  rw [hroute, hfree]
  rfl

theorem start_of_error (hroute : w.route origin = .ok route) (hfree : w.calls.get? id = none)
    (henter : w.enter route = (w₁, effects, .error result)) :
    w.command (.start id origin none false) = (w₁, effects, .ended result false) := by
  have hcalls := w.calls_enter route
  rw [henter] at hcalls
  have hforget : w₁.forget id = w₁ := forget_of_free (by rw [hcalls, hfree])
  rw [start_of_route hroute hfree]
  simp only [World.poll, henter, hforget]
  rfl

theorem start_of_ok (hroute : w.route origin = .ok route) (hfree : w.calls.get? id = none)
    (henter : w.enter route = (w₁, effects, .ok p)) :
    w.command (.start id origin none false) =
      ({ w₁ with calls := w₁.calls.insert id { route, permit := some p } }, effects,
        .pending true) := by
  rw [start_of_route hroute hfree]
  simp only [World.poll, henter, World.proceed, List.append_nil]
  rfl

theorem finish_of_running (hcall : w.calls.get? id = some { route, permit := some p }) :
    w.command (.finish id action) =
      ((w.settle route.address p action).1.forget id, (w.settle route.address p action).2.1,
        .ended (w.settle route.address p action).2.2 true) := by
  show w.pollCall id (some action) = _
  unfold World.pollCall
  rw [hcall]
  rfl

theorem drive_of_error (hroute : w.route origin = .ok route) (hfree : w.calls.get? id = none)
    (henter : w.enter route = (w₁, effects, .error result)) :
    w.drive id origin action during = (w₁, effects, .endedDuring result none) := by
  simp only [drive, start_of_error hroute hfree henter]

theorem blocking_of_error (henter : w.enter route = (w₁, effects, .error result)) :
    w.blocking route action (some during) = (w₁, effects, .endedDuring result none) := by
  unfold World.blocking
  rw [henter]

/-- A call that is in flight during the steps is the same as one that waits for them. -/
theorem sameCall_of_ok (hroute : w.route origin = .ok route) (hfree : w.calls.get? id = none)
    (haddress : route.address = route₀.address) (henter₀ : w.enter route₀ = (w₀, effects, .ok p))
    (henter : w.enter route = (w₁, effects, .ok p)) (halike : w₀.Alike exact w₁)
    (hspares : Step.sparesAll id during = true) :
    SameCall exact (w.blocking route₀ action (some during)) (w.drive id origin action during) := by
  have hcalls := w.calls_enter route₀
  rw [henter₀] at hcalls
  have hbeside := halike.beside (by rw [hcalls, hfree]) { route, permit := some p }
  have hsteps := hbeside.steps during hspares
  have hcall := congrArg (·.get? id) hsteps.world.calls
  simp only [Table.get?_insert_self] at hcall
  have hsettle := hsteps.world.settle route₀.address p action
  have hanswer := hsettle.answer
  unfold World.blocking drive
  simp only [henter₀, start_of_ok hroute hfree henter, finish_of_running hcall, haddress]
  refine ⟨hsettle.world.alike, congrArg (effects ++ ·) hsettle.effects, ?_, fun hexact => ?_⟩
  · refine ⟨_, rfl, ?_⟩
    simp only [Answer.told?, Option.map_some, hanswer, hsteps.heard]
  · simp only [hanswer, hsteps.reports hexact]

/-- So to poll a call is the same as to make it blockingly. -/
theorem drive_eq_blocking (hroute : w.route origin = .ok route) (hfree : w.calls.get? id = none)
    (hspares : Step.sparesAll id during = true) :
    w.drive id origin action during = w.blocking route action (some during) := by
  rcases henter : w.enter route with ⟨w₁, effects, answer⟩
  cases answer with
  | error result => rw [drive_of_error hroute hfree henter, blocking_of_error henter]
  | ok p => exact (sameCall_of_ok hroute hfree rfl henter henter (.refl true w₁) hspares).eq

/-! ## Services -/

variable {ctx : CallContext K} {sid : String}

theorem enter_eq_enterGateway (w : World K) (ctx : CallContext K) :
    w.enter (.gateway ctx) = w.enterGateway ctx := by
  rw [enter_gateway]
  rcases w.enterGateway ctx with ⟨w', effects, answer⟩
  cases answer <;> rfl

theorem enter_service_of_error (h : w.enter (.gateway ctx) = (w₁, effects, .error result))
    (number : Nat) (inner : Instance) :
    w.enter (.service number ctx inner) = (w₁, effects, .error result) := by
  rw [enter_service, ← enter_eq_enterGateway, h]
  rfl

theorem enter_service_of_ok (h : w.enter (.gateway ctx) = (w₁, effects, .ok p)) (number : Nat)
    (inner : Instance) :
    w.enter (.service number ctx inner) =
      ({ w₁ with services := w₁.services.modify number (·.request inner) }, effects, .ok p) := by
  rw [enter_service, ← enter_eq_enterGateway, h]
  rfl

theorem services_of_error (h : w.enter (.gateway ctx) = (w₁, effects, .error result)) :
    w₁.services = w.services := by
  rw [enter_eq_enterGateway] at h
  exact (congrArg (·.1.services) h).symm

/-- Under the identifier there is a service that makes this kind of calls. -/
def Serves (w : World K) (sid : String) (ctx : CallContext K) : Prop :=
  ∃ number s, w.service sid = .ok (number, s) ∧ s.name = ctx.name ∧ s.rule = ctx.rule

omit [DecidableEq K] in
theorem Serves.exists_route (h : w.Serves sid ctx) :
    ∃ number inner, w.route (.service sid) = .ok (.service number ctx inner) := by
  obtain ⟨number, s, hs, hname, hrule⟩ := h
  refine ⟨number, s.instanceForRequest, ?_⟩
  rw [route_service, hs]
  simp only [Except.map, hname, hrule]

theorem sameCall_of_serves (h : w.Serves sid ctx) (hfree : w.calls.get? id = none)
    (hspares : Step.sparesAll id during = true) :
    SameCall false (w.step (.call ctx action (some during)))
      (w.drive id (.service sid) action during) := by
  obtain ⟨number, inner, hroute⟩ := h.exists_route
  show SameCall false (w.blocking (.gateway ctx) action (some during)) _
  rcases henter : w.enter (.gateway ctx) with ⟨w₁, effects, answer⟩
  cases answer with
  | error result =>
    rw [drive_of_error hroute hfree (enter_service_of_error henter number inner),
      blocking_of_error henter]
    exact ⟨.refl false w₁, rfl, ⟨_, rfl, rfl⟩, fun _ => rfl⟩
  | ok p =>
    have halike : w₁.Alike false
        { w₁ with services := w₁.services.modify number (·.request inner) } :=
      ⟨rfl, Service.alike_modify_self _ number inner⟩
    exact sameCall_of_ok hroute hfree rfl henter (enter_service_of_ok henter number inner) halike
      hspares

/-! ## All ways -/

/-- To call by a name, or a circuit itself, comes to the same in all ways. A request is seen only by
steps that count requests. -/
structure WaysAgree (w : World K) (id : String) (ctx : CallContext K)
    (action : Action Json (Failure K)) (during : List (Step K)) : Prop where
  polled : w.drive id (.gateway ctx) action during = w.step (.call ctx action (some during))
  requested : ∀ sid, w.Serves sid ctx →
    SameCall false (w.step (.call ctx action (some during)))
      (w.drive id (.service sid) action during)
  /-- A call that is rejected runs neither its action nor the steps, whichever way it is made. -/
  rejected : ∀ w₁ effects result, w.enter (.gateway ctx) = (w₁, effects, .error result) →
    w.step (.call ctx action (some during)) = (w₁, effects, .endedDuring result none) ∧
      w.drive id (.gateway ctx) action during = (w₁, effects, .endedDuring result none) ∧
      (∀ sid, w.Serves sid ctx →
        w.drive id (.service sid) action during = (w₁, effects, .endedDuring result none)) ∧
      w₁.services = w.services
  invoked : ∀ t, w.drive id (.direct t) action during = w.step (.invoke t action (some during))
  refused : ∀ t a w₁ effects result, w.address? t = .ok a →
    w.enter (.direct a) = (w₁, effects, .error result) →
      w.step (.invoke t action (some during)) = (w₁, effects, .endedDuring result none) ∧
        w.drive id (.direct t) action during = (w₁, effects, .endedDuring result none)

omit [DecidableEq K] in
theorem unknown_of_address? {t : Target} {answer : Answer K} (h : w.address? t = .error answer) :
    ∃ name, answer = .unknownCircuit name := by
  cases t with
  | named name =>
    cases hknown : w.gateway.registry.contains name with
    | true => simp only [World.address?, hknown, ↓reduceIte, reduceCtorEq] at h
    | false =>
      simp only [World.address?, hknown, Bool.false_eq_true, ↓reduceIte, Except.error.injEq] at h
      exact ⟨name, h.symm⟩
  | standalone sid =>
    cases hid : w.standaloneIds.get? sid with
    | some number => simp only [World.address?, hid, reduceCtorEq] at h
    | none =>
      simp only [World.address?, hid, Except.error.injEq] at h
      exact ⟨sid, h.symm⟩

theorem drive_direct (hfree : w.calls.get? id = none) (hspares : Step.sparesAll id during = true)
    (t : Target) :
    w.drive id (.direct t) action during = w.step (.invoke t action (some during)) := by
  unfold World.step
  cases ha : w.address? t with
  | ok a =>
    have hroute : w.route (.direct t) = .ok (.direct a) := congrArg (Except.map Route.direct) ha
    exact drive_eq_blocking hroute hfree hspares
  | error answer =>
    obtain ⟨name, rfl⟩ := unknown_of_address? ha
    have hroute : w.route (.direct t) = .error (.unknownCircuit name) :=
      congrArg (Except.map Route.direct) ha
    have hstart : w.command (.start id (.direct t) none false) = (w, [], .unknownCircuit name) := by
      show w.startCall id (.direct t) none false = _
      unfold World.startCall
      rw [hroute]
    simp only [drive, hstart]

/-- **Blocking calls, polled calls and requests to services are the same machine**, whatever takes
place while the action runs, if only it leaves the call itself alone. -/
theorem calls_agree (w : World K) (id : String) (ctx : CallContext K)
    (action : Action Json (Failure K)) (during : List (Step K)) (hfree : w.calls.get? id = none)
    (hspares : Step.sparesAll id during = true) : w.WaysAgree id ctx action during where
  polled := drive_eq_blocking rfl hfree hspares
  requested sid h := sameCall_of_serves h hfree hspares
  rejected w₁ effects result henter := by
    refine ⟨blocking_of_error henter, drive_of_error rfl hfree henter, fun sid h => ?_,
      services_of_error henter⟩
    obtain ⟨number, inner, hroute⟩ := h.exists_route
    exact drive_of_error hroute hfree (enter_service_of_error henter number inner)
  invoked := drive_direct hfree hspares
  refused t a w₁ effects result ha henter := by
    have hinvoke : w.step (.invoke t action (some during)) =
        (w₁, effects, .endedDuring result none) := by
      unfold World.step
      rw [ha]
      exact blocking_of_error henter
    exact ⟨hinvoke, (drive_direct hfree hspares t).trans hinvoke⟩

/-- A world with one service. -/
def served : World Unit :=
  (({ hierarchy := { parent := fun _ => none, label := fun _ => "" } } : World Unit).command
    (.makeService "orders" ⟨"db", none⟩)).1

/-- The circuit is opened, and one more call is made. -/
def upheaval : List (Step Unit) :=
  [.command (.circuit (.named "db") .forceOpen), .call ⟨"db", none⟩ (.panic ⟨"late"⟩) none]

/-- The circuit of the call is opened while its action runs, which panics, so a further one is
rejected. -/
theorem calls_agree_upheaval :
    served.WaysAgree "c" ⟨"db", none⟩ (.panic ⟨"boom"⟩) upheaval ∧
      served.Serves "orders" ⟨"db", none⟩ ∧
      ((served.step (.call ⟨"db", none⟩ (.panic ⟨"boom"⟩) (some upheaval))).1.circuit?
        (.named "db")).map Circuit.isOpen = some true := by
  have hagree := calls_agree served "c" ⟨"db", none⟩ (.panic ⟨"boom"⟩) upheaval rfl rfl
  exact ⟨hagree, ⟨0, _, rfl, rfl, rfl⟩, rfl⟩

end World

end Breaker
