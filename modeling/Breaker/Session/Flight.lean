import Breaker.Session.World

/-!
# Calls in flight

A call does nothing until it is first polled: then it finds its circuit, asks
for a permit, and starts its action if it gets one. It ends when its action has
ended, and is gone after that. A call made blockingly goes through the same two
halves, `World.enter` and `World.settle`, at one stretch.
-/

namespace Breaker

/-- How far a call has come. -/
inductive Progress (K : Type) where
  /-- Not ended; says whether its action has been started. -/
  | pending (ran : Bool)
  | ended (result : CallResult Json (Failure K)) (ran : Bool)

namespace World

variable {K : Type} [DecidableEq K]

/-- Asks for a permit through the gateway. -/
def enterGateway (w : World K) (ctx : CallContext K) :
    World K × List Effect × Except (CallResult Json (Failure K)) Permit :=
  let (g, effects, answer) := w.gateway.arrive w.hierarchy ctx w.clock
  (({ w with gateway := g }).note effects, effects,
    answer.mapError fun e => w.gateway.rejection ctx e)

/-- Starts the action of a call that got its permit. -/
def begin (w : World K) : Route K → World K
  | .service number _ inner =>
    { w with services := w.services.modify number fun s => s.request inner }
  | _ => w

/-- The first half of a call: a permit and a started action, or what the rejected caller gets. -/
def enter (w : World K) (route : Route K) :
    World K × List Effect × Except (CallResult Json (Failure K)) Permit :=
  let (w, effects, answer) := match route with
    | .gateway ctx => w.enterGateway ctx
    | .service _ ctx _ => w.enterGateway ctx
    | .direct a =>
      match w.circuit? a with
      | none => (w, [], .error (.panicked ⟨"no such circuit"⟩))
      | some c =>
        let (w, effects, answer) := w.onCircuit a c Circuit.arrive
        (w, effects, answer.mapError fun e => .error (.rejected e))
  match answer with
  | .ok p => (w.begin route, effects, .ok p)
  | .error result => (w, effects, .error result)

/-- The second half of a call: its action has ended. -/
def settle (w : World K) (a : Address) (p : Permit) (action : Action Json (Failure K)) :
    World K × List Effect × CallResult Json (Failure K) :=
  match w.circuit? a with
  | none => (w, [], action.result)
  | some c => w.onCircuit a c fun c now => c.settle now p Failure.kind action

def forget (w : World K) (id : String) : World K := { w with calls := w.calls.erase id }

/-- Takes a running call as far as it goes. -/
def proceed (w : World K) (id : String) (call : Call K) (p : Permit) :
    World K × List Effect × Progress K :=
  match call.outcome with
  | none =>
    ({ w with calls := w.calls.insert id { call with permit := some p } }, [], .pending true)
  | some action =>
    let (w, effects, result) := w.settle call.route.address p action
    (w.forget id, effects, .ended result true)

def poll (w : World K) (id : String) (call : Call K) : World K × List Effect × Progress K :=
  match call.permit with
  | some p => w.proceed id call p
  | none =>
    match w.enter call.route with
    | (w, effects, .error result) => (w.forget id, effects, .ended result false)
    | (w, effects, .ok p) =>
      let (w, more, progress) := w.proceed id call p
      (w, effects ++ more, progress)

/-- Drops a call, and with it the permit it may hold. -/
def drop (w : World K) (id : String) (call : Call K) : World K × List Effect :=
  let w := w.forget id
  match call.permit, w.circuit? call.route.address with
  | some p, some c =>
    let (w, effects, ()) := w.onCircuit call.route.address c fun c now =>
      let (c, effects) := c.abandon now p
      (c, effects, ())
    (w, effects)
  | _, _ => (w, [])

end World

end Breaker
