import Breaker.Session.Flight
import Breaker.Session.Step

/-!
# Commands

What each command does to the world and what it answers.
-/

namespace Breaker

namespace CircuitCommand

variable {K : Type}

def run (command : CircuitCommand K) (c : Circuit K) (now : Instant) :
    Circuit K × List Effect × Answer K :=
  match command with
  | bindClassifier f =>
    let (c, took) := c.bindClassifier f
    (c, [], .flag took)
  | classify kinds =>
    match kinds.mapM c.classify with
    | .ok classes => (c, [], .classes classes)
    | .error panic => (c, [], .panicked panic)
  | info => (c, [], .info c.info)
  | snapshot =>
    let (c, s) := c.snapshot now
    (c, [], .snapshot s)
  | forceOpen =>
    let (c, effects) := c.forceOpen now
    (c, effects, .done)
  | forceClosed | reset =>
    let (c, effects) := c.forceClosed now
    (c, effects, .done)

end CircuitCommand

namespace World

variable {K : Type} [DecidableEq K]

/-! ## Circuits by name and by identifier -/

def address? (w : World K) : Target → Except (Answer K) Address
  | .named name =>
    if w.gateway.registry.contains name then .ok (.named name) else .error (.unknownCircuit name)
  | .standalone id =>
    match w.standaloneIds.get? id with
    | some number => .ok (.standalone number)
    | none => .error (.unknownCircuit id)

/-- A circuit and its address. -/
def locate (w : World K) (t : Target) : Except (Answer K) (Address × Circuit K) :=
  match t, w.address? t with
  | _, .error answer => .error answer
  | .named name, .ok a | .standalone name, .ok a =>
    match w.circuit? a with
    | some c => .ok (a, c)
    | none => .error (.unknownCircuit name)

def commandCircuit (w : World K) (t : Target) (command : CircuitCommand K) :
    World K × List Effect × Answer K :=
  match w.locate t with
  | .error answer => (w, [], answer)
  | .ok (a, c) => w.onCircuit a c command.run

def makeCircuit (w : World K) (id name : String) (policy : Policy) :
    World K × List Effect × Answer K :=
  let c := .create name policy w.clock
  ({ w with
      standalone := w.standalone ++ [c]
      standaloneIds := w.standaloneIds.insert id w.standalone.length }, [], .info c.info)

/-! ## Calls -/

def Progress.answer {K : Type} : Progress K → Answer K
  | .pending ran => .pending ran
  | .ended result ran => .ended result ran

/-- The way to the circuit that a new call will take. -/
def route (w : World K) : Origin K → Except (Answer K) (Route K)
  | .gateway ctx => .ok (.gateway ctx)
  | .service id =>
    match w.serviceIds.get? id with
    | none => .error (.unknownCircuit id)
    | some number =>
      match w.services[number]? with
      | none => .error (.unknownCircuit id)
      | some s => .ok (.service number ⟨s.name, s.rule⟩ s.instanceForRequest)
  | .direct t => (w.address? t).map .direct

/-- Drops the call under an identifier, if there is one. -/
def dropCall (w : World K) (id : String) : World K × List Effect :=
  match w.calls.get? id with
  | none => (w, [])
  | some call => w.drop id call

/-- Makes a call and, unless it is to stay unpolled, polls it once. -/
def startCall (w : World K) (id : String) (origin : Origin K)
    (outcome : Option (Action Json (Failure K))) (unpolled : Bool) :
    World K × List Effect × Answer K :=
  match w.route origin with
  | .error answer => (w, [], answer)
  | .ok route =>
    let (w, dropped) := w.dropCall id
    let call : Call K := { route, outcome }
    if unpolled then ({ w with calls := w.calls.insert id call }, dropped, .pending false)
    else
      let (w, effects, progress) := w.poll id call
      (w, dropped ++ effects, Progress.answer progress)

/-- Polls a call, with its outcome decided now if one is given. -/
def pollCall (w : World K) (id : String) (outcome : Option (Action Json (Failure K))) :
    World K × List Effect × Answer K :=
  match w.calls.get? id with
  | none => (w, [], .noSuchCall)
  | some call =>
    let (w, effects, progress) := w.poll id { call with outcome := outcome <|> call.outcome }
    (w, effects, Progress.answer progress)

def cancelCall (w : World K) (id : String) : World K × List Effect × Answer K :=
  let (w', effects) := w.dropCall id
  (w', effects, .flag (w.calls.contains id))

/-! ## Services -/

def makeService (w : World K) (id : String) (ctx : CallContext K) :
    World K × List Effect × Answer K :=
  let s : Service K (Failure K) := { name := ctx.name, rule := ctx.rule }
  ({ w with
      services := w.services ++ [s]
      serviceIds := w.serviceIds.insert id w.services.length }, [], .text s.name)

/-- The number of a service and the service. -/
def service (w : World K) (id : String) : Except (Answer K) (Nat × Service K (Failure K)) :=
  match w.serviceIds.get? id with
  | none => .error (.unknownCircuit id)
  | some number =>
    match w.services[number]? with
    | none => .error (.unknownCircuit id)
    | some s => .ok (number, s)

/-- Copies a service; from now on the copy is found under an identifier of its own. -/
def cloneService (w : World K) (id copyId : String) : World K :=
  match w.service id with
  | .error _ => w
  | .ok (_, s) =>
    { w with
      services := w.services ++ [s.clone]
      serviceIds := w.serviceIds.insert copyId w.services.length }

/-- Settles what the inner service answers from now on, and polls the wrapper. -/
def pollService (w : World K) (id : String) (readiness : Readiness (Failure K)) :
    World K × List Effect × Answer K :=
  match w.service id with
  | .error answer => (w, [], answer)
  | .ok (number, s) =>
    let (s, answer) := { s with readiness }.poll
    ({ w with services := w.services.set number s }, [], .readiness answer)

def countRequests (w : World K) (id : String) : Answer K :=
  match w.service id with
  | .error answer => answer
  | .ok (_, s) => .count s.requests.length

/-! ## All commands -/

/-- Lets time pass; a clock that cannot go that far stays where it is. -/
def advance (w : World K) (span : Duration) : World K × List Effect × Answer K :=
  match w.clock.after? span with
  | some now => ({ w with clock := now }, [], .time now)
  | none => (w, [], .panicked .clockOverflow)

def inspect (w : World K) : Shown → Answer K
  | .registry => .text w.gateway.registry.inspect
  | .gateway => .text w.gateway.inspect
  | .circuit t =>
    match w.locate t with
    | .error answer => answer
    | .ok (_, c) => .text c.inspect

def get (w : World K) (name : String) : Answer K :=
  match w.gateway.registry.circuit? name with
  | none => .unknownCircuit name
  | some c => .info c.info

def isConfigured (w : World K) (name : String) : Answer K :=
  match w.gateway.registry.isConfigured? name with
  | none => .unknownCircuit name
  | some b => .flag b

def command (w : World K) : Command K → World K × List Effect × Answer K
  | .advance span => w.advance span
  | .start id origin outcome unpolled => w.startCall id origin outcome unpolled
  | .poll id => w.pollCall id none
  | .finish id outcome => w.pollCall id (some outcome)
  | .cancel id => w.cancelCall id
  | .makeService id ctx => w.makeService id ctx
  | .pollService id readiness => w.pollService id readiness
  | .countRequests id => (w, [], w.countRequests id)
  | .getOrCreate name =>
    w.onRegistry fun r now =>
      let (r, effects, c) := r.getOrCreate name now
      (r, effects, .info c.info)
  | .get name => (w, [], w.get name)
  | .isKnown name => (w, [], .flag (w.gateway.registry.contains name))
  | .isConfigured name => (w, [], w.isConfigured name)
  | .list => (w, [], .listing w.gateway.registry.names w.gateway.registry.size)
  | .openCircuits => (w, [], .names w.gateway.registry.openCircuits)
  | .snapshots =>
    w.onRegistry fun r now =>
      let (r, l) := r.snapshots now
      (r, [], .snapshots l)
  | .bindPolicy _ (.error e) => (w, [], .configError (.invalidPolicy e))
  | .bindPolicy name (.ok policy) =>
    w.onRegistry fun r now =>
      let (r, effects, took) := r.bindPolicy name policy now
      (r, effects, .flag took)
  | .bindClassification name f =>
    w.onRegistry fun r now =>
      let (r, effects, took) := r.bindClassification name f now
      (r, effects, .flag took)
  | .loadProperties pairs =>
    w.onRegistry fun r now =>
      let (r, effects, loaded) := r.loadProperties pairs now
      (r, effects, .loaded loaded)
  | .makeCircuit _ _ (.error e) => (w, [], .configError (.invalidPolicy e))
  | .makeCircuit id name (.ok policy) => w.makeCircuit id name policy
  | .circuit t c => w.commandCircuit t c
  | .inspect shown => (w, [], w.inspect shown)
  | .metrics => (w, [], .metrics w.metrics)

end World

end Breaker
