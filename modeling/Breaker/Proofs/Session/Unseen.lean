import Breaker.Proofs.Session.Script

/-!
# Changes that operations do not see

A world may change in parts that operations on circuits, calls and services have nothing to do with:
they neither read nor write them. Such a change (`Unseen`) makes no difference to the effects of a
motion and to the reply, and it is the same whether it is made before the motion or after it
(`Unseen.move`). Only for the motion by which a call asks for its permit is that not said here.
-/

namespace Breaker

namespace World

variable {K α : Type}

/-- What an operation has led to, with a change made after it. -/
def along (f : World K → World K) (out : World K × α) : World K × α := (f out.1, out.2)

/-- A change in parts of the world that operations on circuits, calls and services do not touch. -/
structure Unseen (f : World K → World K) : Prop where
  clock : ∀ w, (f w).clock = w.clock
  withClock : ∀ w clock, { f w with clock } = f { w with clock }
  calls : ∀ w, (f w).calls = w.calls
  withCalls : ∀ w calls, { f w with calls } = f { w with calls }
  services : ∀ w, (f w).services = w.services
  withServices : ∀ w services, { f w with services } = f { w with services }
  serviceIds : ∀ w, (f w).serviceIds = w.serviceIds
  address? : ∀ w t, (f w).address? t = w.address? t
  circuit? : ∀ w a, (f w).circuit? a = w.circuit? a
  onCircuit : ∀ {α : Type} (w : World K) (a : Address) (c : Circuit K)
    (op : Circuit K → Instant → Circuit K × List Effect × α),
    (f w).onCircuit a c op = along f (w.onCircuit a c op)
  onRegistry : ∀ {α : Type} (w : World K)
    (op : Registry K → Instant → Registry K × List Effect × α),
    (f w).onRegistry op = along f (w.onRegistry op)
  makeCircuit : ∀ w id name policy,
    (f w).makeCircuit id name policy = along f (w.makeCircuit id name policy)
  makeService : ∀ w id ctx, (f w).makeService id ctx = along f (w.makeService id ctx)

namespace Unseen

variable {f : World K → World K}

theorem settle (h : Unseen f) (w : World K) (a : Address) (p : Permit)
    (action : Action Json (Failure K)) :
    (f w).settle a p action = along f (w.settle a p action) := by
  unfold World.settle
  rw [h.circuit?]
  cases w.circuit? a with
  | none => rfl
  | some c => exact h.onCircuit w a c _

theorem forget (h : Unseen f) (w : World K) (id : String) : (f w).forget id = f (w.forget id) := by
  unfold World.forget
  rw [h.calls]
  exact h.withCalls w _

theorem abandonAt (h : Unseen f) (w : World K) (a : Address) (p : Permit) :
    (f w).abandonAt a p = along f (w.abandonAt a p) := by
  unfold World.abandonAt
  rw [h.circuit?]
  cases w.circuit? a with
  | none => rfl
  | some c => exact h.onCircuit w a c _

theorem file (h : Unseen f) (w : World K) (id : String) (call : Call K) :
    ({ f w with calls := (f w).calls.insert id call } : World K) =
      f { w with calls := w.calls.insert id call } := by
  rw [h.calls]
  exact h.withCalls w _

theorem locate (h : Unseen f) (w : World K) (t : Target) : (f w).locate t = w.locate t := by
  cases t <;> simp only [World.locate, h.address?, h.circuit?]

theorem commandCircuit (h : Unseen f) (w : World K) (t : Target) (command : CircuitCommand K) :
    (f w).commandCircuit t command = along f (w.commandCircuit t command) := by
  unfold World.commandCircuit
  rw [h.locate]
  cases w.locate t with
  | error answer => rfl
  | ok found => exact h.onCircuit w found.1 found.2 command.run

theorem route (h : Unseen f) (w : World K) (origin : Origin K) :
    (f w).route origin = w.route origin := by
  cases origin with
  | gateway ctx => rfl
  | service sid => simp only [World.route, h.serviceIds, h.services]
  | direct t => simp only [World.route, h.address?]

theorem service (h : Unseen f) (w : World K) (id : String) : (f w).service id = w.service id := by
  simp only [World.service, h.serviceIds, h.services]

theorem pollService (h : Unseen f) (w : World K) (id : String) (readiness : Readiness (Failure K)) :
    (f w).pollService id readiness = along f (w.pollService id readiness) := by
  unfold World.pollService
  rw [h.service]
  cases w.service id with
  | error answer => rfl
  | ok found =>
    simp only [h.services, h.withServices]
    rfl

theorem advance (h : Unseen f) (w : World K) (span : Duration) :
    (f w).advance span = along f (w.advance span) := by
  unfold World.advance
  rw [h.clock]
  cases w.clock.after? span with
  | none => rfl
  | some now =>
    simp only [h.withClock]
    rfl

/-- **A change that is not seen makes no difference to motions**, to those apart that ask for a
permit. -/
theorem move [DecidableEq K] (h : Unseen f) (w : World K) {m : Motion K}
    (hm : ∀ route, m ≠ .enter route) : (f w).move m = along f (w.move m) := by
  cases m with
  | enter route => exact absurd rfl (hm route)
  | settle a p action => exact h.settle w a p action
  | abandon a p => exact h.abandonAt w a p
  | file id call => exact congrArg (·, [], ()) (h.file w id call)
  | forget id => exact congrArg (·, [], ()) (h.forget w id)
  | control t command => exact h.commandCircuit w t command
  | registry command => exact h.onRegistry w command.run
  | advance span => exact h.advance w span
  | makeCircuit id name policy => exact h.makeCircuit w id name policy
  | makeService id ctx => exact h.makeService w id ctx
  | pollService id readiness => exact h.pollService w id readiness

end Unseen

end World

end Breaker
