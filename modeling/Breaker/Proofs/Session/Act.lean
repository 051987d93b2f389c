import Breaker.Session.Run

/-!
# A session as one sequence of acts

Calls that have steps take place while their action runs make a tree of a session. What takes place
does so in one order all the same: an `Act` is a command, the first half of a blocking call, or the
second half of one. `World.acts` lists the acts of some steps in their order, and playing these one
after the other leads where the steps lead (`steps_eq_play`). So what holds of every sequence of
acts holds of every session.
-/

namespace Breaker

/-- What takes place at one stroke. -/
inductive Act (K : Type) where
  | command (c : Command K)
  /-- A blocking call asks for its permit. -/
  | enter (route : Route K)
  /-- The action of a blocking call has ended. -/
  | settle (a : Address) (p : Permit) (action : Action Json (Failure K))

namespace World

variable {K : Type} [DecidableEq K]

def perform (w : World K) : Act K → World K
  | .command c => (w.command c).1
  | .enter route => (w.enter route).1
  | .settle a p action => (w.settle a p action).1

/-- The world after the acts, in their order. -/
def play (w : World K) (acts : List (Act K)) : World K := acts.foldl perform w

@[simp] theorem play_nil (w : World K) : w.play [] = w := rfl

theorem play_cons (w : World K) (act : Act K) (acts : List (Act K)) :
    w.play (act :: acts) = (w.perform act).play acts := rfl

theorem play_append (w : World K) (l m : List (Act K)) : w.play (l ++ m) = (w.play l).play m :=
  List.foldl_append

theorem play_snoc (w : World K) (acts : List (Act K)) (act : Act K) :
    w.play (acts ++ [act]) = (w.play acts).perform act := w.play_append acts [act]

mutual

/-- The acts that a step consists of. -/
def stepActs (w : World K) : Step K → List (Act K)
  | .command c => [.command c]
  | .call ctx action during => w.blockingActs (.gateway ctx) action during
  | .invoke t action during =>
    match w.address? t with
    | .error _ => []
    | .ok a => w.blockingActs (.direct a) action during

def blockingActs (w : World K) (route : Route K) (action : Action Json (Failure K)) :
    Option (List (Step K)) → List (Act K)
  | none =>
    match w.enter route with
    | (_, _, .error _) => [.enter route]
    | (_, _, .ok p) => [.enter route, .settle route.address p action]
  | some during =>
    match w.enter route with
    | (_, _, .error _) => [.enter route]
    | (w', _, .ok p) =>
      .enter route :: (w'.acts during ++ [.settle route.address p action])

/-- The acts that the steps consist of, in their order. -/
def acts (w : World K) : List (Step K) → List (Act K)
  | [] => []
  | s :: rest => w.stepActs s ++ (w.step s).1.acts rest

end

mutual

theorem step_eq_play (w : World K) (step : Step K) :
    (w.step step).1 = w.play (w.stepActs step) := by
  cases step with
  | command c => rfl
  | call ctx action during => exact blocking_eq_play w (.gateway ctx) action during
  | invoke t action during =>
    unfold World.step stepActs
    cases w.address? t with
    | error answer => rfl
    | ok a => exact blocking_eq_play w (.direct a) action during

theorem blocking_eq_play (w : World K) (route : Route K) (action : Action Json (Failure K))
    (during : Option (List (Step K))) :
    (w.blocking route action during).1 = w.play (w.blockingActs route action during) := by
  have hfst : w.perform (.enter route) = (w.enter route).1 := rfl
  rcases hout : w.enter route with ⟨w', effects, answer⟩
  rw [hout] at hfst
  cases during with
  | none =>
    unfold World.blocking blockingActs
    rw [hout]
    cases answer with
    | error result => exact hfst.symm
    | ok p =>
      rw [play_cons, hfst]
      rfl
  | some steps =>
    unfold World.blocking blockingActs
    rw [hout]
    cases answer with
    | error result => exact hfst.symm
    | ok p =>
      have hsteps := steps_eq_play w' steps
      rw [play_cons, hfst, play_snoc, ← hsteps]
      rfl

/-- Steps lead where their acts lead. -/
theorem steps_eq_play (w : World K) (steps : List (Step K)) :
    (w.steps steps).1 = w.play (w.acts steps) := by
  cases steps with
  | nil => rfl
  | cons step steps =>
    unfold World.steps acts
    rw [play_append, ← step_eq_play w step]
    exact steps_eq_play _ steps

end

end World

end Breaker
