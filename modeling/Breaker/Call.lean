import Breaker.Circuit.Outcome

/-!
# Calls

What a caller hands in, an action, and what the caller gets back. An action's
own result is passed on untouched; only a call that was rejected, and whose
action therefore never ran, ends in one of the two errors of the circuit.
-/

namespace Breaker

/-- How an action ends once it is run: with a value, with an error, or in a panic. -/
inductive Action (V E : Type) where
  | ok (value : V)
  | error (error : E)
  | panic (panic : Panic)

inductive CallError (E : Type) where
  | rejected (error : OpenError)
  /-- A rejection in the words of the application. -/
  | mapped (message : String)
  /-- The action's own error. -/
  | inner (error : E)

/-- Whether the call was rejected. -/
def CallError.isCircuitOpen {E : Type} : CallError E → Bool
  | rejected _ | mapped _ => true
  | inner _ => false

def CallError.message {E : Type} (describe : E → String) : CallError E → String
  | rejected e => e.message
  | mapped message => message
  | inner e => "inner error: " ++ describe e

inductive CallResult (V E : Type) where
  | ok (value : V)
  | error (error : CallError E)
  | panicked (panic : Panic)

variable {K V E : Type}

/-- What the caller of an action sees if no circuit interferes. -/
def Action.result : Action V E → CallResult V E
  | ok v => .ok v
  | error e => .error (.inner e)
  | panic p => .panicked p

namespace Circuit

/-- Ends a call whose action has ended. -/
def settle (c : Circuit K) (now : Instant) (p : Permit) (kindOf : E → K) (action : Action V E) :
    Circuit K × List Effect × CallResult V E :=
  match action with
  | .ok v =>
    let (c, effects, _) := c.complete now p .success
    (c, effects, .ok v)
  | .error e =>
    match c.complete now p (.failure (kindOf e)) with
    | (c, effects, .ok ()) => (c, effects, .error (.inner e))
    | (c, effects, .error panic) => (c, effects, .panicked panic)
  | .panic panic =>
    let (c, effects) := c.abandon now p
    (c, effects, .panicked panic)

end Circuit

end Breaker
