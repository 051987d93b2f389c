import Breaker.Call
import Breaker.Classification.Text
import Breaker.Registry

/-!
# The gateway

Calls are made by name through a gateway. It finds or makes the circuit of the
name, spends the binding of the name on the rule declared with the call, and
asks the circuit for a permit. A rejection may be put into other words by a
mapper; errors of actions are never mapped.
-/

namespace Breaker

/-- The call that a rejection belongs to. -/
structure CallContext (K : Type) where
  name : String
  /-- The rule declared with this call, which need not be the one that is bound. -/
  rule : Option (Rule K)

def CallContext.inspect {K : Type} (h : Hierarchy K) (ctx : CallContext K) : String :=
  Inspect.record "CallContext"
    [("name", Text.quote ctx.name), ("rule", Inspect.option (ctx.rule.map (·.inspect h)))]

/-- Turns a rejection into an error text of the application. -/
abbrev ErrorMapper (K : Type) := CallContext K → OpenError → Except Panic String

structure Gateway (K : Type) where
  registry : Registry K := {}
  mapper : Option (ErrorMapper K) := none

namespace Gateway

variable {K V E : Type}

/-- What the caller of a rejected call gets. -/
def rejection (g : Gateway K) (ctx : CallContext K) (e : OpenError) : CallResult V E :=
  match g.mapper with
  | none => .error (.rejected e)
  | some map =>
    match map ctx e with
    | .ok message => .error (.mapped message)
    | .error panic => .panicked panic

/-- Asks for a permit for a call by name. -/
def arrive [DecidableEq K] (h : Hierarchy K) (g : Gateway K) (ctx : CallContext K)
    (now : Instant) : Gateway K × List Effect × Except OpenError Permit :=
  let (r, found, c) := g.registry.resolve ctx.name (ctx.rule.map (.ofRule h)) now
  let (c', effects, answer) := c.arrive now
  ({ g with registry := r.setCircuit ctx.name c' },
    found ++ .log (.dispatching ctx.name c.published) :: effects, answer)

def inspect (g : Gateway K) : String :=
  Inspect.record "Gateway"
    [("registry", g.registry.inspect),
      ("mapper", Inspect.option (g.mapper.map fun _ => "\"<fn>\""))]

end Gateway

end Breaker
