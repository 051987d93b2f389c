import Breaker.Gateway
import Breaker.Json.Printer

/-!
# Mappers of a session

Mappers that show everything a mapper gets to see.
-/

namespace Breaker.Mapper

variable {K : Type}

def ruleText (h : Hierarchy K) : Option (Rule K) → String
  | none => "no rule"
  | some r => (r.toJson h).text

/-- Joins the tag, the name, the rejection and the rule of the call by bars. -/
def joining (h : Hierarchy K) (tag : String) : ErrorMapper K := fun ctx e =>
  .ok ("|".intercalate [tag, ctx.name, e.message, ruleText h ctx.rule])

/-- Shows the context of the call. -/
def inspecting (h : Hierarchy K) : ErrorMapper K := fun ctx _ => .ok (ctx.inspect h)

def panicking : ErrorMapper K := fun _ _ => .error ⟨"mapper bug"⟩

end Breaker.Mapper
