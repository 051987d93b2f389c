import Breaker.Gateway
import Breaker.Proofs.Traffic.Stale

/-!
# What callers are told

The caller of an admitted call gets what the action ended with (`told_settle`), whatever type the
errors are of: they may be errors of calls themselves. The caller of a rejected call gets the
rejection in the words of the mapper, if there is one (`worded_rejection`). So the result shows
whether the action ran (`CallResult.Shows`).
-/

namespace Breaker

variable {K V E : Type}

/-! ## Results and runs -/

/-- The result of a call shows whether its action ran, unless there was a panic. -/
structure CallResult.Shows (result : CallResult V E) (ran : Bool) : Prop where
  isCircuitOpen_iff : ∀ e, result = .error e → (e.isCircuitOpen = true ↔ ran = false)
  ran_of_ok : ∀ v, result = .ok v → ran = true

theorem CallResult.Shows.panicked (panic : Panic) (ran : Bool) :
    (.panicked panic : CallResult V E).Shows ran := ⟨nofun, nofun⟩

theorem CallResult.Shows.rejected {e : CallError E} (h : e.isCircuitOpen = true) :
    (.error e : CallResult V E).Shows false := by
  refine ⟨?_, nofun⟩
  rintro _ ⟨⟩
  exact ⟨fun _ => rfl, fun _ => h⟩

theorem Action.shows_result (action : Action V E) : action.result.Shows true := by
  cases action with
  | ok v => exact ⟨nofun, fun _ _ => rfl⟩
  | panic panic => exact .panicked panic true
  | error e =>
    refine ⟨?_, nofun⟩
    rintro _ ⟨⟩
    exact ⟨nofun, nofun⟩

/-! ## Admitted calls -/

namespace Circuit

variable {c : Circuit K} {now : Instant} {p : Permit} {kindOf : E → K} {action : Action V E}

/-- The panic of the classifier, if the action has ended with an error that it panics on. -/
def panic? (c : Circuit K) (kindOf : E → K) : Action V E → Option Panic
  | .error e =>
    match c.classify (kindOf e) with
    | .error panic => some panic
    | .ok _ => none
  | _ => none

/-- What becomes of the end of an action on its way through the circuit to the caller. -/
def passedOn (c : Circuit K) (kindOf : E → K) (action : Action V E) : CallResult V E :=
  match c.panic? kindOf action with
  | some panic => .panicked panic
  | none => action.result

theorem passedOn_of_none (h : c.panic? kindOf action = none) :
    c.passedOn kindOf action = action.result := by
  simp only [passedOn, h]

theorem shows_passedOn (c : Circuit K) (kindOf : E → K) (action : Action V E) :
    (c.passedOn kindOf action).Shows true := by
  unfold passedOn
  cases c.panic? kindOf action with
  | none => exact action.shows_result
  | some panic => exact .panicked panic true

/-- The caller is told what the action ended with, or that the classifier panicked on it. -/
theorem told_settle (c : Circuit K) (now : Instant) (p : Permit) (kindOf : E → K)
    (action : Action V E) : (c.settle now p kindOf action).2.2 = c.passedOn kindOf action := by
  cases action with
  | ok v => rfl
  | panic panic => rfl
  | error e =>
    cases hv : c.classify (kindOf e) with
    | error panic =>
      rw [settle_crashed hv]
      simp only [passedOn, panic?, hv]
    | ok verdict =>
      have hpanic : c.panic? kindOf (.error e : Action V E) = none := by simp only [panic?, hv]
      rw [passedOn_of_none hpanic]
      refine result_settle fun e' he => ?_
      cases he
      exact ⟨verdict, hv⟩

/-! ## Rejected calls -/

/-- The time until a trial may run that a call is rejected with; there is none to tell while the
trial is out. -/
def left (c : Circuit K) (now : Instant) : Duration :=
  match c.state with
  | .opened => (c.cooldownLeft? now).getD .zero
  | _ => .zero

theorem error_arrive {e : OpenError} (h : (c.arrive now).2.2 = .error e) :
    e = ⟨c.name, c.left now⟩ := by
  unfold left
  cases hs : c.state with
  | closed =>
    rw [arrive_of_closed hs] at h
    cases h
  | halfOpen =>
    rw [arrive_of_halfOpen hs] at h
    cases h
    rfl
  | opened =>
    cases hl : c.cooldownLeft? now with
    | none =>
      rw [arrive_of_cooled hs hl] at h
      cases h
    | some left =>
      rw [arrive_of_cooling hs hl] at h
      cases h
      rfl

end Circuit

/-- A rejection in the words of the mapper: what the caller of a rejected call is told. -/
inductive Worded (mapper : Option (ErrorMapper K)) (ctx : CallContext K) (e : OpenError) :
    CallResult V E → Prop
  | plain (unset : mapper = none) : Worded mapper ctx e (.error (.rejected e))
  | mapped {map : ErrorMapper K} {message : String} (set : mapper = some map)
    (maps : map ctx e = .ok message) : Worded mapper ctx e (.error (.mapped message))
  | panicked {map : ErrorMapper K} {panic : Panic} (set : mapper = some map)
    (panics : map ctx e = .error panic) : Worded mapper ctx e (.panicked panic)

theorem Gateway.worded_rejection (g : Gateway K) (ctx : CallContext K) (e : OpenError) :
    Worded g.mapper ctx e (g.rejection ctx e : CallResult V E) := by
  unfold Gateway.rejection
  cases hmapper : g.mapper with
  | none => exact .plain rfl
  | some map =>
    dsimp only
    cases hmap : map ctx e with
    | ok message => exact .mapped rfl hmap
    | error panic => exact .panicked rfl hmap

theorem Worded.shows {mapper : Option (ErrorMapper K)} {ctx : CallContext K} {e : OpenError}
    {result : CallResult V E} (h : Worded mapper ctx e result) : result.Shows false := by
  cases h with
  | plain _ => exact .rejected rfl
  | mapped _ _ => exact .rejected rfl
  | panicked _ _ => exact .panicked _ false

end Breaker
