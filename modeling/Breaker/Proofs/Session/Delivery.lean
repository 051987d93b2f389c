import Breaker.Proofs.Circuit.Delivery
import Breaker.Proofs.Session.Journal
import Breaker.Proofs.Session.Reports

/-!
# Who hears what in a session

The journal is the one sequence of all that the circuits of the registry tell. Every listener hears
of it what its own condition admits, whatever the others do (`each_hears_its_events`). What the
listeners of the session make of it is in the reports of its steps, where the records of a call
stand partly before and partly after those of the steps during the call (`World.Reported`).
-/

namespace Breaker

open Effect (story)
open Listener (recordsOf)

variable {K : Type}

namespace Listener

variable {R : Type}

theorem recordsOf_append (listeners : List (Listener R)) (l m : List Effect) :
    recordsOf listeners (l ++ m) = recordsOf listeners l ++ recordsOf listeners m := by
  unfold recordsOf
  rw [List.filterMap_append, List.flatMap_append]

end Listener

namespace World

/-- The records in the reports, in the order in which they were made: what took place during a call
comes between what was heard before it and after it. -/
inductive Reported : List (Report (Answer K)) → List Record → Prop
  | nil : Reported [] []
  | cons {report : Report (Answer K)} {reports : List (Report (Answer K))}
    {before during after later : List Record} (records : report.records = before ++ after)
    (inner : Reported report.answer.inner during) (rest : Reported reports later) :
    Reported (report :: reports) (before ++ during ++ after ++ later)

/-- What a step has led to: of all that has taken place, its own effects are those before and after
the steps inside it, whose records are in the reports of its answer. -/
inductive Spans (w : World K) : World K × List Effect × Answer K → Prop
  | intro {w' : World K} {before during after : List Effect} {answer : Answer K}
    (continues : w.Continues w' (before ++ during ++ after))
    (inner : Reported answer.inner (recordsOf w.listeners during)) :
    Spans w (w', before ++ after, answer)

/-- Nothing else takes place inside the step. -/
theorem Spans.plain {w : World K} {out : World K × List Effect × Answer K}
    (h : w.Continues out.1 out.2.1) (hinner : out.2.2.inner = []) : w.Spans out := by
  obtain ⟨w', effects, answer⟩ := out
  have hcontinues : w.Continues w' (effects ++ [] ++ []) := by
    rw [List.append_nil, List.append_nil]
    exact h
  have hnone : Reported answer.inner (recordsOf w.listeners []) := by
    rw [hinner]
    exact .nil
  have hspans : w.Spans (w', effects ++ [], answer) := .intro hcontinues hnone
  rwa [List.append_nil] at hspans

variable [DecidableEq K] {w : World K}

mutual

theorem spans_step (w : World K) (step : Step K) : w.Spans (w.step step) := by
  cases step with
  | command c => exact .plain (w.continues_perform (.command c)) (w.reveals_command c).2
  | call ctx action during => exact spans_blocking w (.gateway ctx) action during
  | invoke t action during =>
    unfold World.step
    cases haddress : w.address? t with
    | error answer => exact .plain (.refl w) (plain_of_address? haddress).inner
    | ok a => exact spans_blocking w (.direct a) action during

theorem spans_blocking (w : World K) (route : Route K) (action : Action Json (Failure K))
    (during : Option (List (Step K))) : w.Spans (w.blocking route action during) := by
  have henter : w.Continues (w.enter route).1 (w.enter route).2.1 :=
    w.continues_perform (.enter route)
  have hsettles : ∀ (w : World K) p, w.Continues (w.settle route.address p action).1
      (w.settle route.address p action).2.1 :=
    fun w p => w.continues_perform (.settle route.address p action)
  rcases hout : w.enter route with ⟨w₁, effects, answer⟩
  rw [hout] at henter
  cases during with
  | none =>
    unfold World.blocking
    rw [hout]
    cases answer with
    | error result => exact .plain henter rfl
    | ok p => exact .plain (henter.trans (hsettles w₁ p)) rfl
  | some steps =>
    unfold World.blocking
    rw [hout]
    cases answer with
    | error result => exact .plain henter rfl
    | ok p =>
      obtain ⟨during, hsteps, hreported⟩ := reported_steps w₁ steps
      rw [henter.listeners] at hreported
      exact .intro ((henter.trans hsteps).trans (hsettles _ p)) hreported

/-- The records in the reports are what the listeners make of all that the steps lead to. -/
theorem reported_steps (w : World K) (steps : List (Step K)) :
    ∃ effects, w.Continues (w.steps steps).1 effects ∧
      Reported (w.steps steps).2 (recordsOf w.listeners effects) := by
  cases steps with
  | nil => exact ⟨[], .refl w, .nil⟩
  | cons step steps =>
    have hspans := spans_step w step
    unfold World.steps
    rcases hout : w.step step with ⟨w₁, effects, answer⟩
    rw [hout] at hspans
    cases hspans with
    | @intro _ before during after _ hstep hinner =>
      obtain ⟨later, hsteps, hreported⟩ := reported_steps w₁ steps
      refine ⟨before ++ during ++ after ++ later, hstep.trans hsteps, ?_⟩
      rw [hstep.listeners] at hreported
      have hrecords : (w₁.report (before ++ after) answer).records =
          recordsOf w.listeners before ++ recordsOf w.listeners after := by
        rw [← Listener.recordsOf_append, ← hstep.listeners]
        rfl
      rw [Listener.recordsOf_append, Listener.recordsOf_append, Listener.recordsOf_append]
      exact .cons hrecords hinner hreported

end

/-! ## Sessions -/

section Attendance

variable {σ : Type}

/-- What an audience keeps while the acts take place, one after the other. -/
def attended (audience : List (Hearer σ)) (w : World K) (kept : σ) : List (Act K) → σ
  | [] => kept
  | act :: acts =>
    (w.perform act).attended audience (Hearer.keep audience kept (story (w.effectsOf act))) acts

/-- An audience that has got all of the journal so far gets all of it in the end. -/
theorem attended_eq_keep (audience : List (Hearer σ)) {kept kept' : σ}
    (h : kept' = Hearer.keep audience kept (story w.journal)) (acts : List (Act K)) :
    w.attended audience kept' acts = Hearer.keep audience kept (story (w.play acts).journal) := by
  induction acts generalizing w kept' with
  | nil => exact h
  | cons act acts ih =>
    refine ih ?_
    rw [(w.continues_perform act).journal, Effect.story_append, Hearer.keep_append, ← h]

theorem attended_start (audience : List (Hearer σ)) (kept : σ) (s : Setup K)
    (acts : List (Act K)) :
    s.world.1.attended audience kept acts =
      Hearer.keep audience kept (story (s.world.1.play acts).journal) := by
  refine attended_eq_keep audience ?_ acts
  have hjournal : s.world.1.journal = s.world.2 := rfl
  rw [hjournal, silent_start]
  rfl

end Attendance

end World

end Breaker
