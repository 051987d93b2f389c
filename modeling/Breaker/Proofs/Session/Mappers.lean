import Breaker.Proofs.Gateway
import Breaker.Proofs.Session.Likeness
import Breaker.Proofs.Session.Traffic
import Breaker.Proofs.Session.Unseen

/-!
# Mappers only choose the words

The same steps with another mapper, or with none, lead to the same world, have the same effects and
are answered alike (`parallel_steps`), except that callers of rejected calls get the rejection in
other words (`Reworded`) and that the gateway, when it shows itself, shows whether it has a mapper.
A mapper that panics is no exception.
-/

namespace Breaker

variable {K : Type} {m m' : Option (ErrorMapper K)}

/-! ## Answers in other words -/

/-- The results are the same, or the words of two mappers for the same rejection. -/
inductive Reworded (m m' : Option (ErrorMapper K)) :
    CallResult Json (Failure K) → CallResult Json (Failure K) → Prop
  | same (result : CallResult Json (Failure K)) : Reworded m m' result result
  | rejected (ctx : CallContext K) (e : OpenError) {result result' : CallResult Json (Failure K)}
    (worded : Worded m ctx e result) (worded' : Worded m' ctx e result') :
    Reworded m m' result result'

namespace Answer

mutual

/-- The answers are the same, but for the words in which rejections are told. -/
inductive Retold (m m' : Option (ErrorMapper K)) : Answer K → Answer K → Prop
  | same (answer : Answer K) : Retold m m' answer answer
  | ended {result result' : CallResult Json (Failure K)} (reworded : Reworded m m' result result') :
    Retold m m' (.ended result false) (.ended result' false)
  | endedDuring {result result' : CallResult Json (Failure K)}
    (reworded : Reworded m m' result result') :
    Retold m m' (.endedDuring result none) (.endedDuring result' none)
  /-- The action ran; with its own result, whatever became of calls inside it. -/
  | ran (result : CallResult Json (Failure K)) {reports reports' : List (Report (Answer K))}
    (retold : RetoldAll m m' reports reports') :
    Retold m m' (.endedDuring result (some reports)) (.endedDuring result (some reports'))
  | gateway (r : Registry K) :
    Retold m m' (.text (Gateway.inspect ⟨r, m⟩)) (.text (Gateway.inspect ⟨r, m'⟩))

/-- Records, log and states are the same in the reports as well. -/
inductive RetoldAll (m m' : Option (ErrorMapper K)) :
    List (Report (Answer K)) → List (Report (Answer K)) → Prop
  | nil : RetoldAll m m' [] []
  | cons (report : Report (Answer K)) {answer : Answer K}
    {reports reports' : List (Report (Answer K))}
    (head : Retold m m' report.answer answer) (tail : RetoldAll m m' reports reports') :
    RetoldAll m m' (report :: reports) ({ report with answer } :: reports')

end

end Answer

namespace World

open Answer (Retold RetoldAll)

/-- The same world with another mapper, or with none. -/
def mappedBy (w : World K) (m : Option (ErrorMapper K)) : World K :=
  { w with gateway := { w.gateway with mapper := m } }

theorem mappedBy_self (w : World K) : w.mappedBy w.gateway.mapper = w := rfl

theorem unseen_mappedBy (m : Option (ErrorMapper K)) : Unseen (World.mappedBy · m) where
  clock _ := rfl
  withClock _ _ := rfl
  calls _ := rfl
  withCalls _ _ := rfl
  services _ := rfl
  withServices _ _ := rfl
  serviceIds _ := rfl
  address? w t := by cases t <;> rfl
  circuit? w a := by cases a <;> rfl
  onCircuit w a c op := by cases a <;> rfl
  onRegistry _ _ := rfl
  makeCircuit _ _ _ _ := rfl
  makeService _ _ _ := rfl

/-- The first run goes on with the mapper `m`, the second with `m'` instead of it; what they lead to
is the same, but for the words in which rejections are told. -/
def otherMapper (m m' : Option (ErrorMapper K)) : Likeness K :=
  .sameEffects (fun w w' => w.gateway.mapper = m ∧ w' = w.mappedBy m') (Retold m m') .same

theorem reworded_of_retold {result result' : CallResult Json (Failure K)}
    (h : Retold m m' (.ended result false) (.ended result' false)) :
    Reworded m m' result result' := by
  cases h with
  | same => exact .same result
  | ended reworded => exact reworded

theorem retoldAll_of_forall₂ {reports reports' : List (Report (Answer K))}
    (h : List.Forall₂ (fun report report' => Retold m m' report.answer report'.answer ∧
      report' = { report with answer := report'.answer }) reports reports') :
    RetoldAll m m' reports reports' := by
  induction h with
  | nil => exact .nil
  | cons hreport _ ih =>
    rw [hreport.2]
    exact .cons _ hreport.1 ih

def retellings (m m' : Option (ErrorMapper K)) : (otherMapper m m').Telling where
  reports report report' :=
    Retold m m' report.answer report'.answer ∧ report' = { report with answer := report'.answer }
  report := by
    rintro w w' effects effects' answer answer' ⟨-, rfl⟩ rfl h
    exact ⟨h, rfl⟩
  ran result _ _ h := .ran result (retoldAll_of_forall₂ h)
  rejected h := .endedDuring (reworded_of_retold h)

/-! ## Motions -/

theorem alike_begun {out out' : World K × List Effect × Except (CallResult Json (Failure K)) Permit}
    (h : (otherMapper m m').Alike (otherMapper m m').Verdicts out out') (route : Route K) :
    (otherMapper m m').Alike (otherMapper m m').Verdicts (begun route out) (begun route out') := by
  obtain ⟨w, effects, answer⟩ := out
  obtain ⟨w', effects', answer'⟩ := out'
  obtain ⟨⟨hmapper, hworld⟩, heffects, hanswer⟩ := h
  cases hanswer with
  | rejected hretold => exact ⟨⟨hmapper, hworld⟩, heffects, .rejected hretold⟩
  | admitted p =>
    cases hworld
    refine ⟨⟨?_, ?_⟩, heffects, .admitted p⟩
    · cases route <;> exact hmapper
    · cases route <;> rfl

variable [DecidableEq K]

theorem alike_enterGateway (ctx : CallContext K) (w : World K) (m' : Option (ErrorMapper K)) :
    (otherMapper w.gateway.mapper m').Alike (otherMapper w.gateway.mapper m').Verdicts
      (w.enterGateway ctx) ((w.mappedBy m').enterGateway ctx) := by
  refine ⟨⟨rfl, rfl⟩, rfl, ?_⟩
  have hanswer : ((w.mappedBy m').enterGateway ctx).2.2 =
      (w.gateway.arrive w.hierarchy ctx w.clock).2.2.mapError
        fun e => (w.mappedBy m').gateway.rejection ctx e := rfl
  have hanswer₀ : (w.enterGateway ctx).2.2 =
      (w.gateway.arrive w.hierarchy ctx w.clock).2.2.mapError
        fun e => w.gateway.rejection ctx e := rfl
  rw [hanswer, hanswer₀]
  cases (w.gateway.arrive w.hierarchy ctx w.clock).2.2 with
  | ok p => exact .admitted p
  | error e =>
    exact .rejected (.ended (.rejected ctx e (w.gateway.worded_rejection ctx e)
      ((w.mappedBy m').gateway.worded_rejection ctx e)))

theorem alike_enter (route : Route K) (w : World K) (m' : Option (ErrorMapper K)) :
    (otherMapper w.gateway.mapper m').Alike (otherMapper w.gateway.mapper m').Verdicts
      (w.enter route) ((w.mappedBy m').enter route) := by
  cases route with
  | gateway ctx =>
    rw [enter_gateway, enter_gateway]
    exact alike_begun (alike_enterGateway ctx w m') _
  | service number ctx inner =>
    rw [enter_service, enter_service]
    exact alike_begun (alike_enterGateway ctx w m') _
  | direct a =>
    have hclock : (w.mappedBy m').clock = w.clock := rfl
    cases hc : w.circuit? a with
    | none =>
      rw [enter_direct_of_none hc,
        enter_direct_of_none (((unseen_mappedBy m').circuit? w a).trans hc)]
      exact ⟨⟨rfl, rfl⟩, rfl, .rejected (.same _)⟩
    | some c =>
      rw [enter_direct_of_some hc,
        enter_direct_of_some (((unseen_mappedBy m').circuit? w a).trans hc), hclock]
      apply alike_begun
      refine ⟨⟨?_, ?_⟩, rfl, ?_⟩
      · cases a <;> rfl
      · cases a <;> rfl
      · dsimp only
        cases (c.arrive w.clock).2.2 with
        | ok p => exact .admitted p
        | error e => exact .rejected (.same _)

/-- A motion that does not ask for a permit leaves the mapper as it is. -/
theorem mapper_move (w : World K) {motion : Motion K} (h : ∀ route, motion ≠ .enter route) :
    (w.move motion).1.gateway.mapper = w.gateway.mapper := by
  -- Under its own mapper the world is what it is, and the motion ends with that mapper.
  have hself := (unseen_mappedBy w.gateway.mapper).move w h
  rw [mappedBy_self] at hself
  rw [hself]
  rfl

theorem respects_mappedBy (m m' : Option (ErrorMapper K)) :
    (otherMapper m m').Respects fun _ => True := by
  rintro motion - w w' ⟨rfl, rfl⟩
  have other (h : ∀ route, motion ≠ .enter route) :
      (otherMapper w.gateway.mapper m').Alike ((otherMapper w.gateway.mapper m').replies motion)
        (w.move motion) ((w.mappedBy m').move motion) := by
    rw [(unseen_mappedBy m').move w h]
    exact .of_eq ⟨mapper_move w h, rfl⟩ rfl rfl
  cases motion with
  | enter route => exact alike_enter route w m'
  | _ => exact other nofun

/-! ## Steps -/

/-- A world shows that it has a mapper when its gateway is inspected, and nowhere else. -/
theorem retold_looks (w : World K) (m' : Option (ErrorMapper K)) {command : Command K}
    (h : command.Looks) : Retold w.gateway.mapper m' (w.command command).2.2
      ((w.mappedBy m').command command).2.2 := by
  cases h with
  | inspect shown =>
    cases shown with
    | registry => exact .same _
    | gateway => exact .gateway w.gateway.registry
    | circuit t =>
      show Retold _ _ (w.inspect (.circuit t)) ((w.mappedBy m').inspect (.circuit t))
      simp only [World.inspect, (unseen_mappedBy m').locate]
      exact .same _
  | _ => exact .same _

theorem sustains_mappedBy (m m' : Option (ErrorMapper K)) :
    (otherMapper m m').Sustains fun _ => True where
  address? := by
    rintro w w' ⟨-, rfl⟩ t
    exact (unseen_mappedBy m').address? w t
  enter hw route := respects_mappedBy m m' (.enter route) trivial _ _ hw
  settle hw a p action := respects_mappedBy m m' (.settle a p action) trivial _ _ hw
  command := by
    rintro w w' ⟨rfl, rfl⟩ c -
    exact (respects_mappedBy w.gateway.mapper m').command ⟨rfl, rfl⟩
      (Script.uses_of_forall (fun _ => trivial) _)
      (fun origin _ => (unseen_mappedBy m').route w origin) (fun _ _ => rfl) (retold_looks w m')

/-- Two runs have led to the same, and their reports tell the same. -/
structure ParallelAll (m m' : Option (ErrorMapper K))
    (out out' : World K × List (Report (Answer K))) : Prop where
  mapper : out.1.gateway.mapper = m
  world : out'.1 = out.1.mappedBy m'
  reports : RetoldAll m m' out.2 out'.2

/-- **Mappers only choose the words**: steps lead to the same whatever the mapper is and whatever
it does, up to what callers of rejected calls are told. -/
theorem parallel_steps (w : World K) (m' : Option (ErrorMapper K)) (steps : List (Step K)) :
    ParallelAll w.gateway.mapper m' (w.steps steps) ((w.mappedBy m').steps steps) := by
  have hsteps := (sustains_mappedBy w.gateway.mapper m').steps (retellings w.gateway.mapper m')
    ⟨rfl, rfl⟩ steps fun _ _ => trivial
  exact ⟨hsteps.world.1, hsteps.world.2, retoldAll_of_forall₂ hsteps.reports⟩

end World

end Breaker
