import Breaker.Proofs.Session.Expired
import Breaker.Session.Run

/-!
# Snapshots are for looking only

A snapshot prunes what it looks at, and no other step can tell (`snapshots_pure`). Two runs that
differ in snapshots are written down as one list of `Joint` steps: most are taken in both runs, also
those inside the action of a call, and a snapshot may be taken in one run alone.
-/

namespace Breaker

/-- A way to take snapshots. -/
inductive Glance where
  | one (target : Target)
  | all

def Glance.step {K : Type} : Glance → Step K
  | one t => .command (.circuit t .snapshot)
  | all => .command .snapshots

/-- A step of two runs at once. -/
inductive Joint (K : Type) where
  | command (c : Command K)
  | call (ctx : CallContext K) (action : Action Json (Failure K)) (during : Option (List (Joint K)))
  | invoke (target : Target) (action : Action Json (Failure K)) (during : Option (List (Joint K)))
  /-- A snapshot that is taken in the first run, or else in the second, and not in the other. -/
  | glance (first : Bool) (g : Glance)

namespace Joint

variable {K : Type}

mutual

/-- What the first run does of it, or else the second. -/
def side (first : Bool) : Joint K → List (Step K)
  | command c => [.command c]
  | call ctx action during => [.call ctx action (sideDuring first during)]
  | invoke t action during => [.invoke t action (sideDuring first during)]
  | glance only g => if only = first then [g.step] else []

def sideDuring (first : Bool) : Option (List (Joint K)) → Option (List (Step K))
  | none => none
  | some during => some (sideAll first during)

def sideAll (first : Bool) : List (Joint K) → List (Step K)
  | [] => []
  | joint :: joints => side first joint ++ sideAll first joints

end

mutual

/-- The reports of the two runs on a joint step: the same, but for those of snapshots that were
taken in one run alone. -/
inductive Agree : Joint K → List (Report (Answer K)) → List (Report (Answer K)) → Prop
  | command (c : Command K) (r : Report (Answer K)) : Agree (.command c) [r] [r]
  | call (ctx : CallContext K) (action : Action Json (Failure K)) {during : Option (List (Joint K))}
    {r : Report (Answer K)} {answer : Answer K} (ends : Ends during r.answer answer) :
    Agree (.call ctx action during) [r] [{ r with answer }]
  | invoke (t : Target) (action : Action Json (Failure K)) {during : Option (List (Joint K))}
    {r : Report (Answer K)} {answer : Answer K} (ends : Ends during r.answer answer) :
    Agree (.invoke t action during) [r] [{ r with answer }]
  | first (g : Glance) (r : Report (Answer K)) : Agree (.glance true g) [r] []
  | second (g : Glance) (r : Report (Answer K)) : Agree (.glance false g) [] [r]

/-- The answers to a call in the two runs. -/
inductive Ends : Option (List (Joint K)) → Answer K → Answer K → Prop
  | same (during : Option (List (Joint K))) (answer : Answer K) : Ends during answer answer
  /-- The action has run, with the steps inside. -/
  | ran (result : CallResult Json (Failure K)) {during : List (Joint K)}
    {inner inner' : List (Report (Answer K))} (agree : AgreeAll during inner inner') :
    Ends (some during) (.endedDuring result (some inner)) (.endedDuring result (some inner'))

inductive AgreeAll : List (Joint K) → List (Report (Answer K)) → List (Report (Answer K)) → Prop
  | nil : AgreeAll [] [] []
  | cons {joint : Joint K} {joints : List (Joint K)} {rs rs' ts ts' : List (Report (Answer K))}
    (head : Agree joint rs rs') (tail : AgreeAll joints ts ts') :
    AgreeAll (joint :: joints) (rs ++ ts) (rs' ++ ts')

end

end Joint

namespace World

open Joint (sideDuring sideAll Agree Ends AgreeAll)

variable {K : Type} {w w' : World K}

theorem report_pruned (h : w.pruned = w'.pruned) (effects : List Effect) (answer : Answer K) :
    w.report effects answer = w'.report effects answer := by
  have hlisteners : w.pruned.listeners = w'.pruned.listeners := congrArg World.listeners h
  have hstates : w.states = w'.states := by rw [← w.states_pruned, h, w'.states_pruned]
  unfold World.report
  rw [hstates]
  exact congrArg (fun l => Report.mk answer (Listener.recordsOf l effects)
    (Listener.logOf l effects) w'.states) hlisteners

variable [DecidableEq K]

/-- To take snapshots is to prune. -/
theorem pruned_glance (w : World K) (g : Glance) : (w.step g.step).1.pruned = w.pruned := by
  cases g with
  | one t =>
    show (w.commandCircuit t .snapshot).1.pruned = w.pruned
    unfold World.commandCircuit
    cases hl : w.locate t with
    | error answer => rfl
    | ok found =>
      obtain ⟨a, c⟩ := found
      have hself : w.pruned.circuit? a = some (c.pruned w.clock) := by
        rw [circuit?_pruned, circuit?_of_locate hl]
        rfl
      have hheard : heard a [] = [] := by cases a <;> rfl
      show ((w.setCircuit a (c.pruned w.clock)).note (heard a [])).pruned = w.pruned
      rw [hheard, note_nil, ← setCircuit_pruned, c.pruned_pruned (Nat.le_refl _),
        setCircuit_self hself]
  | all =>
    have hregistry := w.gateway.registry.pruned_pruned w.clock (Nat.le_refl w.clock)
    show (({ w with
      gateway := { w.gateway with registry := w.gateway.registry.pruned w.clock } } :
        World K).note []).pruned = w.pruned
    rw [note_nil]
    simp only [pruned, hregistry]

theorem steps_append (w : World K) (l m : List (Step K)) :
    w.steps (l ++ m) =
      (((w.steps l).1.steps m).1, (w.steps l).2 ++ ((w.steps l).1.steps m).2) := by
  induction l generalizing w with
  | nil => rfl
  | cons step l ih => simp only [List.cons_append, World.steps, ih]

/-- The report on one step. -/
theorem steps_singleton (w : World K) (step : Step K) :
    w.steps [step] =
      ((w.step step).1, [(w.step step).1.report (w.step step).2.1 (w.step step).2.2]) := by
  simp only [World.steps]

/-- The two runs lead to worlds that are pruned alike, and their reports agree. -/
structure Agreeing (joints : List (Joint K)) (out out' : World K × List (Report (Answer K))) :
    Prop where
  world : out.1.pruned = out'.1.pruned
  reports : AgreeAll joints out.2 out'.2

/-- A call ends alike in both runs. -/
structure EndAlike (during : Option (List (Joint K)))
    (out out' : World K × List Effect × Answer K) : Prop where
  world : out.1.pruned = out'.1.pruned
  effects : out.2.1 = out'.2.1
  answer : Ends during out.2.2 out'.2.2

omit [DecidableEq K] in
theorem EndAlike.of_same {during : Option (List (Joint K))}
    {out out' : World K × List Effect × Answer K} (h : SameButExpired out out') :
    EndAlike during out out' :=
  ⟨h.world, congrArg Prod.fst h.rest, congrArg Prod.snd h.rest ▸ .same during _⟩

omit [DecidableEq K] in
theorem EndAlike.report {during : Option (List (Joint K))}
    {out out' : World K × List Effect × Answer K} (h : EndAlike during out out') :
    out'.1.report out'.2.1 out'.2.2 =
      { out.1.report out.2.1 out.2.2 with answer := out'.2.2 } := by
  rw [report_pruned h.world.symm, h.effects]
  rfl

mutual

theorem step_agrees {w w' : World K} (h : w.pruned = w'.pruned) (joint : Joint K) :
    (w.steps (joint.side true)).1.pruned = (w'.steps (joint.side false)).1.pruned ∧
      Agree joint (w.steps (joint.side true)).2 (w'.steps (joint.side false)).2 := by
  cases joint with
  | command c =>
    have hcommand := SameButExpired.lift (command_pruned · c) h
    have hreport := report_pruned hcommand.world
    simp only [Joint.side, steps_singleton, World.step]
    rw [hreport, hcommand.rest]
    exact ⟨hcommand.world, .command c _⟩
  | call ctx action during =>
    have hends := blocking_agrees h (.gateway ctx) action during
    simp only [Joint.side, steps_singleton, World.step]
    rw [hends.report]
    exact ⟨hends.world, .call ctx action hends.answer⟩
  | invoke t action during =>
    have haddress : w.address? t = w'.address? t := by
      rw [← address?_pruned, h, address?_pruned]
    simp only [Joint.side, steps_singleton, World.step, haddress]
    cases w'.address? t with
    | error answer =>
      dsimp only
      have hends : EndAlike during (w, [], answer) (w', [], answer) := .of_same ⟨h, rfl⟩
      rw [hends.report]
      exact ⟨hends.world, .invoke t action hends.answer⟩
    | ok a =>
      have hends := blocking_agrees h (.direct a) action during
      dsimp only
      rw [hends.report]
      exact ⟨hends.world, .invoke t action hends.answer⟩
  | glance first g =>
    cases first with
    | true =>
      have hglance := pruned_glance w g
      simp only [Joint.side, ↓reduceIte, Bool.true_eq_false, steps_singleton, World.steps]
      exact ⟨hglance.trans h, .first g _⟩
    | false =>
      have hglance := pruned_glance w' g
      simp only [Joint.side, ↓reduceIte, Bool.false_eq_true, steps_singleton, World.steps]
      exact ⟨h.trans hglance.symm, .second g _⟩

theorem blocking_agrees {w w' : World K} (h : w.pruned = w'.pruned) (route : Route K)
    (action : Action Json (Failure K)) (during : Option (List (Joint K))) :
    EndAlike during (w.blocking route action (sideDuring true during))
      (w'.blocking route action (sideDuring false during)) := by
  have henter := SameButExpired.lift (enter_pruned · route) h
  rcases hout : w.enter route with ⟨w₁, effects, answer⟩
  rcases hout' : w'.enter route with ⟨w₁', effects', answer'⟩
  rw [hout, hout'] at henter
  obtain ⟨hworld, hrest⟩ := henter
  cases hrest
  cases during with
  | none =>
    unfold sideDuring World.blocking
    rw [hout, hout']
    cases answer with
    | error result => exact .of_same ⟨hworld, rfl⟩
    | ok p =>
      have hsettle := SameButExpired.lift (settle_pruned · route.address p action) hworld
      refine .of_same ⟨hsettle.world, ?_⟩
      exact congrArg (fun out => (effects ++ out.1, Answer.ended out.2 true)) hsettle.rest
  | some during =>
    unfold sideDuring World.blocking
    rw [hout, hout']
    cases answer with
    | error result => exact .of_same ⟨hworld, rfl⟩
    | ok p =>
      obtain ⟨hinner, hreports⟩ := steps_agree hworld during
      have hsettle := SameButExpired.lift (settle_pruned · route.address p action) hinner
      have hresult := congrArg Prod.snd hsettle.rest
      refine ⟨hsettle.world, congrArg (effects ++ ·.1) hsettle.rest, ?_⟩
      dsimp only at hresult ⊢
      rw [hresult]
      exact .ran _ hreports

theorem steps_agree {w w' : World K} (h : w.pruned = w'.pruned) (joints : List (Joint K)) :
    Agreeing joints (w.steps (sideAll true joints)) (w'.steps (sideAll false joints)) := by
  cases joints with
  | nil => exact ⟨h, .nil⟩
  | cons joint joints =>
    obtain ⟨hworld, hhead⟩ := step_agrees h joint
    obtain ⟨hlast, htail⟩ := steps_agree hworld joints
    simp only [sideAll, steps_append]
    exact ⟨hlast, .cons hhead htail⟩

end

/-- **Snapshots are for looking only.** However many are taken more or fewer in one of two runs, at
whatever points and also while the action of a call is under way: all other steps have the same
reports, other snapshots show the same, and the circuits that remain differ at most in failures that
have left their windows. -/
theorem snapshots_pure (s : Setup K) (joints : List (Joint K)) :
    Agreeing joints (s.world.1.steps (sideAll true joints))
      (s.world.1.steps (sideAll false joints)) := steps_agree rfl joints

end World

end Breaker
