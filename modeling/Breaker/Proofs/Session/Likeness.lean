import Breaker.Proofs.Session.Script
import Mathlib.Data.List.Forall2

/-!
# The same thing in two worlds

Laws about two runs compare what is done in one world with what is done in another. A `Likeness`
says when two worlds, what came of them and what was answered count as alike. If every motion is
done alike in worlds that are alike, then so is every command that consists of the same motions in
both (`Respects.command`), and so are steps with others inside them (`Sustains.steps`).
-/

namespace Breaker

/-- When two worlds, their effects and their answers count as alike. -/
structure Likeness (K : Type) where
  worlds : World K → World K → Prop
  effects : List Effect → List Effect → Prop
  answers : Answer K → Answer K → Prop
  nil : effects [] []
  append : ∀ {l l' m m' : List Effect}, effects l l' → effects m m' → effects (l ++ m) (l' ++ m')
  refl : ∀ answer, answers answer answer

variable {K : Type}

/-- Where the call goes that a command makes. -/
def Command.origin? : Command K → Option (Origin K)
  | start _ origin _ _ => some origin
  | _ => none

namespace Likeness

variable {L : Likeness K} {α : Type} {w w' : World K} {P : Motion K → Prop}

/-- Worlds and answers may differ, effects may not. -/
def sameEffects (worlds : World K → World K → Prop) (answers : Answer K → Answer K → Prop)
    (refl : ∀ answer, answers answer answer) : Likeness K where
  worlds := worlds
  effects effects effects' := effects' = effects
  answers := answers
  nil := rfl
  append := congrArg₂ (· ++ ·)
  refl := refl

/-- Only worlds may differ. -/
def sameAnswers (worlds : World K → World K → Prop) : Likeness K :=
  .sameEffects worlds Eq Eq.refl

/-- Two calls got the same permit, or both were rejected. -/
inductive Verdicts (L : Likeness K) :
    Except (CallResult Json (Failure K)) Permit → Except (CallResult Json (Failure K)) Permit → Prop
  | admitted (p : Permit) : L.Verdicts (.ok p) (.ok p)
  | rejected {result result' : CallResult Json (Failure K)}
    (alike : L.answers (.ended result false) (.ended result' false)) :
    L.Verdicts (.error result) (.error result')

/-- When two replies to a motion count as alike. -/
def replies (L : Likeness K) : (m : Motion K) → m.Reply → m.Reply → Prop
  | .enter _ => L.Verdicts
  | .settle .. => Eq
  | .abandon .. | .file .. | .forget _ => fun _ _ => True
  | .control .. | .registry _ | .advance _ | .makeCircuit .. | .makeService .. | .pollService .. =>
    L.answers

/-- The worlds and the effects of two outcomes are alike, and so are the answers. -/
structure Alike (L : Likeness K) (A : α → α → Prop) (out out' : World K × List Effect × α) :
    Prop where
  world : L.worlds out.1 out'.1
  effects : L.effects out.2.1 out'.2.1
  answer : A out.2.2 out'.2.2

/-- Two scripts of the same motions, which go on alike after replies that are alike. -/
inductive Scripts (L : Likeness K) : Script K → Script K → Prop
  | done {answer answer' : Answer K} (alike : L.answers answer answer') :
    L.Scripts (.done answer) (.done answer')
  | move (m : Motion K) {next next' : m.Reply → Script K}
    (alike : ∀ reply reply', L.replies m reply reply' → L.Scripts (next reply) (next' reply')) :
    L.Scripts (.move m next) (.move m next')

/-- Motions of this kind are done alike in worlds that are alike. -/
def Respects (L : Likeness K) [DecidableEq K] (P : Motion K → Prop) : Prop :=
  ∀ m, P m → ∀ w w', L.worlds w w' → L.Alike (L.replies m) (w.move m) (w'.move m)

/-! ## Replies -/

theorem replies_refl (L : Likeness K) (m : Motion K) (reply : m.Reply) :
    L.replies m reply reply := by
  cases m with
  | enter route =>
    cases reply with
    | ok p => exact .admitted p
    | error result => exact .rejected (L.refl _)
  | settle a p action => exact rfl
  | abandon a p => trivial
  | file id call => trivial
  | forget id => trivial
  | _ => exact L.refl _

theorem answers_of_replies {m : Motion K} {reply reply' : m.Reply}
    (h : L.replies m reply reply') : L.answers (m.answer reply) (m.answer reply') := by
  cases m with
  | enter route => exact L.refl _
  | settle a p action => exact L.refl _
  | abandon a p => exact L.refl _
  | file id call => exact L.refl _
  | forget id => exact L.refl _
  | _ => exact h

/-- If the replies are the same, there is nothing to compare about them. -/
theorem Alike.of_eq {m : Motion K} {out out' : World K × List Effect × m.Reply}
    (hworld : L.worlds out.1 out'.1) (heffects : L.effects out.2.1 out'.2.1)
    (hreply : out'.2.2 = out.2.2) : L.Alike (L.replies m) out out' := by
  refine ⟨hworld, heffects, ?_⟩
  rw [hreply]
  exact L.replies_refl m _

/-! ## Scripts -/

theorem scripts_single {m? : Option (Motion K)} {answer answer' : Answer K}
    (h : m? = none → L.answers answer answer') :
    L.Scripts (.single m? answer) (.single m? answer') := by
  cases m? with
  | none => exact .done (h rfl)
  | some m => exact .move m fun reply reply' hreply => .done (answers_of_replies hreply)

theorem scripts_proceed (L : Likeness K) (id : String) (call : Call K) (p : Permit) :
    L.Scripts (.proceed id call p) (.proceed id call p) := by
  unfold Script.proceed
  cases call.outcome with
  | none => exact .move _ fun _ _ _ => .done (L.refl _)
  | some action =>
    refine .move _ fun result result' hresult => ?_
    cases hresult
    exact .move _ fun _ _ _ => .done (L.refl _)

theorem scripts_poll (L : Likeness K) (id : String) (call : Call K) :
    L.Scripts (.poll id call) (.poll id call) := by
  unfold Script.poll
  cases call.permit with
  | some p => exact L.scripts_proceed id call p
  | none =>
    refine .move _ fun verdict verdict' hverdict => ?_
    cases hverdict with
    | admitted p => exact L.scripts_proceed id call p
    | rejected halike => exact .move _ fun _ _ _ => .done halike

theorem scripts_drop {next next' : Script K} (h : L.Scripts next next') (id : String)
    (call? : Option (Call K)) : L.Scripts (.drop id call? next) (.drop id call? next') := by
  cases call? with
  | none => exact h
  | some call =>
    refine .move _ fun _ _ _ => ?_
    cases call.permit with
    | none => exact h
    | some p => exact .move _ fun _ _ _ => h

theorem scripts_start (L : Likeness K) (id : String) (route? : Except (Answer K) (Route K))
    (call? : Option (Call K)) (outcome : Option (Action Json (Failure K))) (unpolled : Bool) :
    L.Scripts (.start id route? call? outcome unpolled)
      (.start id route? call? outcome unpolled) := by
  cases route? with
  | error answer => exact .done (L.refl answer)
  | ok route =>
    refine scripts_drop ?_ id call?
    cases unpolled with
    | true => exact .move _ fun _ _ _ => .done (L.refl _)
    | false => exact L.scripts_poll id { route, outcome }

theorem scripts_resume (L : Likeness K) (id : String) (call? : Option (Call K))
    (outcome : Option (Action Json (Failure K))) :
    L.Scripts (.resume id call? outcome) (.resume id call? outcome) := by
  cases call? with
  | none => exact .done (L.refl _)
  | some call => exact L.scripts_poll id _

variable [DecidableEq K]

/-- In both worlds a command consists of the same motions if it finds the same way and the same
call; one that only looks at the world sees what is alike. -/
theorem scripts_command {command : Command K}
    (hroute : ∀ origin ∈ command.origin?, w'.route origin = w.route origin)
    (hcall : ∀ id ∈ command.call?, w'.calls.get? id = w.calls.get? id)
    (hlooks : command.Looks → L.answers (w.command command).2.2 (w'.command command).2.2) :
    L.Scripts (w.script command) (w'.script command) := by
  cases command with
  | start id origin outcome unpolled =>
    show L.Scripts (.start id (w.route origin) (w.calls.get? id) outcome unpolled)
      (.start id (w'.route origin) (w'.calls.get? id) outcome unpolled)
    rw [hroute origin rfl, hcall id rfl]
    exact L.scripts_start id _ _ outcome unpolled
  | poll id =>
    show L.Scripts (.resume id (w.calls.get? id) none) (.resume id (w'.calls.get? id) none)
    rw [hcall id rfl]
    exact L.scripts_resume id _ none
  | finish id outcome =>
    show L.Scripts (.resume id (w.calls.get? id) (some outcome))
      (.resume id (w'.calls.get? id) (some outcome))
    rw [hcall id rfl]
    exact L.scripts_resume id _ (some outcome)
  | cancel id =>
    show L.Scripts (.drop id (w.calls.get? id) (.done _)) (.drop id (w'.calls.get? id) (.done _))
    rw [hcall id rfl]
    exact scripts_drop (.done (L.refl _)) id _
  | _ => exact scripts_single fun hmotion => hlooks (Command.looks_of_motion?_eq_none rfl hmotion)

/-! ## Commands -/

theorem Respects.run (hmoves : L.Respects P) {script script' : Script K}
    (h : L.Scripts script script') (huses : script.Uses P) (hw : L.worlds w w') :
    L.Alike L.answers (w.run script) (w'.run script') := by
  induction h generalizing w w' with
  | done halike => exact ⟨hw, L.nil, halike⟩
  | move m _ ih =>
    have hmove := hmoves m huses.1 w w' hw
    have hrest := ih _ _ hmove.answer (huses.2 _) hmove.world
    exact ⟨hrest.world, L.append hmove.effects hrest.effects, hrest.answer⟩

/-- **What holds of the motions holds of the commands**, in two worlds. -/
theorem Respects.command (hmoves : L.Respects P) (h : L.worlds w w') {command : Command K}
    (huses : (w.script command).Uses P)
    (hroute : ∀ origin ∈ command.origin?, w'.route origin = w.route origin)
    (hcall : ∀ id ∈ command.call?, w'.calls.get? id = w.calls.get? id)
    (hlooks : command.Looks → L.answers (w.command command).2.2 (w'.command command).2.2) :
    L.Alike L.answers (w.command command) (w'.command command) := by
  rw [w.command_eq_run, w'.command_eq_run]
  exact hmoves.run (scripts_command hroute hcall hlooks) huses h

end Likeness

/-! ## Steps -/

namespace Step

mutual

/-- The commands among the step and those inside it. -/
def commands : Step K → List (Command K)
  | .command c => [c]
  | .call _ _ during | .invoke _ _ during => commandsDuring during

def commandsDuring : Option (List (Step K)) → List (Command K)
  | none => []
  | some steps => commandsAll steps

def commandsAll : List (Step K) → List (Command K)
  | [] => []
  | step :: steps => step.commands ++ commandsAll steps

end

end Step

namespace Likeness

/-- When two reports count as alike, for worlds, effects and answers that do. -/
structure Telling (L : Likeness K) where
  reports : Report (Answer K) → Report (Answer K) → Prop
  report : ∀ {w w' : World K} {effects effects' : List Effect} {answer answer' : Answer K},
    L.worlds w w' → L.effects effects effects' → L.answers answer answer' →
      reports (w.report effects answer) (w'.report effects' answer')
  ran : ∀ (result : CallResult Json (Failure K)) {l l' : List (Report (Answer K))},
    List.Forall₂ reports l l' →
      L.answers (.endedDuring result (some l)) (.endedDuring result (some l'))
  rejected : ∀ {result result' : CallResult Json (Failure K)},
    L.answers (.ended result false) (.ended result' false) →
      L.answers (.endedDuring result none) (.endedDuring result' none)

variable {L : Likeness K} [DecidableEq K] {good : Command K → Prop} {T : L.Telling} {w w' : World K}

/-- All that steps consist of is done alike in worlds that are alike. -/
structure Sustains (L : Likeness K) (good : Command K → Prop) : Prop where
  address? : ∀ {w w' : World K}, L.worlds w w' → ∀ t, w'.address? t = w.address? t
  enter : ∀ {w w' : World K}, L.worlds w w' → ∀ route,
    L.Alike L.Verdicts (w.enter route) (w'.enter route)
  settle : ∀ {w w' : World K}, L.worlds w w' → ∀ a p action,
    L.Alike Eq (w.settle a p action) (w'.settle a p action)
  command : ∀ {w w' : World K}, L.worlds w w' → ∀ c, good c →
    L.Alike L.answers (w.command c) (w'.command c)

/-- Two runs have led to worlds that are alike, and so are their reports. -/
structure AlikeAll (T : L.Telling) (out out' : World K × List (Report (Answer K))) : Prop where
  world : L.worlds out.1 out'.1
  reports : List.Forall₂ T.reports out.2 out'.2

mutual

theorem Sustains.step (h : L.Sustains good) (T : L.Telling) {w w' : World K}
    (hw : L.worlds w w') (step : Step K) (hgood : ∀ c ∈ step.commands, good c) :
    L.Alike L.answers (w.step step) (w'.step step) := by
  cases step with
  | command c => exact h.command hw c (hgood c (List.mem_singleton_self c))
  | call ctx action during => exact h.blocking T hw (.gateway ctx) action during hgood
  | invoke t action during =>
    unfold World.step
    rw [h.address? hw]
    cases w.address? t with
    | error answer => exact ⟨hw, L.nil, L.refl answer⟩
    | ok a => exact h.blocking T hw (.direct a) action during hgood

theorem Sustains.blocking (h : L.Sustains good) (T : L.Telling) {w w' : World K}
    (hw : L.worlds w w') (route : Route K) (action : Action Json (Failure K))
    (during : Option (List (Step K))) (hgood : ∀ c ∈ Step.commandsDuring during, good c) :
    L.Alike L.answers (w.blocking route action during) (w'.blocking route action during) := by
  have henter := h.enter hw route
  rcases hout : w.enter route with ⟨w₁, effects, verdict⟩
  rcases hout' : w'.enter route with ⟨w₁', effects', verdict'⟩
  rw [hout, hout'] at henter
  obtain ⟨hworld, heffects, hverdict⟩ := henter
  cases during with
  | none =>
    unfold World.blocking
    rw [hout, hout']
    cases hverdict with
    | rejected halike => exact ⟨hworld, heffects, halike⟩
    | admitted p =>
      have hsettle := h.settle hworld route.address p action
      refine ⟨hsettle.world, L.append heffects hsettle.effects, ?_⟩
      dsimp only
      rw [hsettle.answer]
      exact L.refl _
  | some steps =>
    unfold World.blocking
    rw [hout, hout']
    cases hverdict with
    | rejected halike => exact ⟨hworld, heffects, T.rejected halike⟩
    | admitted p =>
      have hsteps := h.steps T hworld steps hgood
      have hsettle := h.settle hsteps.world route.address p action
      refine ⟨hsettle.world, L.append heffects hsettle.effects, ?_⟩
      dsimp only
      rw [hsettle.answer]
      exact T.ran _ hsteps.reports

/-- **What holds of commands and of the halves of calls holds of steps**, with those inside them. -/
theorem Sustains.steps (h : L.Sustains good) (T : L.Telling) {w w' : World K}
    (hw : L.worlds w w') (steps : List (Step K)) (hgood : ∀ c ∈ Step.commandsAll steps, good c) :
    AlikeAll T (w.steps steps) (w'.steps steps) := by
  cases steps with
  | nil => exact ⟨hw, .nil⟩
  | cons step steps =>
    obtain ⟨hfirst, hlater⟩ := List.forall_mem_append.1 hgood
    have hstep := h.step T hw step hfirst
    have hsteps := h.steps T hstep.world steps hlater
    unfold World.steps
    exact ⟨hsteps.world, .cons (T.report hstep.world hstep.effects hstep.answer) hsteps.reports⟩

end

end Likeness

end Breaker
