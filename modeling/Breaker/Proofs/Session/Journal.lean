import Breaker.Proofs.Session.Names

/-!
# The journal of a session

What an act leads to is what the journal grows by (`continues_perform`), and of each name it tells
just what the operations tell that the act does on the circuit of that name. So the journal of a
session holds, for each name, all that has been told by what was done with its circuit, one
operation after the other, and nothing of anybody else (`chronicled_play`). The listeners stay the
same all the while.
-/

namespace Breaker

open Effect (story)

variable {K : Type}

namespace World

variable [DecidableEq K] {w w' w'' : World K} {effects more : List Effect} {act : Act K}
  {acts : List (Act K)}

/-- From `w` it has gone on to `w'` with these effects. -/
structure Continues (w w' : World K) (effects : List Effect) : Prop where
  journal : w'.journal = w.journal ++ effects
  listeners : w'.listeners = w.listeners

omit [DecidableEq K] in
theorem Continues.refl (w : World K) : w.Continues w [] := ⟨(List.append_nil _).symm, rfl⟩

omit [DecidableEq K] in
theorem Continues.trans (h : w.Continues w' effects) (h' : w'.Continues w'' more) :
    w.Continues w'' (effects ++ more) where
  journal := by rw [h'.journal, h.journal, List.append_assoc]
  listeners := h'.listeners.trans h.listeners

/-! ## Acts -/

theorem journal_enter (w : World K) (route : Route K) :
    (w.enter route).1.journal = w.journal ++ (w.enter route).2.1 := by
  have hbegin : ∀ (w : World K) (route : Route K), (w.begin route).journal = w.journal :=
    fun w route => by cases route <;> rfl
  cases route with
  | gateway ctx =>
    rw [enter_gateway, effects_begun, fst_begun World.journal fun w => hbegin w _]
    rfl
  | service number ctx inner =>
    rw [enter_service, effects_begun, fst_begun World.journal fun w => hbegin w _]
    rfl
  | direct a =>
    cases hc : w.circuit? a with
    | none =>
      rw [enter_direct_of_none hc]
      exact (List.append_nil _).symm
    | some c =>
      rw [enter_direct_of_some hc, effects_begun, fst_begun World.journal fun w => hbegin w _]
      cases a <;> rfl

omit [DecidableEq K] in
theorem journal_onCircuit {α : Type} (w : World K) (a : Address) (c : Circuit K)
    (op : Circuit K → Instant → Circuit K × List Effect × α) :
    (w.onCircuit a c op).1.journal = w.journal ++ (w.onCircuit a c op).2.1 := by
  cases a <;> rfl

theorem journal_move (w : World K) (m : Motion K) :
    (w.move m).1.journal = w.journal ++ (w.move m).2.1 := by
  have hstill : w.journal = w.journal ++ [] := (List.append_nil _).symm
  cases m with
  | enter route => exact w.journal_enter route
  | settle a p action =>
    show (w.settle a p action).1.journal = w.journal ++ (w.settle a p action).2.1
    unfold World.settle
    cases w.circuit? a with
    | none => exact hstill
    | some c => exact w.journal_onCircuit a c _
  | abandon a p =>
    show (w.abandonAt a p).1.journal = w.journal ++ (w.abandonAt a p).2.1
    unfold World.abandonAt
    cases w.circuit? a with
    | none => exact hstill
    | some c => exact w.journal_onCircuit a c _
  | control t command =>
    show (w.commandCircuit t command).1.journal = w.journal ++ (w.commandCircuit t command).2.1
    unfold World.commandCircuit
    cases w.locate t with
    | error answer => exact hstill
    | ok found => exact w.journal_onCircuit found.1 found.2 command.run
  | registry command => rfl
  | advance span =>
    show (w.advance span).1.journal = w.journal ++ (w.advance span).2.1
    unfold World.advance
    cases w.clock.after? span <;> exact hstill
  | pollService id readiness =>
    show (w.pollService id readiness).1.journal = w.journal ++ (w.pollService id readiness).2.1
    unfold World.pollService
    cases w.service id <;> exact hstill
  | _ => exact hstill

theorem listeners_move (w : World K) (m : Motion K) : (w.move m).1.listeners = w.listeners := by
  cases hprompt : m.isPrompt with
  | true => exact congrArg Conditions.listeners (conditions_move hprompt w)
  | false =>
    cases m with
    | advance span =>
      show (w.advance span).1.listeners = w.listeners
      unfold World.advance
      cases w.clock.after? span <;> rfl
    | _ => cases hprompt

theorem continues_run (w : World K) (script : Script K) :
    w.Continues (w.run script).1 (w.run script).2.1 := by
  induction script generalizing w with
  | done answer => exact .refl w
  | move m next ih =>
    have hmove : w.Continues (w.move m).1 (w.move m).2.1 := ⟨w.journal_move m, w.listeners_move m⟩
    exact hmove.trans (ih _ _)

/-- What an act leads to is what the journal grows by. -/
theorem continues_perform (w : World K) (act : Act K) :
    w.Continues (w.perform act) (w.effectsOf act) := by
  rw [perform_eq, effectsOf_eq]
  exact w.continues_run (w.actScript act)

/-! ## Sessions -/

omit [DecidableEq K] in
/-- Making the registry tells nothing. -/
theorem silent_start (s : Setup K) : story s.world.2 = [] :=
  (s.blueprint.upkeep_registry (K := K)).onlyLogs.story_eq_nil

/-- The listeners are those that the registry was made with. -/
theorem listeners_play (w : World K) (acts : List (Act K)) :
    (w.play acts).listeners = w.listeners := by
  induction acts generalizing w with
  | nil => rfl
  | cons act acts ih => exact (ih _).trans (w.continues_perform act).listeners

/-- After these acts the journal tells of each name just what has been told by all that was done
with its circuit, and each further act adds what it does itself. -/
structure Chronicled (start : World K) (acts : List (Act K)) : Prop where
  told : ∀ name, (story (start.play acts).journal).filter (fun n => n.event.circuit = name) =
    (start.recount name (start.entryAt name) acts).2
  entry : ∀ name, (start.play acts).entryAt name = (start.recount name (start.entryAt name) acts).1
  grows : ∀ act, ((start.play acts).perform act).journal =
    (start.play acts).journal ++ (start.play acts).effectsOf act
  /-- The notices that an act adds are those of the operations that it does, in their order. -/
  adds : ∀ act name,
    (story ((start.play acts).effectsOf act)).filter (fun n => n.event.circuit = name) =
      (Deed.undergo name (start.play acts).clock ((start.play acts).entryAt name)
        ((start.play acts).deedsOn name act)).2

theorem filter_story_perform (h : w.WellNamed) (act : Act K) (name : String) :
    (story (w.effectsOf act)).filter (fun n => n.event.circuit = name) =
      (Deed.undergo name w.clock (w.entryAt name) (w.deedsOn name act)).2 := by
  rw [← Effect.story_about]
  exact (w.undergoes_perform act).told h name

/-- What a history adds to the journal about a name is what its deeds there tell. -/
theorem filter_story_play (h : w.WellNamed) (name : String) (acts : List (Act K)) :
    (story (w.play acts).journal).filter (fun n => n.event.circuit = name) =
      (story w.journal).filter (fun n => n.event.circuit = name) ++
        (w.recount name (w.entryAt name) acts).2 := by
  induction acts generalizing w with
  | nil => exact (List.append_nil _).symm
  | cons act acts ih =>
    have hact := w.undergoes_perform act
    rw [play_cons, ih (hact.wellNamed h), (w.continues_perform act).journal, Effect.story_append,
      List.filter_append, filter_story_perform h, recount, hact.entry, List.append_assoc]

theorem chronicled_play (s : Setup K) (acts : List (Act K)) : s.world.1.Chronicled acts where
  told name := by
    have hjournal : s.world.1.journal = s.world.2 := rfl
    rw [filter_story_play (wellNamed_start s), hjournal, silent_start]
    rfl
  entry name := s.world.1.entryAt_play name acts
  grows act := ((s.world.1.play acts).continues_perform act).journal
  adds act name := filter_story_perform ((wellNamed_start s).play acts) act name

end World

end Breaker
