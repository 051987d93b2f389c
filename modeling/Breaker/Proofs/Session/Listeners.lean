import Breaker.Proofs.Circuit.Strokes
import Breaker.Proofs.Session.Likeness
import Breaker.Proofs.Session.Traffic
import Breaker.Proofs.Session.Unseen

/-!
# Listeners leave no trace

What listeners make of the events is in the records of a report and in the warnings about those that
panicked, and nowhere else: the same steps with other listeners lead to the same world and to
reports that differ in nothing but these (`steps_heardBy`). That is also so while an operation is
under way, since all operations run to their end whoever listens (`Strokes.Completes`).
-/

namespace Breaker

variable {K : Type}

/-! ## Reports without what listeners made of the events -/

namespace Answer

mutual

/-- The answer, with nothing of the listeners in the reports inside it. -/
def unheard : Answer K → Answer K
  | .endedDuring result reports => .endedDuring result (unheardDuring reports)
  | answer => answer

def unheardDuring : Option (List (Report (Answer K))) → Option (List (Report (Answer K)))
  | none => none
  | some reports => some (unheardAll reports)

def unheardAll : List (Report (Answer K)) → List (Report (Answer K))
  | [] => []
  | report :: reports => unheardOne report :: unheardAll reports

/-- The report without records and without warnings about listeners. -/
def unheardOne : Report (Answer K) → Report (Answer K)
  | ⟨answer, _, log, states⟩ => ⟨answer.unheard, [], log.filter LogEntry.isOwn, states⟩

end

end Answer

namespace World

variable {ε : Type} {route : Route K}

/-- The same world with other listeners. -/
def heardBy (w : World K) (l : List (Listener Record)) : World K := { w with listeners := l }

variable (l : List (Listener Record))

/-! ## Motions -/

theorem unseen_heardBy : Unseen (fun w : World K => w.heardBy l) where
  clock _ := rfl
  withClock _ _ := rfl
  calls _ := rfl
  withCalls _ _ := rfl
  services _ := rfl
  withServices _ _ := rfl
  serviceIds _ := rfl
  address? w t := by cases t <;> rfl
  circuit? w a := by cases a <;> rfl
  onCircuit w a c op := by cases a <;> rfl
  onRegistry _ _ := rfl
  makeCircuit _ _ _ _ := rfl
  makeService _ _ _ := rfl

theorem begun_heardBy (out : World K × List Effect × Except ε Permit) :
    begun route (along (heardBy · l) out) = along (heardBy · l) (begun route out) := by
  obtain ⟨w, effects, answer⟩ := out
  cases answer with
  | error e => rfl
  | ok p => cases route <;> rfl

variable [DecidableEq K]

theorem enter_heardBy (w : World K) (route : Route K) :
    (w.heardBy l).enter route = along (heardBy · l) (w.enter route) := by
  cases route with
  | gateway ctx =>
    rw [enter_gateway, enter_gateway, ← begun_heardBy]
    rfl
  | service number ctx inner =>
    rw [enter_service, enter_service, ← begun_heardBy]
    rfl
  | direct a =>
    cases hc : w.circuit? a with
    | none =>
      rw [enter_direct_of_none hc,
        enter_direct_of_none (((unseen_heardBy l).circuit? w a).trans hc)]
      rfl
    | some c =>
      rw [enter_direct_of_some hc,
        enter_direct_of_some (((unseen_heardBy l).circuit? w a).trans hc), ← begun_heardBy]
      cases a <;> rfl

theorem move_heardBy (w : World K) (m : Motion K) :
    (w.heardBy l).move m = along (heardBy · l) (w.move m) := by
  cases m with
  | enter route => exact enter_heardBy l w route
  | _ => exact (unseen_heardBy l).move w nofun

end World

/-! ## Reports -/

namespace Listener

variable {R : Type}

theorem own_warnings (l : List (Listener R)) (n : Notice) :
    (warnings l n).filter LogEntry.isOwn = [] := by
  refine List.filter_eq_nil_iff.2 fun entry hentry => ?_
  obtain ⟨_, -, rfl⟩ := List.mem_map.1 hentry
  exact Bool.false_ne_true

/-- The log, warnings about listeners apart, is what it is without any. -/
theorem own_logOf (l : List (Listener R)) (effects : List Effect) :
    (logOf l effects).filter LogEntry.isOwn =
      (logOf ([] : List (Listener R)) effects).filter LogEntry.isOwn := by
  unfold logOf
  rw [List.filter_flatMap, List.filter_flatMap]
  congr 1
  funext e
  cases e with
  | notify n => exact (own_warnings l n).trans (own_warnings [] n).symm
  | log entry => rfl
  | counted name outcome => rfl
  | switched name source target => rfl

end Listener

namespace World

variable {l : List (Listener Record)}

open Answer (unheard unheardOne unheardAll)

theorem unheardOne_report {w : World K} {effects : List Effect} {answer answer' : Answer K}
    (h : answer'.unheard = answer.unheard) :
    unheardOne ((w.heardBy l).report effects answer') = unheardOne (w.report effects answer) := by
  have hlog : (Listener.logOf l effects).filter LogEntry.isOwn =
      (Listener.logOf w.listeners effects).filter LogEntry.isOwn :=
    (Listener.own_logOf l effects).trans (Listener.own_logOf w.listeners effects).symm
  show (⟨answer'.unheard, [], (Listener.logOf l effects).filter LogEntry.isOwn, w.states⟩ :
    Report (Answer K)) = ⟨answer.unheard, [], _, w.states⟩
  rw [h, hlog]

theorem unheardAll_eq {reports reports' : List (Report (Answer K))}
    (h : List.Forall₂ (fun report report' => unheardOne report' = unheardOne report)
      reports reports') : unheardAll reports' = unheardAll reports := by
  induction h with
  | nil => rfl
  | cons hreport _ ih => rw [unheardAll, unheardAll, hreport, ih]

/-- The second world is the first with other listeners; nothing else is different, but for what the
listeners made of the events. -/
def otherListeners (K : Type) (l : List (Listener Record)) : Likeness K :=
  .sameEffects (fun w w' => w' = w.heardBy l)
    (fun answer answer' => answer'.unheard = answer.unheard) fun _ => rfl

def unheardTelling (K : Type) (l : List (Listener Record)) : (otherListeners K l).Telling where
  reports report report' := unheardOne report' = unheardOne report
  report := by
    rintro w w' effects effects' answer answer' rfl rfl h
    exact unheardOne_report h
  ran result reports reports' h := by
    show unheard (.endedDuring result (some reports')) =
      unheard (.endedDuring result (some reports))
    simp only [unheard, Answer.unheardDuring, unheardAll_eq h]
  rejected h := by
    cases h
    rfl

/-- The same runs, but for what the listeners made of the events. -/
structure SameReports (l : List (Listener Record))
    (out out' : World K × List (Report (Answer K))) : Prop where
  world : out'.1 = out.1.heardBy l
  reports : unheardAll out'.2 = unheardAll out.2

variable [DecidableEq K]

theorem respects_heardBy (l : List (Listener Record)) :
    (otherListeners K l).Respects fun _ => True := by
  rintro m - w w' rfl
  rw [move_heardBy]
  exact .of_eq rfl rfl rfl

theorem sustains_heardBy (l : List (Listener Record)) :
    (otherListeners K l).Sustains fun _ => True where
  address? := by
    rintro w w' rfl t
    exact (unseen_heardBy l).address? w t
  enter hw route := respects_heardBy l (.enter route) trivial _ _ hw
  settle hw a p action := respects_heardBy l (.settle a p action) trivial _ _ hw
  command := by
    rintro w w' rfl c -
    refine (respects_heardBy l).command rfl (Script.uses_of_forall (fun _ => trivial) _)
      (fun origin _ => (unseen_heardBy l).route w origin) (fun _ _ => rfl) fun hlooks => ?_
    -- nothing that is looked at has to do with the listeners
    cases hlooks <;> rfl

/-- **Steps lead to the same world and the same reports whoever listens**, but for the records and
the warnings about listeners that panicked. -/
theorem steps_heardBy (w : World K) (steps : List (Step K)) :
    SameReports l (w.steps steps) ((w.heardBy l).steps steps) := by
  have hsteps := (sustains_heardBy l).steps (unheardTelling K l) (w := w) rfl steps
    fun _ _ => trivial
  exact ⟨hsteps.world, unheardAll_eq hsteps.reports⟩

/-! ## Sessions -/

omit [DecidableEq K] in
/-- Listeners are part of nothing but the list of them. -/
theorem world_settings (s : Setup K) {l l' : List Setting}
    (h : (Blueprint.settings l).standing = (Blueprint.settings l').standing) :
    ({ s with blueprint := .settings l' } : Setup K).world.1 =
      (({ s with blueprint := .settings l } : Setup K).world.1).heardBy
        (Blueprint.settings l').listeners := by
  unfold Setup.world Blueprint.registry
  rw [h]
  rfl

/-- **Listeners cannot influence the breaker.** Sessions with the same steps and different listeners
end in worlds that differ in their listeners only, and their reports in records and in warnings
about listeners. Within an operation no panic of a listener comes through, whatever listeners do:
the operation runs to its end, with warnings at most besides its own effects; and it leaves the
records and the log that are reported of it. -/
theorem listeners_inert (s : Setup K) (l l' : List Setting)
    (hstanding : (Blueprint.settings l).standing = (Blueprint.settings l').standing)
    (steps : List (Step K)) :
    SameReports (Blueprint.settings l').listeners
        (({ s with blueprint := .settings l } : Setup K).world.1.steps steps)
        (({ s with blueprint := .settings l' } : Setup K).world.1.steps steps) ∧
      (∀ (σ : Type) (audience : List (Hearer σ)), Strokes.Uninterrupted K audience ∧
        ∀ (scene : Scene K σ) (c : Circuit K) (effects : List Effect),
          Effect.own (scene.after audience c effects).effects =
            Effect.own scene.effects ++ Effect.own effects) ∧
      ∀ (listeners : List (Listener Record)) (scene : Scene K (List Record)) (c : Circuit K)
        (effects : List Effect),
        Listener.left (scene.after (listeners.map Listener.hearer) c effects) =
          ((Listener.left scene).1 ++ Listener.recordsOf listeners effects,
            (Listener.left scene).2 ++ Listener.logOf listeners effects) := by
  refine ⟨?_, fun σ audience => ⟨Strokes.uninterrupted K audience, ?_⟩, ?_⟩
  · rw [world_settings s hstanding]
    exact steps_heardBy _ steps
  · exact Scene.own_after audience
  · exact Listener.left_after

/-- Nobody listens, or two do and the first panics each time. -/
theorem listeners_inert_panicking :
    let s : Setup Unit := { hierarchy := { parent := fun _ => none, label := fun _ => "" } }
    let l := [.listener (Record.listener "bad" .event .any true),
      .listener (Record.listener "good" .callback .any false)]
    let steps : List (Step Unit) :=
      [.call ⟨"db", none⟩ (.error ⟨(), "", ""⟩) (some [.command .snapshots])]
    let out := ({ s with blueprint := .settings [] } : Setup Unit).world.1.steps steps
    let out' := ({ s with blueprint := .settings l } : Setup Unit).world.1.steps steps
    SameReports (Blueprint.settings l).listeners out out' ∧
      out.2.map (·.records.length) = [0] ∧ out'.2.map (·.records.length) = [6] := by
  intro s l steps out out'
  exact ⟨(listeners_inert s [] l rfl steps).1, rfl, rfl⟩

end World

end Breaker
