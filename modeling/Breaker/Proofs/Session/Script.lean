import Breaker.Proofs.Session.Act

/-!
# What a command consists of

A command has motions take place one after the other: a call asks for its permit or gives it back,
an action ends, the registry is worked on, time passes. What comes next may depend on the reply to
the motion before. The `Script` of a command says so once for all commands, and to follow it is to
do the command (`command_eq_run`). So whatever holds of the motions holds of the commands and of the
acts, by induction over the motions that these consist of (`run_induction`).
-/

namespace Breaker

/-- Something that is done to the registry as a whole. -/
inductive RegistryCommand (K : Type) where
  | getOrCreate (name : String)
  | bindClassification (name : String) (f : Classifier K)
  | bindPolicy (name : String) (policy : Policy)
  | loadProperties (pairs : List (String × String))
  | snapshots

def RegistryCommand.run {K : Type} (command : RegistryCommand K) (r : Registry K) (now : Instant) :
    Registry K × List Effect × Answer K :=
  match command with
  | getOrCreate name =>
    let (r, effects, c) := r.getOrCreate name now
    (r, effects, .info c.info)
  | bindClassification name f =>
    let (r, effects, took) := r.bindClassification name f now
    (r, effects, .flag took)
  | bindPolicy name policy =>
    let (r, effects, took) := r.bindPolicy name policy now
    (r, effects, .flag took)
  | loadProperties pairs =>
    let (r, effects, loaded) := r.loadProperties pairs now
    (r, effects, .loaded loaded)
  | snapshots =>
    let (r, l) := r.snapshots now
    (r, [], .snapshots l)

/-- What takes place within an act. -/
inductive Motion (K : Type) where
  | enter (route : Route K)
  | settle (a : Address) (p : Permit) (action : Action Json (Failure K))
  | abandon (a : Address) (p : Permit)
  /-- A call is in flight from now on, in the place of the one under its identifier. -/
  | file (id : String) (call : Call K)
  | forget (id : String)
  | control (target : Target) (command : CircuitCommand K)
  | registry (command : RegistryCommand K)
  | advance (span : Duration)
  | makeCircuit (id name : String) (policy : Policy)
  | makeService (id : String) (ctx : CallContext K)
  | pollService (id : String) (readiness : Readiness (Failure K))

/-- What a motion is replied to with. -/
def Motion.Reply {K : Type} : Motion K → Type
  | enter _ => Except (CallResult Json (Failure K)) Permit
  | settle .. => CallResult Json (Failure K)
  | abandon .. | file .. | forget _ => Unit
  | control .. | registry _ | advance _ | makeCircuit .. | makeService .. | pollService .. =>
    Answer K

/-- The answer to a command that consists of this motion. -/
def Motion.answer {K : Type} : (m : Motion K) → m.Reply → Answer K
  | enter _, _ | settle .., _ | abandon .., _ | file .., _ | forget _, _ => .done
  | control .., answer | registry _, answer | advance _, answer | makeCircuit .., answer
  | makeService .., answer | pollService .., answer => answer

/-- The motion is about the end of a call, or about which ones are in flight. -/
def Motion.isClosing {K : Type} : Motion K → Bool
  | settle .. | abandon .. | file .. | forget _ => true
  | _ => false

/-- The motion is one of a call. -/
def Motion.isOfCall {K : Type} : Motion K → Bool
  | enter _ => true
  | m => m.isClosing

/-- Motions up to an answer; the later ones may depend on the replies to those before. -/
inductive Script (K : Type) where
  | done (answer : Answer K)
  | move (m : Motion K) (next : m.Reply → Script K)

variable {K : Type}

namespace Command

/-- The call that a command makes, goes on with or drops. -/
def call? : Command K → Option String
  | start id _ _ _ | poll id | finish id _ | cancel id => some id
  | _ => none

/-- The one motion of a command that has to do with no call. -/
def motion? : Command K → Option (Motion K)
  | advance span => some (.advance span)
  | makeService id ctx => some (.makeService id ctx)
  | pollService id readiness => some (.pollService id readiness)
  | getOrCreate name => some (.registry (.getOrCreate name))
  | snapshots => some (.registry .snapshots)
  | bindPolicy name (.ok policy) => some (.registry (.bindPolicy name policy))
  | bindClassification name f => some (.registry (.bindClassification name f))
  | loadProperties pairs => some (.registry (.loadProperties pairs))
  | makeCircuit id name (.ok policy) => some (.makeCircuit id name policy)
  | circuit t command => some (.control t command)
  | _ => none

/-- The command has nothing take place and is answered from what there is. -/
inductive Looks : Command K → Prop
  | countRequests (id : String) : Looks (.countRequests id)
  | get (name : String) : Looks (.get name)
  | isKnown (name : String) : Looks (.isKnown name)
  | isConfigured (name : String) : Looks (.isConfigured name)
  | list : Looks .list
  | openCircuits : Looks .openCircuits
  | inspect (shown : Shown) : Looks (.inspect shown)
  | metrics : Looks .metrics
  | noPolicy (name : String) (e : PolicyError) : Looks (.bindPolicy name (.error e))
  | noCircuit (id name : String) (e : PolicyError) : Looks (.makeCircuit id name (.error e))

theorem looks_of_motion?_eq_none {command : Command K} (hcall : command.call? = none)
    (hmotion : command.motion? = none) : command.Looks := by
  cases command with
  | bindPolicy name policy =>
    cases policy with
    | error e => exact .noPolicy name e
    | ok policy => cases hmotion
  | makeCircuit id name policy =>
    cases policy with
    | error e => exact .noCircuit id name e
    | ok policy => cases hmotion
  | countRequests id => exact .countRequests id
  | get name => exact .get name
  | isKnown name => exact .isKnown name
  | isConfigured name => exact .isConfigured name
  | list => exact .list
  | openCircuits => exact .openCircuits
  | inspect shown => exact .inspect shown
  | metrics => exact .metrics
  | start id origin outcome unpolled => cases hcall
  | poll id => cases hcall
  | finish id outcome => cases hcall
  | cancel id => cases hcall
  | _ => cases hmotion

theorem isOfCall_of_motion? {command : Command K} {m : Motion K}
    (h : command.motion? = some m) : m.isOfCall = false := by
  cases command with
  | bindPolicy name policy => cases policy <;> cases h; rfl
  | makeCircuit id name policy => cases policy <;> cases h; rfl
  | _ => cases h <;> rfl

end Command

namespace Script

/-- How a call goes on that has its permit. -/
def proceed (id : String) (call : Call K) (p : Permit) : Script K :=
  match call.outcome with
  | none => .move (.file id { call with permit := some p }) fun _ => .done (.pending true)
  | some action =>
    .move (.settle call.route.address p action) fun result =>
      .move (.forget id) fun _ => .done (.ended result true)

def poll (id : String) (call : Call K) : Script K :=
  match call.permit with
  | some p => proceed id call p
  | none =>
    .move (.enter call.route) fun
      | .error result => .move (.forget id) fun _ => .done (.ended result false)
      | .ok p => proceed id call p

/-- The call under the identifier is dropped, if there is one. -/
def drop (id : String) (call? : Option (Call K)) (next : Script K) : Script K :=
  match call? with
  | none => next
  | some call =>
    .move (.forget id) fun _ =>
      match call.permit with
      | none => next
      | some p => .move (.abandon call.route.address p) fun _ => next

/-- A call is made on the way that has been found, if one has. -/
def start (id : String) (route? : Except (Answer K) (Route K)) (call? : Option (Call K))
    (outcome : Option (Action Json (Failure K))) (unpolled : Bool) : Script K :=
  match route? with
  | .error answer => .done answer
  | .ok route =>
    drop id call? <|
      if unpolled then .move (.file id { route, outcome }) fun _ => .done (.pending false)
      else poll id { route, outcome }

def resume (id : String) (call? : Option (Call K)) (outcome : Option (Action Json (Failure K))) :
    Script K :=
  match call? with
  | none => .done .noSuchCall
  | some call => poll id { call with outcome := outcome <|> call.outcome }

/-- One motion at most. -/
def single (m? : Option (Motion K)) (answer : Answer K) : Script K :=
  match m? with
  | none => .done answer
  | some m => .move m fun reply => .done (m.answer reply)

/-- Whatever is replied, all motions are of this kind. -/
def Uses (P : Motion K → Prop) : Script K → Prop
  | done _ => True
  | move m next => P m ∧ ∀ reply, (next reply).Uses P

/-- There is this one motion, if any, among others that are about the ends of calls. -/
def Opens (m? : Option (Motion K)) : Script K → Prop
  | done _ => m? = none
  | move m next =>
    m.isClosing = true ∧ (∀ reply, (next reply).Opens m?) ∨
      m? = some m ∧ ∀ reply, (next reply).Uses (·.isClosing = true)

/-- All that has to do with the call under the identifier is of this kind. -/
structure Handles (P : Motion K → Prop) (id : String) (route : Route K) : Prop where
  enter : P (.enter route)
  settle : ∀ p action, P (.settle route.address p action)
  abandon : ∀ p, P (.abandon route.address p)
  file : ∀ permit outcome, P (.file id { route, permit, outcome })
  forget : P (.forget id)

variable {P : Motion K → Prop} {id : String} {call : Call K} {call? : Option (Call K)}

theorem uses_poll (h : Handles P id call.route) : (poll id call).Uses P := by
  have hproceed : ∀ p, (proceed id call p).Uses P := by
    intro p
    unfold proceed
    cases call.outcome with
    | none => exact ⟨h.file _ _, fun _ => trivial⟩
    | some action => exact ⟨h.settle p action, fun _ => ⟨h.forget, fun _ => trivial⟩⟩
  unfold poll
  cases call.permit with
  | some p => exact hproceed p
  | none =>
    refine ⟨h.enter, fun reply => ?_⟩
    cases reply with
    | error result => exact ⟨h.forget, fun _ => trivial⟩
    | ok p => exact hproceed p

theorem uses_drop (h : ∀ call, call? = some call → Handles P id call.route) {next : Script K}
    (hnext : next.Uses P) : (drop id call? next).Uses P := by
  cases call? with
  | none => exact hnext
  | some call =>
    refine ⟨(h call rfl).forget, fun _ => ?_⟩
    cases call.permit with
    | none => exact hnext
    | some p => exact ⟨(h call rfl).abandon p, fun _ => hnext⟩

theorem uses_start {route? : Except (Answer K) (Route K)} {unpolled : Bool}
    {outcome : Option (Action Json (Failure K))}
    (hfile : ∀ route, route? = .ok route → P (.file id { route, outcome }))
    (hroute : unpolled = false → ∀ route, route? = .ok route → Handles P id route)
    (hcall : ∀ call, call? = some call → Handles P id call.route) :
    (start id route? call? outcome unpolled).Uses P := by
  cases route? with
  | error answer => trivial
  | ok route =>
    refine uses_drop hcall ?_
    cases unpolled with
    | true => exact ⟨hfile route rfl, fun _ => trivial⟩
    | false =>
      have hpoll : (poll id { route, outcome }).Uses P := uses_poll (hroute rfl route rfl)
      exact hpoll

theorem uses_resume (hcall : ∀ call, call? = some call → Handles P id call.route)
    (outcome : Option (Action Json (Failure K))) : (resume id call? outcome).Uses P := by
  cases call? with
  | none => trivial
  | some call => exact uses_poll (hcall call rfl)

theorem uses_single {m? : Option (Motion K)} (h : ∀ m, m? = some m → P m) (answer : Answer K) :
    (single m? answer).Uses P := by
  cases m? with
  | none => trivial
  | some m => exact ⟨h m rfl, fun _ => trivial⟩

theorem uses_of_forall (h : ∀ m, P m) (script : Script K) : script.Uses P := by
  induction script with
  | done answer => trivial
  | move m next ih => exact ⟨h m, ih⟩

/-! ### The one motion that is not about the end of a call -/

theorem opens_of_uses {script : Script K} (h : script.Uses (·.isClosing = true)) :
    script.Opens none := by
  induction script with
  | done answer => rfl
  | move m next ih => exact .inl ⟨h.1, fun reply => ih reply (h.2 reply)⟩

theorem uses_proceed (id : String) (call : Call K) (p : Permit) :
    (proceed id call p).Uses (·.isClosing = true) := by
  unfold proceed
  cases call.outcome with
  | none => exact ⟨rfl, fun _ => trivial⟩
  | some action => exact ⟨rfl, fun _ => ⟨rfl, fun _ => trivial⟩⟩

theorem opens_single (m? : Option (Motion K)) (answer : Answer K) :
    (single m? answer).Opens m? := by
  cases m? with
  | none => rfl
  | some m => exact .inr ⟨rfl, fun _ => trivial⟩

theorem opens_poll (id : String) (call : Call K) :
    (poll id call).Opens (if call.permit.isNone then some (.enter call.route) else none) := by
  unfold poll
  cases call.permit with
  | some p => exact opens_of_uses (uses_proceed id call p)
  | none =>
    refine .inr ⟨rfl, fun reply => ?_⟩
    cases reply with
    | error result => exact ⟨rfl, fun _ => trivial⟩
    | ok p => exact uses_proceed id call p

theorem opens_drop {m? : Option (Motion K)} {next : Script K} (h : next.Opens m?) :
    (drop id call? next).Opens m? := by
  cases call? with
  | none => exact h
  | some call =>
    refine .inl ⟨rfl, fun _ => ?_⟩
    cases call.permit with
    | none => exact h
    | some p => exact .inl ⟨rfl, fun _ => h⟩

end Script

namespace World

variable [DecidableEq K]

omit [DecidableEq K] in
/-- A permit is given back without the action having ended. -/
def abandonAt (w : World K) (a : Address) (p : Permit) : World K × List Effect × Unit :=
  match w.circuit? a with
  | none => (w, [], ())
  | some c => w.onCircuit a c fun c now =>
    let (c, effects) := c.abandon now p
    (c, effects, ())

def move (w : World K) : (m : Motion K) → World K × List Effect × m.Reply
  | .enter route => w.enter route
  | .settle a p action => w.settle a p action
  | .abandon a p => w.abandonAt a p
  | .file id call => ({ w with calls := w.calls.insert id call }, [], ())
  | .forget id => (w.forget id, [], ())
  | .control t command => w.commandCircuit t command
  | .registry command => w.onRegistry command.run
  | .advance span => w.advance span
  | .makeCircuit id name policy => w.makeCircuit id name policy
  | .makeService id ctx => w.makeService id ctx
  | .pollService id readiness => w.pollService id readiness

def run (w : World K) : Script K → World K × List Effect × Answer K
  | .done answer => (w, [], answer)
  | .move m next =>
    let (w, effects, reply) := w.move m
    let (w, more, answer) := w.run (next reply)
    (w, effects ++ more, answer)

/-- What a command consists of. -/
def script (w : World K) : Command K → Script K
  | .start id origin outcome unpolled =>
    .start id (w.route origin) (w.calls.get? id) outcome unpolled
  | .poll id => .resume id (w.calls.get? id) none
  | .finish id outcome => .resume id (w.calls.get? id) (some outcome)
  | .cancel id => .drop id (w.calls.get? id) (.done (.flag (w.calls.get? id).isSome))
  | c => .single c.motion? (w.command c).2.2

variable {w : World K} {id : String}

/-! ## To follow the script is to do the command -/

theorem run_done (w : World K) (answer : Answer K) : w.run (.done answer) = (w, [], answer) := rfl

theorem run_move (w : World K) (m : Motion K) (next : m.Reply → Script K) :
    w.run (.move m next) =
      (((w.move m).1.run (next (w.move m).2.2)).1,
        (w.move m).2.1 ++ ((w.move m).1.run (next (w.move m).2.2)).2.1,
        ((w.move m).1.run (next (w.move m).2.2)).2.2) := rfl

theorem run_single (w : World K) (m? : Option (Motion K)) (answer : Answer K) :
    w.run (.single m? answer) = m?.elim (w, [], answer) fun m =>
      ((w.move m).1, (w.move m).2.1, m.answer (w.move m).2.2) := by
  cases m? with
  | none => rfl
  | some m =>
    show w.run (.move m fun reply => .done (m.answer reply)) = _
    rw [run_move, run_done, List.append_nil]
    rfl

/-- What calls are in flight is no business of anybody's. -/
theorem run_file (w : World K) (id : String) (call : Call K)
    (next : (Motion.file id call).Reply → Script K) :
    w.run (.move (.file id call) next) =
      ({ w with calls := w.calls.insert id call } : World K).run (next ()) := rfl

theorem run_forget (w : World K) (id : String)
    (next : (Motion.forget (K := K) id).Reply → Script K) :
    w.run (.move (.forget id) next) = (w.forget id).run (next ()) := rfl

theorem run_proceed (w : World K) (id : String) (call : Call K) (p : Permit) :
    w.run (.proceed id call p) =
      ((w.proceed id call p).1, (w.proceed id call p).2.1,
        Progress.answer (w.proceed id call p).2.2) := by
  unfold Script.proceed World.proceed
  cases call.outcome with
  | none => rfl
  | some action =>
    rw [run_move, run_forget, run_done, List.append_nil]
    rfl

theorem run_poll (w : World K) (id : String) (call : Call K) :
    w.run (.poll id call) =
      ((w.poll id call).1, (w.poll id call).2.1, Progress.answer (w.poll id call).2.2) := by
  unfold Script.poll World.poll
  cases call.permit with
  | some p => exact w.run_proceed id call p
  | none =>
    have hmove : w.move (.enter call.route) = w.enter call.route := rfl
    dsimp only
    rw [run_move, hmove]
    rcases w.enter call.route with ⟨w', effects, answer⟩
    cases answer with
    | error result =>
      dsimp only
      rw [run_forget, run_done, List.append_nil]
      rfl
    | ok p =>
      dsimp only
      rw [run_proceed]

theorem run_drop (w : World K) (id : String) (next : Script K) :
    w.run (.drop id (w.calls.get? id) next) =
      (((w.dropCall id).1.run next).1, (w.dropCall id).2 ++ ((w.dropCall id).1.run next).2.1,
        ((w.dropCall id).1.run next).2.2) := by
  unfold Script.drop World.dropCall
  cases w.calls.get? id with
  | none => rfl
  | some call =>
    unfold World.drop
    dsimp only
    rw [run_forget]
    cases call.permit with
    | none => rfl
    | some p =>
      dsimp only
      rw [run_move, World.move, World.abandonAt]
      cases (w.forget id).circuit? call.route.address <;> rfl

theorem script_of_call?_eq_none {command : Command K} (h : command.call? = none) :
    w.script command = .single command.motion? (w.command command).2.2 := by
  cases command with
  | start id origin outcome unpolled => cases h
  | poll id => cases h
  | finish id outcome => cases h
  | cancel id => cases h
  | _ => rfl

/-- A command that has to do with no call is done by its one motion, if it has one. -/
theorem command_of_call?_eq_none (w : World K) {command : Command K} (h : command.call? = none) :
    w.command command = command.motion?.elim (w, [], (w.command command).2.2) fun m =>
      ((w.move m).1, (w.move m).2.1, m.answer (w.move m).2.2) := by
  cases command with
  | start id origin outcome unpolled => cases h
  | poll id => cases h
  | finish id outcome => cases h
  | cancel id => cases h
  | bindPolicy name policy => cases policy <;> rfl
  | makeCircuit id name policy => cases policy <;> rfl
  | _ => rfl

/-- **To follow the script of a command is to do the command.** -/
theorem command_eq_run (w : World K) (command : Command K) :
    w.command command = w.run (w.script command) := by
  have single (h : command.call? = none) :
      w.command command = w.run (w.script command) := by
    rw [script_of_call?_eq_none h, run_single]
    exact w.command_of_call?_eq_none h
  cases command with
  | start id origin outcome unpolled =>
    show w.startCall id origin outcome unpolled =
      w.run (.start id (w.route origin) (w.calls.get? id) outcome unpolled)
    unfold World.startCall Script.start
    cases w.route origin with
    | error answer => rfl
    | ok route =>
      dsimp only
      rw [run_drop]
      cases unpolled with
      | true => simp only [↓reduceIte, run_file, run_done, List.append_nil]
      | false => simp only [Bool.false_eq_true, ↓reduceIte, run_poll]
  | poll id =>
    show w.pollCall id none = w.run (.resume id (w.calls.get? id) none)
    unfold World.pollCall Script.resume
    cases w.calls.get? id with
    | none => rfl
    | some call => exact (w.run_poll id _).symm
  | finish id outcome =>
    show w.pollCall id (some outcome) = w.run (.resume id (w.calls.get? id) (some outcome))
    unfold World.pollCall Script.resume
    cases w.calls.get? id with
    | none => rfl
    | some call => exact (w.run_poll id _).symm
  | cancel id =>
    show w.cancelCall id = w.run (.drop id (w.calls.get? id) (.done _))
    rw [run_drop, run_done, List.append_nil]
    rfl
  | _ => exact single rfl

/-- What holds in a world, and after its one motion, holds after a command without a call. -/
theorem fst_command_induction {P : World K → Prop} {command : Command K}
    (hcall : command.call? = none) (hstill : P w)
    (hmove : ∀ m, m.isOfCall = false → P (w.move m).1) : P (w.command command).1 := by
  rw [command_of_call?_eq_none w hcall]
  cases hm : command.motion? with
  | none => exact hstill
  | some m => exact hmove m (Command.isOfCall_of_motion? hm)

/-! ## The motions of a command -/

/-- The way of the call that a command polls for the first time. -/
def polls? (w : World K) : Command K → Option (Route K)
  | .start _ origin _ false => (w.route origin).toOption
  | .poll id | .finish id _ =>
    (w.calls.get? id).bind fun call => if call.permit.isNone then some call.route else none
  | _ => none

omit [DecidableEq K] in
theorem polls?_of_call?_eq_none {command : Command K} (h : command.call? = none) :
    w.polls? command = none := by
  cases command with
  | start id origin outcome unpolled => cases h
  | poll id => cases h
  | finish id outcome => cases h
  | _ => rfl

/-- The command polls or drops a call under the identifier that is on this way. -/
inductive Drives (w : World K) : Command K → String → Route K → Prop
  | makes {id : String} {origin : Origin K} {outcome : Option (Action Json (Failure K))}
    {route : Route K} (found : w.route origin = .ok route) :
    Drives w (.start id origin outcome false) id route
  | goesOn {command : Command K} {id : String} {call : Call K} (names : command.call? = some id)
    (inFlight : w.calls.get? id = some call) : Drives w command id call.route

/-- All motions of a command have to do with its calls, but for the one it may have otherwise. -/
theorem uses_script {P : Motion K → Prop} {command : Command K}
    (hmakes : ∀ id origin outcome unpolled route, command = .start id origin outcome unpolled →
      w.route origin = .ok route → P (.file id { route, outcome }))
    (hcalls : ∀ id route, w.Drives command id route → Script.Handles P id route)
    (hmotion : ∀ m, command.motion? = some m → P m) : (w.script command).Uses P := by
  have single (h : command.call? = none) : (w.script command).Uses P := by
    rw [script_of_call?_eq_none h]
    exact Script.uses_single hmotion (w.command command).2.2
  cases command with
  | start id origin outcome unpolled =>
    refine Script.uses_start (fun route => hmakes id origin outcome unpolled route rfl)
      (fun hpolled route hroute => ?_) fun call hcall => hcalls id call.route (.goesOn rfl hcall)
    subst hpolled
    exact hcalls id route (.makes hroute)
  | poll id =>
    exact Script.uses_resume (fun call hcall => hcalls id call.route (.goesOn rfl hcall)) none
  | finish id outcome =>
    exact Script.uses_resume (fun call hcall => hcalls id call.route (.goesOn rfl hcall))
      (some outcome)
  | cancel id =>
    have hdone : (Script.done (.flag (w.calls.get? id).isSome) : Script K).Uses P := trivial
    exact Script.uses_drop (fun call hcall => hcalls id call.route (.goesOn rfl hcall)) hdone
  | _ => exact single rfl

/-- A command has one motion at most that is not about the end of a call. -/
theorem opens_script (w : World K) (command : Command K) :
    (w.script command).Opens (((w.polls? command).map .enter).or command.motion?) := by
  have single (h : command.call? = none) :
      (w.script command).Opens (((w.polls? command).map .enter).or command.motion?) := by
    rw [script_of_call?_eq_none h, polls?_of_call?_eq_none h, Option.map_none, Option.none_or]
    exact Script.opens_single command.motion? (w.command command).2.2
  have resumes : ∀ id outcome, (Script.resume id (w.calls.get? id) outcome).Opens
      ((((w.calls.get? id).bind fun call =>
        if call.permit.isNone then some call.route else none).map .enter).or none) := by
    intro id outcome
    cases w.calls.get? id with
    | none => rfl
    | some call =>
      have hpoll := Script.opens_poll id { call with outcome := outcome <|> call.outcome }
      rw [Option.or_none, Option.bind_some, apply_ite (Option.map Motion.enter)]
      exact hpoll
  cases command with
  | start id origin outcome unpolled =>
    show (Script.start id (w.route origin) (w.calls.get? id) outcome unpolled).Opens _
    cases hroute : w.route origin with
    | error answer => cases unpolled <;> simp only [polls?, hroute] <;> rfl
    | ok route =>
      refine Script.opens_drop ?_
      cases unpolled with
      | true => exact .inl ⟨rfl, fun _ => rfl⟩
      | false =>
        simp only [polls?, hroute]
        exact Script.opens_poll id { route, outcome }
  | poll id => exact resumes id none
  | finish id outcome => exact resumes id (some outcome)
  | cancel id => exact Script.opens_drop rfl
  | _ => exact single rfl

/-! ## One world -/

/-- The script of an act; halves of calls that block are motions themselves. -/
def actScript (w : World K) : Act K → Script K
  | .command c => w.script c
  | .enter route => .single (some (.enter route)) .done
  | .settle a p action => .single (some (.settle a p action)) .done

/-- The motion of an act that is not about the end of a call, if it has one. -/
def opening? (w : World K) : Act K → Option (Motion K)
  | .command c => ((w.polls? c).map .enter).or c.motion?
  | .enter route => some (.enter route)
  | .settle .. => none

theorem opens_actScript (w : World K) (act : Act K) :
    (w.actScript act).Opens (w.opening? act) := by
  cases act with
  | command c => exact w.opens_script c
  | enter route => exact .inr ⟨rfl, fun _ => trivial⟩
  | settle a p action => exact .inl ⟨rfl, fun _ => rfl⟩

/-- The motions that take place when the script is followed. -/
def motionsOf (w : World K) : Script K → List (Motion K)
  | .done _ => []
  | .move m next => m :: (w.move m).1.motionsOf (next (w.move m).2.2)

/-- The motions that an act consists of. -/
def motions (w : World K) (act : Act K) : List (Motion K) := w.motionsOf (w.actScript act)

theorem forall_motionsOf {P : Motion K → Prop} {script : Script K} (h : script.Uses P)
    (w : World K) : ∀ m ∈ w.motionsOf script, P m := by
  induction script generalizing w with
  | done answer => exact List.forall_mem_nil _
  | move m next ih => exact List.forall_mem_cons.2 ⟨h.1, ih _ (h.2 _) _⟩

theorem motionsOf_of_opens {m? : Option (Motion K)} {script : Script K} (h : script.Opens m?)
    (w : World K) : ∃ before after, w.motionsOf script = before ++ m?.toList ++ after ∧
      (∀ m ∈ before, m.isClosing = true) ∧ ∀ m ∈ after, m.isClosing = true := by
  induction script generalizing w with
  | done answer =>
    cases h
    exact ⟨[], [], rfl, List.forall_mem_nil _, List.forall_mem_nil _⟩
  | move m next ih =>
    rcases h with ⟨hm, hrest⟩ | ⟨rfl, hrest⟩
    · obtain ⟨before, after, heq, hbefore, hafter⟩ := ih _ (hrest _) _
      refine ⟨m :: before, after, ?_, List.forall_mem_cons.2 ⟨hm, hbefore⟩, hafter⟩
      rw [motionsOf, heq, List.cons_append, List.cons_append]
    · exact ⟨[], _, rfl, List.forall_mem_nil _, forall_motionsOf (hrest _) _⟩

/-- What an act leads to. -/
def effectsOf (w : World K) : Act K → List Effect
  | .command command => (w.command command).2.1
  | .enter route => (w.enter route).2.1
  | .settle a p action => (w.settle a p action).2.1

theorem perform_eq (w : World K) (act : Act K) : w.perform act = (w.run (w.actScript act)).1 := by
  cases act with
  | command c => exact congrArg Prod.fst (w.command_eq_run c)
  | enter route => rfl
  | settle a p action => rfl

theorem effectsOf_eq (w : World K) (act : Act K) :
    w.effectsOf act = (w.run (w.actScript act)).2.1 := by
  cases act with
  | command c => exact congrArg (·.2.1) (w.command_eq_run c)
  | enter route => exact (List.append_nil _).symm
  | settle a p action => exact (List.append_nil _).symm

/-- What holds of no motion, and of one more motion before others, holds of every script. -/
theorem run_induction {P : Motion K → Prop}
    {T : World K → List (Motion K) → World K → List Effect → Prop}
    (nil : ∀ w, T w [] w [])
    (cons : ∀ w m ms w' effects, P m → T (w.move m).1 ms w' effects →
      T w (m :: ms) w' ((w.move m).2.1 ++ effects))
    {script : Script K} (h : script.Uses P) (w : World K) :
    T w (w.motionsOf script) (w.run script).1 (w.run script).2.1 := by
  induction script generalizing w with
  | done answer => exact nil w
  | move m next ih => exact cons w m _ _ _ h.1 (ih _ (h.2 _) _)

end World

end Breaker
