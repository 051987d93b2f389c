import Breaker.Proofs.Session.Deeds
import Breaker.Proofs.Session.View

/-!
# Steps at a name

`w.subject? owner step` is the name that a step is addressed at, if there is one: that of the
circuit it calls or commands, or the owner of the call it goes on with. Such a step is confined to
its name (`confined_step`), and time passes for all names alike (`Agree.advance`).
-/

namespace Breaker

open Effect (OnlyAbout)

variable {K : Type}

/-- The name that a command to the registry is about. -/
def RegistryCommand.name? : RegistryCommand K → Option String
  | getOrCreate name | bindPolicy name _ | bindClassification name _ => some name
  | loadProperties _ | snapshots => none

/-- The motion is at the name, or at calls that belong to it. -/
def Motion.IsAt (owner : String → Option String) (name : String) : Motion K → Prop
  | enter route => route.address = .named name
  | settle a _ _ | abandon a _ => a = .named name
  | file id call => owner id = some name ∧ call.route.address = .named name
  | forget id => owner id = some name
  | control t _ => t = .named name
  | registry command => command.name? = some name
  | _ => False

namespace World

/-- The name that calls from there go to. -/
def target? (w : World K) : Origin K → Option String
  | .gateway ctx => some ctx.name
  | .service id => (w.service id).toOption.map fun (_, s) => s.name
  | .direct (.named name) => some name
  | .direct (.standalone _) => none

/-- The name that the step is addressed at, with no steps inside it. To start a call drops the one
that was in flight under its identifier, so the new one has to go to the owner as well. -/
def subject? (owner : String → Option String) (w : World K) : Step K → Option String
  | .call ctx _ none => some ctx.name
  | .invoke (.named name) _ none => some name
  | .command (.start id origin _ _) => (w.target? origin).filter fun name => owner id = some name
  | .command (.poll id) | .command (.finish id _) | .command (.cancel id) => owner id
  | .command (.getOrCreate name) | .command (.get name) | .command (.isKnown name)
  | .command (.isConfigured name) | .command (.bindPolicy name _)
  | .command (.bindClassification name _) | .command (.circuit (.named name) _)
  | .command (.inspect (.circuit (.named name))) => some name
  | _ => none

variable {owner : String → Option String} {name id sid : String} {w v : World K} {call : Call K}
  {origin : Origin K} {way : Route K} {command : Command K} {step : Step K}

/-! ## What the name sees of the ways to it -/

/-- Services are the same for all names but for their requests. -/
theorem service_congr (h : v.surroundings = w.surroundings) (sid : String) :
    (∃ answer, w.service sid = .error answer ∧ v.service sid = .error answer) ∨
      ∃ number s s', w.service sid = .ok (number, s) ∧ v.service sid = .ok (number, s') ∧
        s'.name = s.name ∧ s'.rule = s.rule := by
  have hids : v.serviceIds = w.serviceIds := congrArg Surroundings.serviceIds h
  have hservices : v.services.map Service.plain = w.services.map Service.plain :=
    congrArg Surroundings.services h
  unfold World.service
  rw [hids]
  cases w.serviceIds.get? sid with
  | none => exact .inl ⟨_, rfl, rfl⟩
  | some number =>
    have hplain : v.services[number]?.map Service.plain =
        w.services[number]?.map Service.plain := by
      rw [← List.getElem?_map, hservices, List.getElem?_map]
    cases hs : w.services[number]? with
    | none =>
      rw [hs, Option.map_none, Option.map_eq_none_iff] at hplain
      simp only [hs, hplain]
      exact .inl ⟨_, rfl, rfl⟩
    | some s =>
      rw [hs, Option.map_some] at hplain
      obtain ⟨s', hs', hplain⟩ := Option.map_eq_some_iff.1 hplain
      have hname : s'.plain.name = s.plain.name := congrArg Service.name hplain
      have hrule : s'.plain.rule = s.plain.rule := congrArg Service.rule hplain
      simp only [hs, hs']
      exact .inr ⟨number, s, s', rfl, rfl, hname, hrule⟩

theorem target?_congr (h : v.surroundings = w.surroundings) (origin : Origin K) :
    v.target? origin = w.target? origin := by
  cases origin with
  | gateway ctx => rfl
  | direct t => cases t <;> rfl
  | service sid =>
    rcases service_congr h sid with ⟨answer, hs, hs'⟩ | ⟨number, s, s', hs, hs', hname, -⟩
    · simp only [target?, hs, hs']
    · simp only [target?, hs, hs']
      exact congrArg some hname

theorem subject?_congr (h : v.surroundings = w.surroundings) (step : Step K) :
    v.subject? owner step = w.subject? owner step := by
  cases step with
  | call ctx action during => cases during <;> rfl
  | invoke t action during => cases t <;> cases during <;> rfl
  | command c =>
    cases c with
    | start id origin outcome unpolled =>
      exact congrArg (Option.filter fun name => owner id = some name) (target?_congr h origin)
    | circuit t command => cases t <;> rfl
    | inspect shown =>
      cases shown with
      | circuit t => cases t <;> rfl
      | _ => rfl
    | _ => rfl

theorem Agree.contains (h : w.Agree owner name v) :
    v.gateway.registry.contains name = w.gateway.registry.contains name :=
  Registry.contains_congr h.entry

theorem Agree.address? (h : w.Agree owner name v) :
    v.address? (.named name) = w.address? (.named name) := by
  simp only [World.address?, h.contains]

theorem address?_named {a : Address} (h : w.address? (.named name) = .ok a) : a = .named name := by
  simp only [World.address?] at h
  split at h
  · cases h
    rfl
  · cases h

theorem Agree.route (h : w.Agree owner name v) (htarget : w.target? origin = some name) :
    v.route origin = w.route origin := by
  cases origin with
  | gateway ctx => rfl
  | direct t =>
    cases t with
    | named n =>
      cases htarget
      exact congrArg (Except.map Route.direct) h.address?
    | standalone sid => cases htarget
  | service sid =>
    rw [route_service, route_service]
    rcases service_congr h.surroundings sid with
      ⟨answer, hs, hs'⟩ | ⟨number, s, s', hs, hs', hname, hrule⟩
    · rw [hs, hs']
    · rw [hs, hs']
      simp only [Except.map, hname, hrule]
      rfl

/-- A call goes where its origin says. -/
theorem address_route (htarget : w.target? origin = some name) (hroute : w.route origin = .ok way) :
    way.address = .named name := by
  cases origin with
  | gateway ctx =>
    cases htarget
    cases hroute
    rfl
  | direct t =>
    cases t with
    | named n =>
      cases htarget
      cases ha : w.address? (.named name) with
      | error answer => simp only [World.route, ha, Except.map, reduceCtorEq] at hroute
      | ok a =>
        simp only [World.route, ha, Except.map, Except.ok.injEq] at hroute
        rw [← hroute]
        exact address?_named ha
    | standalone sid => cases htarget
  | service sid =>
    rw [route_service] at hroute
    cases hs : w.service sid with
    | error answer =>
      simp only [target?, hs] at htarget
      cases htarget
    | ok found =>
      simp only [target?, hs] at htarget
      rw [hs] at hroute
      cases htarget
      cases hroute
      rfl

/-! ## Commands -/

theorem Agree.locate (h : w.Agree owner name v) :
    v.locate (.named name) = w.locate (.named name) := by
  unfold World.locate
  rw [h.address?]
  cases ha : w.address? (.named name) with
  | error answer => rfl
  | ok a =>
    cases address?_named ha
    simp only [h.circuit?]

theorem address_locate {a : Address} {c : Circuit K} (h : w.locate (.named name) = .ok (a, c)) :
    a = .named name := by
  unfold World.locate at h
  cases ha : w.address? (.named name) with
  | error answer => simp only [ha, reduceCtorEq] at h
  | ok b =>
    simp only [ha] at h
    split at h
    · cases h
      exact address?_named ha
    · cases h

theorem confined_commandCircuit (h : w.Agree owner name v) (command : CircuitCommand K) :
    Confined owner name w (w.commandCircuit (.named name) command)
      (v.commandCircuit (.named name) command) := by
  unfold World.commandCircuit
  rw [h.locate]
  cases hl : w.locate (.named name) with
  | error answer => exact .still h rfl
  | ok found =>
    obtain ⟨a, c⟩ := found
    cases address_locate hl
    have hdoes := (Operation.control command).does c w.clock
    exact h.onCircuit (circuit?_of_locate hl) command.run hdoes.name_eq hdoes.onlyAbout

theorem confined_registry (h : w.Agree owner name v) {command : RegistryCommand K}
    (hname : command.name? = some name) :
    Confined owner name w (w.onRegistry command.run) (v.onRegistry command.run) := by
  cases command with
  | getOrCreate n =>
    cases hname
    have hmade := h.onRegistry (·.getOrCreate name ·) (Registry.local_getOrCreate name w.clock)
    exact hmade.map (f := fun c => Answer.info c.info) rfl
  | bindPolicy n policy =>
    cases hname
    have hbound := h.onRegistry (·.bindPolicy name policy ·)
      (Registry.local_bindPolicy name policy w.clock)
    exact hbound.map (f := Answer.flag) rfl
  | bindClassification n f =>
    cases hname
    have hbound := h.onRegistry (·.bindClassification name f ·)
      (Registry.local_bindClassification name f w.clock)
    exact hbound.map (f := Answer.flag) rfl
  | loadProperties pairs => cases hname
  | snapshots => cases hname

variable [DecidableEq K]

/-- **A motion at a name is confined to it.** -/
theorem confined_move (h : w.Agree owner name v) {m : Motion K} (hm : m.IsAt owner name) :
    Confined owner name w (w.move m) (v.move m) := by
  cases m with
  | enter route => exact confined_enter h hm
  | settle a p action =>
    cases hm
    exact confined_settle h p action
  | abandon a p =>
    cases hm
    exact confined_abandonAt h p
  | file id call => exact ⟨moves_board h hm.1 hm.2, rfl, .nil⟩
  | forget id => exact ⟨moves_forget h hm, rfl, .nil⟩
  | control t command =>
    cases hm
    exact confined_commandCircuit h command
  | registry command => exact confined_registry h hm
  | _ => cases hm

/-- What has become of two worlds since `w`, by motions at the name. -/
def atName (owner : String → Option String) (name : String) (w : World K) : Likeness K where
  __ := Likeness.sameAnswers (w.Moves owner name)
  effects effects effects' := effects' = effects ∧ OnlyAbout name effects
  nil := ⟨rfl, .nil⟩
  append h h' := ⟨congrArg₂ (· ++ ·) h.1 h'.1, h.2.append h'.2⟩

theorem respects_atName (owner : String → Option String) (name : String) (w : World K) :
    (atName owner name w).Respects (·.IsAt owner name) := by
  intro m hm w' v' h
  have hmove := confined_move h.agree hm
  exact .of_eq (h.trans hmove.moves) ⟨congrArg Prod.fst hmove.same, hmove.onlyAbout⟩
    (congrArg Prod.snd hmove.same)

/-! ## Commands -/

omit [DecidableEq K] in
theorem owner_of_subject? (h : w.subject? owner (.command command) = some name)
    (hid : command.call? = some id) : owner id = some name := by
  cases command with
  | start id' origin outcome unpolled =>
    cases hid
    exact of_decide_eq_true (Option.filter_eq_some_iff.1 h).2
  | poll id' | finish id' outcome | cancel id' =>
    cases hid
    exact h
  | _ => cases hid

/-- What is looked at of a name is the same for it. -/
theorem Agree.looks (h : w.Agree owner name v) (hlooks : command.Looks)
    (hsubject : w.subject? owner (.command command) = some name) :
    (v.command command).2.2 = (w.command command).2.2 := by
  cases hlooks with
  | get n =>
    cases hsubject
    have hcircuit : v.gateway.registry.circuit? name = w.gateway.registry.circuit? name :=
      h.circuit?
    simp only [World.command, World.get, hcircuit]
  | isKnown n =>
    cases hsubject
    exact congrArg Answer.flag h.contains
  | isConfigured n =>
    cases hsubject
    simp only [World.command, World.isConfigured, Registry.isConfigured?, h.entry]
  | noPolicy n e => rfl
  | inspect shown =>
    cases shown with
    | circuit t =>
      cases t with
      | named n =>
        cases hsubject
        simp only [World.command, World.inspect, h.locate]
      | standalone id => cases hsubject
    | registry => cases hsubject
    | gateway => cases hsubject
  | _ => cases hsubject

omit [DecidableEq K] in
theorem isAt_of_motion? {m : Motion K}
    (hsubject : w.subject? owner (.command command) = some name) (hm : command.motion? = some m) :
    m.IsAt owner name := by
  cases command with
  | getOrCreate n => cases hsubject; cases hm; rfl
  | bindClassification n f => cases hsubject; cases hm; rfl
  | bindPolicy n policy =>
    cases hsubject
    cases policy <;> cases hm
    rfl
  | circuit t command =>
    cases t with
    | named n => cases hsubject; cases hm; rfl
    | standalone id => cases hsubject
  -- these have no such motion
  | start | poll | finish | cancel | get | isKnown | isConfigured | inspect => cases hm
  -- all others are addressed at no name
  | _ => cases hsubject

theorem uses_isAt (hproper : w.Proper owner name)
    (hsubject : w.subject? owner (.command command) = some name) :
    (w.script command).Uses (·.IsAt owner name) := by
  have hmakes : ∀ id origin outcome unpolled route, command = .start id origin outcome unpolled →
      w.route origin = .ok route → route.address = .named name := by
    rintro id origin outcome unpolled route rfl hroute
    exact address_route (Option.filter_eq_some_iff.1 hsubject).1 hroute
  refine uses_script ?_ (fun id route hdrives => ?_) fun m hm => ?_
  · intro id origin outcome unpolled route hstart hroute
    refine ⟨owner_of_subject? hsubject ?_, hmakes id origin outcome unpolled route hstart hroute⟩
    rw [hstart]
    rfl
  · have hthere : owner id = some name ∧ route.address = .named name := by
      cases hdrives with
      | makes found => exact ⟨owner_of_subject? hsubject rfl, hmakes _ _ _ _ route rfl found⟩
      | goesOn names inFlight =>
        have howner := owner_of_subject? hsubject names
        exact ⟨howner, hproper.keeps id _ howner inFlight⟩
    exact ⟨hthere.2, fun _ _ => hthere.2, fun _ => hthere.2, fun _ _ => hthere, hthere.1⟩
  · exact isAt_of_motion? hsubject hm

theorem confined_command (h : w.Agree owner name v)
    (hsubject : w.subject? owner (.command command) = some name) :
    Confined owner name w (w.command command) (v.command command) := by
  have hcommand := (respects_atName owner name w).command ⟨h, .refl owner name w⟩
    (uses_isAt h.proper hsubject)
    (fun origin horigin => h.route ?_)
    (fun id hid => h.call?_eq (owner_of_subject? hsubject hid))
    fun hlooks => (h.looks hlooks hsubject).symm
  · exact ⟨hcommand.world, Prod.ext hcommand.effects.1 hcommand.answer.symm, hcommand.effects.2⟩
  · cases command with
    | start id origin' outcome unpolled =>
      cases horigin
      exact (Option.filter_eq_some_iff.1 hsubject).1
    | _ => cases horigin

/-! ## Steps -/

theorem confined_blocking (h : w.Agree owner name v) (hway : way.address = .named name)
    (action : Action Json (Failure K)) :
    Confined owner name w (w.blocking way action none) (v.blocking way action none) := by
  have henter := confined_enter h hway
  unfold World.blocking
  rcases hout : w.enter way with ⟨w₁, effects, answer⟩
  rcases hout' : v.enter way with ⟨v₁, rest⟩
  rw [hout, hout'] at henter
  obtain ⟨hmoves, rfl, habout⟩ := henter
  have hentered : Confined owner name w (w₁, effects, ()) (v₁, effects, ()) :=
    ⟨hmoves, rfl, habout⟩
  cases answer with
  | error result => exact hentered.map (f := fun _ => Answer.ended result false) rfl
  | ok p =>
    rw [hway]
    have hsettle := hentered.andThen (confined_settle hmoves.agree p action)
    exact hsettle.map (f := (Answer.ended · true)) rfl

/-- **A step that is addressed at a name is confined to it.** -/
theorem confined_step (h : w.Agree owner name v) (hsubject : w.subject? owner step = some name) :
    Confined owner name w (w.step step) (v.step step) := by
  cases step with
  | command c => exact confined_command h hsubject
  | call ctx action during =>
    cases during with
    | none =>
      cases hsubject
      exact confined_blocking h rfl action
    | some steps => cases hsubject
  | invoke t action during =>
    cases t with
    | standalone id => cases during <;> cases hsubject
    | named n =>
      cases during with
      | some steps => cases hsubject
      | none =>
        cases hsubject
        unfold World.step
        rw [h.address?]
        cases ha : w.address? (.named name) with
        | error answer => exact .still h rfl
        | ok a =>
          cases address?_named ha
          exact confined_blocking h rfl action

omit [DecidableEq K] in
/-- Time passes for all names alike. -/
theorem Agree.advance (h : w.Agree owner name v) (span : Duration) :
    (w.advance span).1.Agree owner name (v.advance span).1 ∧
      (v.advance span).2 = (w.advance span).2 := by
  unfold World.advance
  rw [h.clock]
  cases w.clock.after? span with
  | none => exact ⟨h, rfl⟩
  | some now =>
    have haround := congrArg (fun around => { around with clock := now }) h.surroundings
    refine ⟨⟨view_eq_of haround h.entry (fun id hid => h.call?_eq hid) h.journal, ?_⟩, rfl⟩
    exact ⟨h.proper.bears, h.proper.keeps⟩

end World

end Breaker
