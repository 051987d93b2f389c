import Breaker.Proofs.Circuit.Subject
import Breaker.Proofs.Registry.Deeds
import Breaker.Proofs.Session.Traffic

/-!
# What an act does to the entry of a name

The motions of an act say what is done to the entry of each name, and nothing else is: the entry
after the act is what its deeds have made of the one before, and what there is to hear of a name is
what these deeds have told (`undergoes_perform`). An act has no deeds at a name that it is not
addressed at, so it leaves the entry there as it is (`entryAt_perform_of_not_addresses`).
-/

namespace Breaker

open Effect (about story)

variable {K : Type}

namespace Effect

theorem story_unheard (effects : List Effect) :
    story (unheard effects) = [] := by
  unfold unheard
  rw [story_eq_filterMap, List.filterMap_filter]
  refine List.filterMap_eq_nil_iff.2 fun e _ => ?_
  cases e <;> rfl

end Effect

/-- What is the same as long as no time passes. -/
structure Conditions (K : Type) where
  hierarchy : Hierarchy K
  standing : Policy
  mapper : Option (ErrorMapper K)
  listeners : List (Listener Record)
  clock : Instant

namespace World

def conditions (w : World K) : Conditions K where
  hierarchy := w.hierarchy
  standing := w.gateway.registry.standing
  mapper := w.gateway.mapper
  listeners := w.listeners
  clock := w.clock

def entryAt (w : World K) (name : String) : Option (Entry K) := w.gateway.registry.entries.get? name

/-- The circuit of a name. -/
def named? (w : World K) (name : String) : Option (Circuit K) := w.gateway.registry.circuit? name

/-- Every circuit has the name under which it is found. -/
def WellNamed (w : World K) : Prop := ∀ name c, w.named? name = some c → c.name = name

/-- What comes of a world by these deeds at the entry of each name. -/
structure Undergoes (w w' : World K) (effects : List Effect) (deeds : String → List (Deed K)) :
    Prop where
  entry : ∀ n, w'.entryAt n = (Deed.undergo n w.clock (w.entryAt n) (deeds n)).1
  /-- Circuits tell of themselves. -/
  told : w.WellNamed → ∀ n,
    story (about n effects) = (Deed.undergo n w.clock (w.entryAt n) (deeds n)).2

variable {w w' w'' : World K} {effects more : List Effect} {deeds deeds' : String → List (Deed K)}
  {a : Address} {c : Circuit K} {op : Operation K} {name : String} {α ε : Type}

namespace Undergoes

/-- Nothing is done to any entry. -/
theorem still (h : w'.gateway.registry = w.gateway.registry) :
    w.Undergoes w' [] fun _ => [] where
  entry n := congrArg (·.entries.get? n) h
  told _ _ := rfl

theorem wellNamed (h : w.Undergoes w' effects deeds) (hw : w.WellNamed) : w'.WellNamed := by
  intro name c hc
  obtain ⟨e', he', rfl⟩ := Option.map_eq_some_iff.1 hc
  change w'.entryAt name = some e' at he'
  rw [h.entry] at he'
  refine Deed.undergo_induction (P := fun c => c.name = name) (fun e he => ?_) (fun _ _ => rfl)
    (fun d _ e e' hon hname => ?_) e' he'
  · exact hw name e.circuit (Option.map_eq_some_iff.2 ⟨e, he, rfl⟩)
  · obtain ⟨e'', effects, hon', hdoes⟩ := d.does_on name w.clock e
    cases hon.symm.trans hon'
    exact hdoes.name_eq.trans hname

theorem trans (h : w.Undergoes w' effects deeds) (h' : w'.Undergoes w'' more deeds')
    (hclock : w'.clock = w.clock) :
    w.Undergoes w'' (effects ++ more) fun n => deeds n ++ deeds' n where
  entry n := by
    rw [h'.entry, h.entry, hclock, Deed.undergo_append]
  told hw n := by
    rw [Effect.about_append, Effect.story_append, h.told hw, h'.told (h.wellNamed hw), h.entry,
      hclock, Deed.undergo_append]

/-- What follows concerns no entry. -/
theorem thenStill (h : w.Undergoes w' effects deeds)
    (hregistry : w''.gateway.registry = w'.gateway.registry) :
    w.Undergoes w'' effects deeds where
  entry n := (congrArg (·.entries.get? n) hregistry).trans (h.entry n)
  told := h.told

theorem congr (h : w.Undergoes w' effects deeds) (hdeeds : ∀ n, deeds n = deeds' n) :
    w.Undergoes w' effects deeds' := by
  rwa [funext hdeeds] at h

/-- Nobody hears of upkeep. -/
theorem of_upkeep (h : w.gateway.registry.Upkeep w'.gateway.registry w.clock effects deeds) :
    w.Undergoes w' effects deeds where
  entry := h.entry
  told _ n := by
    rw [Deed.told_of_upkeep (h.isUpkeep n), Effect.story_about, h.onlyLogs.story_eq_nil,
      List.filter_nil]

end Undergoes

/-! ## Operations of one circuit -/

theorem undergo_operate_of_none (n : String) (now : Instant) (op : Operation K) :
    Deed.undergo n now none [.operate op] = (none, []) := rfl

/-- Where there is no circuit, nothing can be done to it. -/
theorem undergoes_of_none (h : w.circuit? a = none) (op : Operation K) :
    w.Undergoes w [] fun n => if a = .named n then [.operate op] else [] := by
  have hnone : ∀ n, a = .named n → w.entryAt n = none := by
    rintro n rfl
    exact Option.map_eq_none_iff.1 h
  constructor
  · intro n
    split
    · rename_i ha
      rw [hnone n ha, undergo_operate_of_none]
    · rfl
  · intro _ n
    split
    · rename_i ha
      rw [hnone n ha, undergo_operate_of_none]
      rfl
    · rfl

theorem get?_setCircuit (r : Registry K) (name : String) (c : Circuit K) (n : String) :
    (r.setCircuit name c).entries.get? n =
      if n = name then (r.entries.get? n).map fun e => { e with circuit := c }
      else r.entries.get? n := Table.get?_modify ..

/-- What is done to the circuit that is found at an address is a deed at the name there. -/
theorem undergoes_setCircuit (hc : w.circuit? a = some c) (op : Operation K) :
    w.Undergoes ((w.setCircuit a (op.run c w.clock).1).note (heard a (op.run c w.clock).2))
      (heard a (op.run c w.clock).2) fun n => if a = .named n then [.operate op] else [] := by
  cases a with
  | standalone number =>
    refine ⟨fun n => rfl, fun _ n => ?_⟩
    rw [Effect.story_about, heard, Effect.story_unheard]
    rfl
  | named m =>
    obtain ⟨e, he, rfl⟩ := Option.map_eq_some_iff.1 hc
    have hentry : w.entryAt m = some e := he
    constructor
    · intro n
      refine (get?_setCircuit w.gateway.registry m _ n).trans ?_
      by_cases hn : n = m
      · rw [if_pos hn, if_pos (congrArg Address.named hn.symm), hn, hentry, he]
        rfl
      · rw [if_neg hn, if_neg fun h => hn (Address.named.inj h).symm]
        rfl
    · intro hw n
      have honly := (op.does e.circuit w.clock).onlyAbout
      rw [hw m e.circuit hc] at honly
      by_cases hn : n = m
      · rw [if_pos (congrArg Address.named hn.symm), hn, hentry, heard, honly.about_eq]
        exact (List.append_nil _).symm
      · rw [if_neg fun h => hn (Address.named.inj h).symm, heard, honly.about_of_ne hn]
        rfl

/-- An operation that has an answer as well. -/
theorem undergoes_onCircuit (hc : w.circuit? a = some c)
    (f : Circuit K → Instant → Circuit K × List Effect × α) {op : Operation K}
    (hf : ((f c w.clock).1, (f c w.clock).2.1) = op.run c w.clock) :
    w.Undergoes (w.onCircuit a c f).1 (w.onCircuit a c f).2.1
      fun n => if a = .named n then [.operate op] else [] := by
  have hset := undergoes_setCircuit hc op
  rw [← hf] at hset
  exact hset

theorem undergoes_settle (w : World K) (a : Address) (p : Permit)
    (action : Action Json (Failure K)) :
    w.Undergoes (w.settle a p action).1 (w.settle a p action).2.1
      fun n => if a = .named n then [.operate (.settle p action)] else [] := by
  unfold World.settle
  cases hc : w.circuit? a with
  | none => exact undergoes_of_none hc _
  | some c => exact undergoes_onCircuit hc _ rfl

theorem effects_begun (route : Route K) (out : World K × List Effect × Except ε Permit) :
    (begun route out).2.1 = out.2.1 := by
  obtain ⟨w, effects, answer⟩ := out
  cases answer <;> rfl

theorem Undergoes.begun {out : World K × List Effect × Except ε Permit}
    (h : w.Undergoes out.1 out.2.1 deeds) (route : Route K) :
    w.Undergoes (begun route out).1 (begun route out).2.1 deeds := by
  rw [effects_begun]
  exact h.thenStill (fst_begun (·.gateway.registry) (fun _ => by cases route <;> rfl) out)

end World

/-! ## Motions -/

section Motions

/-- The context of a call on this way, if it goes through the gateway. -/
def Route.context? : Route K → Option (CallContext K)
  | .gateway ctx | .service _ ctx _ => some ctx
  | .direct _ => none

/-- The name under which a call on this way arrives at the gateway. -/
def Route.name? : Route K → Option String
  | .gateway ctx | .service _ ctx _ => some ctx.name
  | .direct _ => none

variable [DecidableEq K]

/-- What is done to the entry of a name when a call is entered on this way. -/
def Route.deeds (now : Conditions K) (name : String) : Route K → List (Deed K)
  | .gateway ctx | .service _ ctx _ =>
    if name = ctx.name then
      [.make now.standing, .declare (ctx.rule.map (.ofRule now.hierarchy)), .operate .arrive]
    else []
  | .direct a => if a = .named name then [.operate .arrive] else []

namespace Motion

/-- What a motion does to the entry of a name. -/
def deeds (now : Conditions K) (name : String) : Motion K → List (Deed K)
  | enter route => route.deeds now name
  | settle a p action => if a = .named name then [.operate (.settle p action)] else []
  | abandon a p => if a = .named name then [.operate (.abandon p)] else []
  | control (.named n) command => if n = name then [.operate (.control command)] else []
  | registry command => command.deeds now.standing name
  | _ => []

/-- The motion takes no time. -/
def isPrompt : Motion K → Bool
  | advance _ => false
  | _ => true

end Motion

end Motions

namespace World

variable [DecidableEq K] {w : World K} {name : String} {a : Address} {c : Circuit K} {act : Act K}

/-- A gateway call finds its circuit or makes it, and arrives there. -/
theorem undergoes_enterGateway (w : World K) (ctx : CallContext K) :
    w.Undergoes (w.enterGateway ctx).1 (w.enterGateway ctx).2.1 fun n =>
      if n = ctx.name then
        [.make w.gateway.registry.standing, .declare (ctx.rule.map (.ofRule w.hierarchy)),
          .operate .arrive]
      else [] := by
  -- the world after the lookup, in which the call arrives
  let resolved := w.gateway.registry.resolve ctx.name (ctx.rule.map (.ofRule w.hierarchy)) w.clock
  let found : World K := { w with gateway := { w.gateway with registry := resolved.1 } }
  have hresolve : w.Undergoes found _ _ := .of_upkeep
    (w.gateway.registry.upkeep_resolve ctx.name (ctx.rule.map (.ofRule w.hierarchy)) w.clock)
  have hfound : found.circuit? (.named ctx.name) = some resolved.2.2 :=
    w.gateway.registry.circuit?_resolve ctx.name (ctx.rule.map (.ofRule w.hierarchy)) w.clock
  have hlog : ∀ entry, found.Undergoes found [.log entry] fun _ => [] := fun entry =>
    .of_upkeep ⟨fun _ => rfl, fun _ => List.forall_mem_nil _, .log entry⟩
  have hall := hresolve.trans
    ((hlog (.dispatching ctx.name resolved.2.2.published)).trans
      (undergoes_setCircuit hfound .arrive) rfl) rfl
  have hentered : w.Undergoes (w.enterGateway ctx).1 (w.enterGateway ctx).2.1 _ :=
    hall.thenStill rfl
  refine hentered.congr fun n => ?_
  by_cases hn : n = ctx.name
  · rw [if_pos hn, if_pos hn, if_pos (congrArg Address.named hn.symm)]
    rfl
  · rw [if_neg hn, if_neg hn, if_neg fun h => hn (Address.named.inj h).symm]
    rfl

theorem undergoes_enter (w : World K) (route : Route K) :
    w.Undergoes (w.enter route).1 (w.enter route).2.1
      (route.deeds w.conditions) := by
  cases route with
  | gateway ctx =>
    rw [enter_gateway]
    exact (w.undergoes_enterGateway ctx).begun _
  | service number ctx inner =>
    rw [enter_service]
    exact (w.undergoes_enterGateway ctx).begun _
  | direct a =>
    cases hc : w.circuit? a with
    | none =>
      rw [enter_direct_of_none hc]
      exact undergoes_of_none hc .arrive
    | some c =>
      rw [enter_direct_of_some hc]
      exact (undergoes_setCircuit hc .arrive).begun _

omit [DecidableEq K] in
/-- A circuit by name is where its name says. -/
theorem locate_named (w : World K) (n : String) :
    w.locate (.named n) =
      match w.circuit? (.named n) with
      | some c => .ok (.named n, c)
      | none => .error (.unknownCircuit n) := by
  cases hc : w.circuit? (.named n) with
  | none =>
    have hunknown : w.gateway.registry.contains n = false := Registry.contains_eq_false_iff.2 hc
    simp only [World.locate, World.address?, hunknown, Bool.false_eq_true, ↓reduceIte]
  | some c =>
    have hknown : w.gateway.registry.contains n = true := by
      rw [← Bool.not_eq_false, Registry.contains_eq_false_iff]
      exact fun hnone => Option.some_ne_none c (hc.symm.trans hnone)
    simp only [World.locate, World.address?, hknown, ↓reduceIte, hc]

omit [DecidableEq K] in
theorem address_locate_standalone {id : String}
    (h : w.locate (.standalone id) = .ok (a, c)) :
    ∃ number, a = .standalone number := by
  unfold World.locate World.address? at h
  cases hid : w.standaloneIds.get? id with
  | none => simp only [hid, reduceCtorEq] at h
  | some number =>
    simp only [hid] at h
    split at h
    · cases h
      exact ⟨number, rfl⟩
    · cases h

/-- **What a motion does to the entries** is told by its deeds. -/
theorem undergoes_move (w : World K) (m : Motion K) :
    w.Undergoes (w.move m).1 (w.move m).2.1
      fun n => m.deeds w.conditions n := by
  cases m with
  | enter route => exact w.undergoes_enter route
  | settle a p action => exact w.undergoes_settle a p action
  | abandon a p =>
    show w.Undergoes (w.abandonAt a p).1 (w.abandonAt a p).2.1 _
    unfold World.abandonAt
    cases hc : w.circuit? a with
    | none => exact undergoes_of_none hc (.abandon p)
    | some c => exact undergoes_onCircuit hc _ rfl
  | file id call => exact .still rfl
  | forget id => exact .still rfl
  | control t command =>
    show w.Undergoes (w.commandCircuit t command).1 (w.commandCircuit t command).2.1 _
    have hrun : ∀ c, ((command.run c w.clock).1, (command.run c w.clock).2.1) =
        (Operation.control command).run c w.clock := fun _ => rfl
    unfold World.commandCircuit
    cases t with
    | named n =>
      have hdeeds : ∀ m,
          (if Address.named n = .named m then [.operate (.control command)] else []) =
            Motion.deeds w.conditions m (.control (.named n) command) :=
        fun m => by simp only [Motion.deeds, Address.named.injEq]
      rw [locate_named]
      cases hc : w.circuit? (.named n) with
      | none => exact (undergoes_of_none hc _).congr hdeeds
      | some c => exact (undergoes_onCircuit hc command.run (hrun c)).congr hdeeds
    | standalone id =>
      cases hl : w.locate (.standalone id) with
      | error answer => exact .still rfl
      | ok found =>
        obtain ⟨a, c⟩ := found
        obtain ⟨number, rfl⟩ := address_locate_standalone hl
        exact (undergoes_onCircuit (circuit?_of_locate hl) command.run (hrun c)).congr fun n => rfl
  | registry command => exact .of_upkeep (command.upkeep w.gateway.registry w.clock)
  | advance span =>
    show w.Undergoes (w.advance span).1 (w.advance span).2.1 _
    unfold World.advance
    cases w.clock.after? span <;> exact .still rfl
  | makeCircuit id name policy => exact .still rfl
  | makeService id ctx => exact .still rfl
  | pollService id readiness =>
    show w.Undergoes (w.pollService id readiness).1 (w.pollService id readiness).2.1 _
    unfold World.pollService
    cases w.service id <;> exact .still rfl

/-! ## Acts -/

omit [DecidableEq K] in
theorem conditions_onCircuit {α : Type} (w : World K) (a : Address) (c : Circuit K)
    (op : Circuit K → Instant → Circuit K × List Effect × α) :
    (w.onCircuit a c op).1.conditions = w.conditions := by
  cases a <;> rfl

theorem conditions_enter (w : World K) (route : Route K) :
    (w.enter route).1.conditions = w.conditions := by
  have hbegin : ∀ (w : World K) (route : Route K), (w.begin route).conditions = w.conditions :=
    fun w route => by cases route <;> rfl
  cases route with
  | gateway ctx => rw [enter_gateway, fst_begun _ fun w => hbegin w _]; rfl
  | service number ctx inner => rw [enter_service, fst_begun _ fun w => hbegin w _]; rfl
  | direct a =>
    cases hc : w.circuit? a with
    | none => rw [enter_direct_of_none hc]
    | some c =>
      rw [enter_direct_of_some hc, fst_begun _ fun w => hbegin w _]
      exact w.conditions_onCircuit a c Circuit.arrive

/-- Nothing that takes no time changes the conditions. -/
theorem conditions_move {m : Motion K} (h : m.isPrompt = true) (w : World K) :
    (w.move m).1.conditions = w.conditions := by
  cases m with
  | enter route => exact w.conditions_enter route
  | settle a p action =>
    show (w.settle a p action).1.conditions = _
    unfold World.settle
    cases w.circuit? a with
    | none => rfl
    | some c => exact w.conditions_onCircuit a c _
  | abandon a p =>
    show (w.abandonAt a p).1.conditions = _
    unfold World.abandonAt
    cases w.circuit? a with
    | none => rfl
    | some c => exact w.conditions_onCircuit a c _
  | control t command =>
    show (w.commandCircuit t command).1.conditions = _
    unfold World.commandCircuit
    cases w.locate t with
    | error answer => rfl
    | ok found => exact w.conditions_onCircuit found.1 found.2 command.run
  | registry command =>
    show { w.conditions with standing := (command.run w.gateway.registry w.clock).1.standing } = _
    rw [command.standing_run]
    rfl
  | advance span => cases h
  | pollService id readiness =>
    show (w.pollService id readiness).1.conditions = _
    unfold World.pollService
    cases w.service id <;> rfl
  | _ => rfl

/-- The motions of a script take no time. -/
theorem undergoes_run {script : Script K} (h : script.Uses (·.isPrompt = true)) (w : World K) :
    w.Undergoes (w.run script).1 (w.run script).2.1 fun n =>
      (w.motionsOf script).flatMap (·.deeds w.conditions n) := by
  refine run_induction (T := fun w ms w' effects =>
    w.Undergoes w' effects fun n => ms.flatMap (·.deeds w.conditions n)) (fun w => .still rfl)
    (fun w m ms w' effects hm hrest => ?_) h w
  have hconditions := conditions_move hm w
  have hclock : (w.move m).1.clock = w.clock := congrArg Conditions.clock hconditions
  refine ((w.undergoes_move m).trans hrest hclock).congr fun n => ?_
  rw [hconditions, List.flatMap_cons]

/-- Only a command that lets time pass takes time. -/
theorem prompt_script {command : Command K} (h : ∀ span, command ≠ .advance span) (w : World K) :
    (w.script command).Uses (·.isPrompt = true) := by
  refine uses_script (fun _ _ _ _ _ _ _ => rfl)
    (fun _ _ _ => ⟨rfl, fun _ _ => rfl, fun _ => rfl, fun _ _ => rfl, rfl⟩) fun m hm => ?_
  cases m with
  | advance span =>
    refine absurd ?_ (h span)
    cases command with
    | advance span => cases hm; rfl
    | bindPolicy name policy => cases policy <;> cases hm
    | makeCircuit id name policy => cases policy <;> cases hm
    | _ => cases hm
  | _ => rfl

/-- What an act does to the entry of a name. -/
def deedsOn (w : World K) (name : String) (act : Act K) : List (Deed K) :=
  (w.motions act).flatMap (·.deeds w.conditions name)

/-- **What an act does to the entry of a name are its deeds there**, all at the time of the act, and
what there is to hear of the name is what these deeds tell. -/
theorem undergoes_perform (w : World K) (act : Act K) :
    w.Undergoes (w.perform act) (w.effectsOf act) fun n => w.deedsOn n act := by
  rw [perform_eq, effectsOf_eq]
  have hprompt : (w.actScript act).Uses (·.isPrompt = true) →
      w.Undergoes (w.run (w.actScript act)).1 (w.run (w.actScript act)).2.1
        fun n => w.deedsOn n act := fun h => undergoes_run h w
  cases act with
  | enter route => exact hprompt ⟨rfl, fun _ => trivial⟩
  | settle a p action => exact hprompt ⟨rfl, fun _ => trivial⟩
  | command command =>
    by_cases hadvance : ∃ span, command = .advance span
    · obtain ⟨span, rfl⟩ := hadvance
      have hrun : w.run (w.actScript (.command (.advance span))) = _ :=
        w.run_single (some (.advance span)) .done
      rw [hrun]
      exact w.undergoes_move (.advance span)
    · exact hprompt (prompt_script (fun span hspan => hadvance ⟨span, hspan⟩) w)

/-- What ends calls does nothing to an entry but to end them on its circuit. -/
theorem deeds_of_isClosing {ms : List (Motion K)} (h : ∀ m ∈ ms, m.isClosing = true)
    {now : Conditions K} {d : Deed K} (hd : d ∈ ms.flatMap (·.deeds now name)) :
    (∃ p action, d = .operate (.settle p action)) ∨ ∃ p, d = .operate (.abandon p) := by
  obtain ⟨m, hm, hd⟩ := List.mem_flatMap.1 hd
  have only : ∀ (there : Prop) [Decidable there] (d' : Deed K),
      d ∈ (if there then [d'] else []) → d = d' := by
    intro there _ d' hd
    split at hd
    · exact List.mem_singleton.1 hd
    · cases hd
  cases m with
  | settle a p action => exact .inl ⟨p, action, only _ _ hd⟩
  | abandon a p => exact .inr ⟨p, only _ _ hd⟩
  | file id call => cases hd
  | forget id => cases hd
  | _ => cases h _ hm

/-- What ends calls makes nothing. -/
theorem findSome?_closing {ms : List (Motion K)} (h : ∀ m ∈ ms, m.isClosing = true)
    (now : Conditions K) : (ms.flatMap (·.deeds now name)).findSome? Deed.policy? = none := by
  refine List.findSome?_eq_none_iff.2 fun d hd => ?_
  rcases deeds_of_isClosing h hd with ⟨p, action, rfl⟩ | ⟨p, rfl⟩ <;> rfl

theorem undergo_closing_eq_none_iff {ms : List (Motion K)} (h : ∀ m ∈ ms, m.isClosing = true)
    (at' : Conditions K) (now : Instant) (o : Option (Entry K)) :
    (Deed.undergo name now o (ms.flatMap (·.deeds at' name))).1 = none ↔ o = none := by
  have hpolicy := Deed.policy_undergo name now o (ms.flatMap (·.deeds at' name))
  rw [findSome?_closing h, Option.or_none] at hpolicy
  rw [← Option.map_eq_none_iff, hpolicy, Option.map_eq_none_iff]

/-- The deeds of an act are those of its opening, and what ends calls before and after. -/
theorem exists_deedsOn (w : World K) (name : String) (act : Act K) :
    ∃ before after : List (Motion K),
      w.deedsOn name act = before.flatMap (·.deeds w.conditions name) ++
        (w.opening? act).toList.flatMap (·.deeds w.conditions name) ++
          after.flatMap (·.deeds w.conditions name) ∧
      (∀ m ∈ before, m.isClosing = true) ∧ ∀ m ∈ after, m.isClosing = true := by
  obtain ⟨before, after, heq, hclosing⟩ := motionsOf_of_opens (w.opens_actScript act) w
  refine ⟨before, after, ?_, hclosing⟩
  rw [deedsOn, motions, heq, List.flatMap_append, List.flatMap_append]

/-! ## Histories -/

/-- What the deeds of the acts make of an entry of the name, and what there is to hear of them. -/
def recount (w : World K) (name : String) (o : Option (Entry K)) :
    List (Act K) → Option (Entry K) × List Notice
  | [] => (o, [])
  | act :: acts =>
    let now := Deed.undergo name w.clock o (w.deedsOn name act)
    let later := (w.perform act).recount name now.1 acts
    (later.1, now.2 ++ later.2)

theorem WellNamed.play (h : w.WellNamed) (acts : List (Act K)) : (w.play acts).WellNamed := by
  induction acts generalizing w with
  | nil => exact h
  | cons act acts ih => exact ih ((w.undergoes_perform act).wellNamed h)

/-- What has become of an entry is what all the acts together make of it. -/
theorem entryAt_play (w : World K) (name : String) (acts : List (Act K)) :
    (w.play acts).entryAt name = (w.recount name (w.entryAt name) acts).1 := by
  induction acts generalizing w with
  | nil => rfl
  | cons act acts ih => rw [play_cons, ih, recount, (w.undergoes_perform act).entry]

/-! ## Acts elsewhere -/

/-- The act is addressed at the name: it is on the way there, names it, or polls or drops a call
that is on the way there. -/
inductive Addresses (w : World K) (name : String) : Act K → Prop
  | enter {route : Route K} (there : route.address = .named name) : Addresses w name (.enter route)
  | settle (p : Permit) (action : Action Json (Failure K)) :
    Addresses w name (.settle (.named name) p action)
  | call {command : Command K} {id : String} {route : Route K} (drives : w.Drives command id route)
    (there : route.address = .named name) : Addresses w name (.command command)
  | circuit (command : CircuitCommand K) :
    Addresses w name (.command (.circuit (.named name) command))
  | getOrCreate : Addresses w name (.command (.getOrCreate name))
  | bindClassification (f : Classifier K) :
    Addresses w name (.command (.bindClassification name f))
  | bindPolicy (policy : Except PolicyError Policy) :
    Addresses w name (.command (.bindPolicy name policy))
  | loadProperties {pairs : List (String × String)} {policy : Policy}
    (configures : (Properties.load pairs).policies.get? name = some policy) :
    Addresses w name (.command (.loadProperties pairs))
  /-- Snapshots look at all circuits. -/
  | snapshots : Addresses w name (.command .snapshots)

/-- A way that leads elsewhere has no deeds at the name. -/
theorem deeds_of_address_ne {route : Route K} (h : route.address ≠ .named name)
    (now : Conditions K) : route.deeds now name = [] := by
  cases route with
  | gateway ctx => exact if_neg fun hn => h (congrArg Address.named hn.symm)
  | service number ctx inner => exact if_neg fun hn => h (congrArg Address.named hn.symm)
  | direct a => exact if_neg h

theorem deedsOn_of_uses
    (h : (w.actScript act).Uses fun m => m.deeds w.conditions name = []) :
    w.deedsOn name act = [] := List.flatMap_eq_nil_iff.2 (forall_motionsOf h w)

/-- An act that is not addressed at the name does nothing to its entry. -/
theorem deedsOn_of_not_addresses (h : ¬ w.Addresses name act) :
    w.deedsOn name act = [] := by
  refine deedsOn_of_uses ?_
  cases act with
  | enter route => exact ⟨deeds_of_address_ne (fun hn => h (.enter hn)) _, fun _ => trivial⟩
  | settle a p action =>
    have hne : a ≠ .named name := by
      rintro rfl
      exact h (.settle p action)
    exact ⟨if_neg hne, fun _ => trivial⟩
  | command command =>
    refine uses_script (fun _ _ _ _ _ _ _ => rfl) (fun id route hdrives => ?_) fun m hm => ?_
    · have hne : route.address ≠ .named name := fun hn => h (.call hdrives hn)
      exact ⟨deeds_of_address_ne hne _, fun _ _ => if_neg hne, fun _ => if_neg hne, fun _ _ => rfl,
        rfl⟩
    · cases command with
      | circuit t command =>
        cases hm
        cases t with
        | standalone id => rfl
        | named n =>
          refine if_neg ?_
          rintro rfl
          exact h (.circuit command)
      | getOrCreate n =>
        cases hm
        refine if_neg ?_
        rintro rfl
        exact h .getOrCreate
      | bindClassification n f =>
        cases hm
        refine if_neg ?_
        rintro rfl
        exact h (.bindClassification f)
      | bindPolicy n policy =>
        cases policy with
        | error e => cases hm
        | ok policy =>
          cases hm
          refine if_neg ?_
          rintro rfl
          exact h (.bindPolicy (.ok policy))
      | loadProperties pairs =>
        cases hm
        show ((Properties.load pairs).policies.get? name).toList.map Deed.make = []
        cases hpolicy : (Properties.load pairs).policies.get? name with
        | none => rfl
        | some policy => exact absurd (.loadProperties hpolicy) h
      | snapshots => exact absurd .snapshots h
      | makeCircuit id n policy =>
        cases policy <;> cases hm
        rfl
      | advance span => cases hm; rfl
      | makeService id ctx => cases hm; rfl
      | pollService id readiness => cases hm; rfl
      | _ => cases hm

/-- **An act that is not addressed at a name leaves its entry as it is.** -/
theorem entryAt_perform_of_not_addresses (h : ¬ w.Addresses name act) :
    (w.perform act).entryAt name = w.entryAt name := by
  rw [(w.undergoes_perform act).entry, deedsOn_of_not_addresses h, Deed.undergo_nil]

end World

end Breaker
