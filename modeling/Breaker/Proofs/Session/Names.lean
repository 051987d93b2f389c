import Breaker.Proofs.Circuit.Expired
import Breaker.Proofs.Session.Deeds
import Breaker.Proofs.Text.Bytes

/-!
# One circuit for a name

A name gets its circuit from the first act that offers to make one, with the policy of that offer,
and keeps it: whatever follows, its entry is what the acts at the name make of it, each by its own
deeds and at its own time, and an act elsewhere leaves it as it is. Every way to the name leads to
that entry (`Reaches`). A policy that is given to a known name has no effect on anything. What only
looks at names makes none, and all listings agree on which names there are (`Listed`).
-/

namespace Breaker

namespace World

variable {K : Type} [DecidableEq K] {w : World K} {name : String} {c : Circuit K} {e : Entry K}
  {act : Act K} {acts : List (Act K)}

/-! ## Offers -/

/-- The standing policy, if a circuit of this name is needed. -/
def standing? (w : World K) (name : String) (needed : Option String) : Option Policy :=
  needed.bind fun n => if name = n then some w.gateway.registry.standing else none

/-- The policy with which an act makes the circuit of the name, unless there is one. -/
def offer? (w : World K) (name : String) : Act K → Option Policy
  | .command (.getOrCreate n) | .command (.bindClassification n _) => w.standing? name (some n)
  | .command (.bindPolicy n (.ok policy)) => if name = n then some policy else none
  | .command (.loadProperties pairs) => (Properties.load pairs).policies.get? name
  | .command c => w.standing? name ((w.polls? c).bind Route.name?)
  | .enter route => w.standing? name route.name?
  | .settle .. => none

/-- The policy of the first act that offers to make a circuit of the name. -/
def firstOffer? (w : World K) (name : String) : List (Act K) → Option Policy
  | [] => none
  | act :: acts => (w.offer? name act).or ((w.perform act).firstOffer? name acts)

omit [DecidableEq K] in
theorem findSome?_ite (n : String) (policy : Policy) (deeds : List (Deed K)) :
    (if name = n then .make policy :: deeds else []).findSome? Deed.policy? =
      if name = n then some policy else none := by
  split <;> rfl

theorem findSome?_route (w : World K) (route : Route K) :
    (route.deeds w.conditions name).findSome? Deed.policy? = w.standing? name route.name? := by
  cases route with
  | gateway ctx => exact findSome?_ite ctx.name w.gateway.registry.standing _
  | service number ctx inner => exact findSome?_ite ctx.name w.gateway.registry.standing _
  | direct a =>
    show (if a = .named name then [.operate .arrive] else []).findSome? Deed.policy? = none
    split <;> rfl

/-- What the one motion offers that is not about the end of a call. -/
theorem findSome?_opening (w : World K) (name : String) (act : Act K) :
    ((w.opening? act).toList.flatMap (·.deeds w.conditions name)).findSome? Deed.policy? =
      w.offer? name act := by
  have polls : ∀ route? : Option (Route K),
      (((route?.map Motion.enter).or none).toList.flatMap
        (·.deeds w.conditions name)).findSome? Deed.policy? =
        w.standing? name (route?.bind Route.name?) := by
    intro route?
    cases route? with
    | none => rfl
    | some route =>
      show (route.deeds w.conditions name ++ []).findSome? Deed.policy? = _
      rw [List.append_nil]
      exact w.findSome?_route route
  have single : ∀ (m : Motion K) {offer : Option Policy},
      (m.deeds w.conditions name).findSome? Deed.policy? = offer →
        ([m].flatMap (·.deeds w.conditions name)).findSome? Deed.policy? = offer := by
    intro m offer hoffer
    rwa [List.flatMap_cons, List.flatMap_nil, List.append_nil]
  cases act with
  | settle a p action => rfl
  | enter route => exact polls (some route)
  | command command =>
    cases command with
    | start id origin outcome unpolled => exact polls _
    | poll id => exact polls _
    | finish id outcome => exact polls _
    | getOrCreate n => exact single _ (findSome?_ite n _ [])
    | bindClassification n f => exact single _ (findSome?_ite n _ [.bind f])
    | bindPolicy n policy =>
      cases policy with
      | error e => rfl
      | ok policy => exact single _ (findSome?_ite n policy [])
    | loadProperties pairs =>
      refine single _ ?_
      show (((Properties.load pairs).policies.get? name).toList.map Deed.make).findSome? _ =
        (Properties.load pairs).policies.get? name
      cases (Properties.load pairs).policies.get? name <;> rfl
    | circuit t command =>
      cases t with
      | standalone id => rfl
      | named n =>
        refine single _ ?_
        show (if n = name then [.operate (.control command)] else []).findSome? Deed.policy? = none
        split <;> rfl
    | makeCircuit id n policy => cases policy <;> rfl
    | _ => rfl

/-- What an act makes an entry with is what it offers. -/
theorem findSome?_deedsOn (w : World K) (name : String) (act : Act K) :
    (w.deedsOn name act).findSome? Deed.policy? = w.offer? name act := by
  obtain ⟨before, after, heq, hbefore, hafter⟩ := w.exists_deedsOn name act
  rw [heq, List.findSome?_append, List.findSome?_append, findSome?_closing hbefore,
    findSome?_closing hafter, Option.none_or, Option.or_none, findSome?_opening]

/-! ## Histories -/

/-- The policy of a circuit is that of the first offer that found the name unknown. -/
theorem policy_play (w : World K) (name : String) (acts : List (Act K)) :
    ((w.play acts).named? name).map Circuit.policy =
      ((w.named? name).map Circuit.policy).or (w.firstOffer? name acts) := by
  induction acts generalizing w with
  | nil => exact Option.or_none.symm
  | cons act acts ih =>
    have hact := Deed.policy_undergo name w.clock (w.entryAt name) (w.deedsOn name act)
    rw [← (w.undergoes_perform act).entry, findSome?_deedsOn] at hact
    have hnamed : ∀ w : World K, (w.named? name).map Circuit.policy =
        (w.entryAt name).map (·.circuit.policy) := fun _ => Option.map_map ..
    rw [play_cons, ih, hnamed, hact, hnamed, firstOffer?, Option.or_assoc]

omit [DecidableEq K] in
/-- What there is of a name when the session starts. -/
theorem entryAt_start (s : Setup K) (name : String) :
    s.world.1.entryAt name =
      (s.blueprint.policy? name).map fun policy => { circuit := .create name policy 0 } := by
  refine ((s.blueprint.upkeep_registry (K := K)).entry name).trans ?_
  rw [Table.get?_empty]
  cases s.blueprint.policy? name <;> rfl

/-- What a circuit has under its name from its making on, whatever is done with it. -/
structure Innate (P : String → Circuit K → Prop) : Prop where
  made : ∀ name policy now, P name (.create name policy now)
  kept : ∀ name now (c c' : Circuit K) effects, c.Does now c' effects → P name c → P name c'

namespace Innate

variable {P : String → Circuit K → Prop}

theorem perform (hP : Innate P) (h : ∀ name c, w.named? name = some c → P name c) (act : Act K) :
    ∀ name c, (w.perform act).named? name = some c → P name c := by
  intro name c hc
  obtain ⟨e', he', rfl⟩ := Option.map_eq_some_iff.1 hc
  change (w.perform act).entryAt name = some e' at he'
  rw [(w.undergoes_perform act).entry] at he'
  refine Deed.undergo_induction (fun e he => h name e.circuit ?_)
    (fun _ policy => hP.made name policy w.clock) (fun d _ e e' hon hkept => ?_) e' he'
  · exact Option.map_eq_some_iff.2 ⟨e, he, rfl⟩
  · obtain ⟨e'', effects, hon', hdoes⟩ := d.does_on name w.clock e
    cases hon.symm.trans hon'
    exact hP.kept name w.clock e.circuit e'.circuit effects hdoes hkept

theorem play (hP : Innate P) (h : ∀ name c, w.named? name = some c → P name c)
    (acts : List (Act K)) : ∀ name c, (w.play acts).named? name = some c → P name c := by
  induction acts generalizing w with
  | nil => exact h
  | cons act acts ih => exact ih (hP.perform h act)

omit [DecidableEq K] in
theorem start (hP : Innate P) (s : Setup K) :
    ∀ name c, s.world.1.named? name = some c → P name c := by
  intro name c hc
  obtain ⟨e, he, rfl⟩ := Option.map_eq_some_iff.1 hc
  change s.world.1.entryAt name = some e at he
  rw [entryAt_start] at he
  obtain ⟨policy, -, rfl⟩ := Option.map_eq_some_iff.1 he
  exact hP.made name policy 0

end Innate

omit [DecidableEq K] in
theorem innate_name : Innate fun name (c : Circuit K) => c.name = name where
  made _ _ _ := rfl
  kept _ _ _ _ _ hdoes h := hdoes.name_eq.trans h

omit [DecidableEq K] in
theorem wellNamed_start (s : Setup K) : s.world.1.WellNamed := innate_name.start s

/-! ## What is promised -/

/-- The act only looks at what there is, or prepares a call that is not polled yet. -/
inductive Looks : Act K → Prop
  | get (name : String) : Looks (.command (.get name))
  | isKnown (name : String) : Looks (.command (.isKnown name))
  | isConfigured (name : String) : Looks (.command (.isConfigured name))
  | list : Looks (.command .list)
  | openCircuits : Looks (.command .openCircuits)
  | snapshots : Looks (.command .snapshots)
  | unpolled (id : String) (origin : Origin K) (outcome : Option (Action Json (Failure K))) :
    Looks (.command (.start id origin outcome true))

/-- Every way to the name leads to the circuit of this entry, and does there what it has to do. -/
structure Reaches (w : World K) (name : String) (e : Entry K) : Prop where
  get : w.command (.get name) = (w, [], .info e.circuit.info)
  getOrCreate : w.command (.getOrCreate name) = (w, [], .info e.circuit.info)
  locate : w.locate (.named name) = .ok (.named name, e.circuit)
  /-- A call through the gateway declares its rule, and then it arrives. -/
  gateway : ∀ route ctx, route.context? = some ctx → ctx.name = name →
    let found := (Registry.declare name e (ctx.rule.map (.ofRule w.hierarchy))).1
    (w.enter route).1.entryAt name =
        some { found with circuit := (found.circuit.arrive w.clock).1 } ∧
      ∀ p, (w.enter route).2.2 = .ok p ↔ (found.circuit.arrive w.clock).2.2 = .ok p
  direct : (w.enter (.direct (.named name))).1.entryAt name =
      some { e with circuit := (e.circuit.arrive w.clock).1 } ∧
    ∀ p, (w.enter (.direct (.named name))).2.2 = .ok p ↔ (e.circuit.arrive w.clock).2.2 = .ok p
  settle : ∀ p action, (w.settle (.named name) p action).1.entryAt name =
    some { e with circuit := (e.circuit.settle w.clock p Failure.kind action).1 }
  control : ∀ command, (w.command (.circuit (.named name) command)).1.entryAt name =
      some { e with circuit := (command.run e.circuit w.clock).1 } ∧
    (w.command (.circuit (.named name) command)).2.2 = (command.run e.circuit w.clock).2.2
  classification : ∀ f, (w.command (.bindClassification name f)).1.entryAt name =
    some (Registry.bindEntry name e f).1

/-- What a policy comes to that is given to the name. -/
structure Configures (w : World K) (name : String) (policy : Policy) (took : Bool) : Prop where
  answer : (w.command (.bindPolicy name (.ok policy))).2.2 = .flag took
  new : took = true ↔ w.entryAt name = none
  made : took = true → (w.command (.bindPolicy name (.ok policy))).1.entryAt name =
    some { circuit := .create name policy w.clock }
  /-- If it has no effect, every entry is as it was. -/
  kept : took = false →
    (w.command (.bindPolicy name (.ok policy))).1.gateway.registry = w.gateway.registry

/-- All listings show the same names, in the order of their bytes. -/
structure Listed (w : World K) (names : List String) : Prop where
  ascending : names.Pairwise fun n m => Text.bytes n < Text.bytes m
  mem_iff : ∀ n, n ∈ names ↔ w.named? n ≠ none
  list : (w.command .list).2.2 = .listing names names.length
  isKnown : ∀ n, (w.command (.isKnown n)).2.2 = .flag (decide (n ∈ names))
  get : ∀ n, (∃ info, (w.command (.get n)).2.2 = .info info ∧ info.name = n) ↔ n ∈ names
  isConfigured : ∀ n, (∃ b, (w.command (.isConfigured n)).2.2 = .flag b) ↔ n ∈ names
  /-- There is one snapshot for each name. -/
  snapshots : ∃ l, (w.command .snapshots).2.2 = .snapshots l ∧ l.map Snapshot.name = names
  openCircuits : ∃ l, (w.command .openCircuits).2.2 = .names l ∧ l.Sublist names

omit [DecidableEq K] in
theorem Looks.offer?_eq_none (h : Looks act) : w.offer? name act = none := by
  cases h <;> rfl

/-! ## Ways to a circuit -/

omit [DecidableEq K] in
theorem answer_begun {ε : Type} (route : Route K) (out : World K × List Effect × Except ε Permit) :
    (begun route out).2.2 = out.2.2 := by
  obtain ⟨w, effects, answer⟩ := out
  cases answer <;> rfl

omit [DecidableEq K] in
theorem mapError_eq_ok_iff {ε ε' α : Type} {f : ε → ε'} {x : Except ε α} {a : α} :
    x.mapError f = .ok a ↔ x = .ok a := by
  cases x with
  | ok b => exact ⟨fun h => congrArg _ (Except.ok.inj h), fun h => congrArg _ (Except.ok.inj h)⟩
  | error e => exact ⟨nofun, nofun⟩

/-- A gateway call is answered by the circuit that its name is resolved to. -/
theorem answer_enterGateway (w : World K) (ctx : CallContext K) (p : Permit) :
    (w.enterGateway ctx).2.2 = .ok p ↔
      ((w.gateway.registry.resolve ctx.name (ctx.rule.map (.ofRule w.hierarchy))
        w.clock).2.2.arrive w.clock).2.2 = .ok p := mapError_eq_ok_iff

theorem answer_enter_direct (h : w.entryAt name = some e) (p : Permit) :
    (w.enter (.direct (.named name))).2.2 = .ok p ↔ (e.circuit.arrive w.clock).2.2 = .ok p := by
  have hc : w.circuit? (.named name) = some e.circuit := Option.map_eq_some_iff.2 ⟨e, h, rfl⟩
  rw [enter_direct_of_some hc, answer_begun]
  exact mapError_eq_ok_iff

theorem entryAt_enter_gateway (h : w.entryAt name = some e) {route : Route K} {ctx : CallContext K}
    (hroute : route.context? = some ctx) (hname : ctx.name = name) :
    let found := (Registry.declare name e (ctx.rule.map (.ofRule w.hierarchy))).1
    (w.enter route).1.entryAt name =
        some { found with circuit := (found.circuit.arrive w.clock).1 } ∧
      ∀ p, (w.enter route).2.2 = .ok p ↔ (found.circuit.arrive w.clock).2.2 = .ok p := by
  subst hname
  have hfound := Registry.resolve_of_some h (ctx.rule.map (.ofRule w.hierarchy)) w.clock
  have hentry : (w.enter route).1.entryAt ctx.name = (Deed.undergo ctx.name w.clock (some e)
      [.make w.gateway.registry.standing, .declare (ctx.rule.map (.ofRule w.hierarchy)),
        .operate .arrive]).1 := by
    rw [(w.undergoes_enter route).entry, h]
    cases route with
    | direct a => cases hroute
    | gateway ctx' => cases hroute; exact congrArg (fun l => (Deed.undergo _ _ _ l).1) (if_pos rfl)
    | service number ctx' inner =>
      cases hroute
      exact congrArg (fun l => (Deed.undergo _ _ _ l).1) (if_pos rfl)
  refine ⟨hentry, fun p => ?_⟩
  rw [← hfound, ← w.answer_enterGateway]
  cases route with
  | direct a => cases hroute
  | gateway ctx' => cases hroute; rw [enter_gateway, answer_begun]
  | service number ctx' inner => cases hroute; rw [enter_service, answer_begun]

omit [DecidableEq K] in
/-- A single deed is done to the entry. -/
theorem undergo_single {o : Option (Entry K)} {p : Prop} [Decidable p] (hp : p) (name : String)
    (now : Instant) (d : Deed K) :
    (Deed.undergo name now o (if p then [d] else [])).1 = d.on name now o := by
  rw [if_pos hp]
  rfl

theorem reaches_of_known (h : w.entryAt name = some e) : w.Reaches name e where
  get := by
    have hc : w.gateway.registry.circuit? name = some e.circuit :=
      Option.map_eq_some_iff.2 ⟨e, h, rfl⟩
    show (w, [], w.get name) = _
    simp only [World.get, hc]
  getOrCreate := by
    have hknown := Registry.getOrCreate_of_some h w.clock
    show w.onRegistry (RegistryCommand.run (.getOrCreate name)) = _
    simp only [onRegistry, RegistryCommand.run, hknown, note, List.append_nil]
  locate := by
    have hc : w.circuit? (.named name) = some e.circuit := Option.map_eq_some_iff.2 ⟨e, h, rfl⟩
    rw [locate_named, hc]
  gateway route ctx hroute hname := entryAt_enter_gateway h hroute hname
  direct := by
    refine ⟨?_, answer_enter_direct h⟩
    rw [(w.undergoes_enter _).entry, h]
    exact undergo_single rfl name w.clock _
  settle p action := by
    rw [(w.undergoes_settle _ p action).entry, h]
    exact undergo_single rfl name w.clock _
  control command := by
    have hc : w.circuit? (.named name) = some e.circuit := Option.map_eq_some_iff.2 ⟨e, h, rfl⟩
    constructor
    · refine ((w.undergoes_move (.control (.named name) command)).entry name).trans ?_
      rw [h]
      exact undergo_single rfl name w.clock _
    · show (w.commandCircuit (.named name) command).2.2 = _
      unfold commandCircuit
      rw [locate_named, hc]
      rfl
  classification f := by
    refine ((w.undergoes_move (.registry (.bindClassification name f))).entry name).trans ?_
    rw [h]
    exact congrArg (fun l => (Deed.undergo _ _ _ l).1) (if_pos rfl)

/-! ## Policies -/

theorem configures (w : World K) (name : String) (policy : Policy) :
    ∃ took, w.Configures name policy took := by
  have hknown : w.gateway.registry.contains name = false ↔ w.entryAt name = none :=
    Registry.contains_eq_false_iff.trans Option.map_eq_none_iff
  have hanswer : (w.command (.bindPolicy name (.ok policy))).2.2 =
      .flag (w.gateway.registry.bindPolicy name policy w.clock).2.2 := rfl
  have hregistry : (w.command (.bindPolicy name (.ok policy))).1.gateway.registry =
      (w.gateway.registry.bindPolicy name policy w.clock).1 := rfl
  cases h : w.gateway.registry.contains name with
  | true =>
    rw [Registry.bindPolicy_of_known h] at hanswer hregistry
    refine ⟨false, hanswer, ?_, nofun, fun _ => hregistry⟩
    rw [← hknown, h]
    exact ⟨nofun, nofun⟩
  | false =>
    have hnone : w.entryAt name = none := hknown.1 h
    rw [Registry.bindPolicy_of_unknown h] at hanswer
    refine ⟨true, hanswer, ⟨fun _ => hnone, fun _ => rfl⟩, fun _ => ?_, nofun⟩
    refine (w.gateway.registry.get?_bindPolicy name policy w.clock name).trans ?_
    change w.gateway.registry.entries.get? name = none at hnone
    rw [if_pos rfl, hnone, Option.none_or]

/-! ## Listings -/

omit [DecidableEq K] in
theorem mem_names_iff (w : World K) (n : String) :
    n ∈ w.gateway.registry.names ↔ w.named? n ≠ none := by
  have hknown : w.gateway.registry.contains n = false ↔ w.named? n = none :=
    Registry.contains_eq_false_iff
  rw [Registry.names, Table.mem_keys_iff, ne_eq, ← hknown, Bool.not_eq_false]
  exact Iff.rfl

omit [DecidableEq K] in
theorem ascending_names (r : Registry K) :
    r.names.Pairwise fun n m => Text.bytes n < Text.bytes m := by
  have hentries := r.entries.ascending
  simp only [Registry.names, Table.keys, List.pairwise_map, Text.bytes_lt_iff]
  exact hentries

omit [DecidableEq K] in
/-- The snapshots bear the names under which their circuits are found. -/
theorem names_snapshots (h : w.WellNamed) (now : Instant) :
    (w.gateway.registry.snapshots now).2.map Snapshot.name = w.gateway.registry.names := by
  simp only [Registry.snapshots, Table.values, Registry.names, Table.keys, List.map_map]
  refine List.map_congr_left fun e he => ?_
  have hget : w.gateway.registry.entries.get? e.1 = some e.2 := (Table.mem_entries_iff _).1 he
  have hnamed : w.named? e.1 = some e.2.circuit := by
    show (w.gateway.registry.entries.get? e.1).map _ = _
    rw [hget]
    rfl
  exact h e.1 e.2.circuit hnamed

theorem listed (h : w.WellNamed) : w.Listed w.gateway.registry.names where
  ascending := ascending_names w.gateway.registry
  mem_iff := w.mem_names_iff
  list := by
    show Answer.listing w.gateway.registry.names w.gateway.registry.size = _
    rw [Registry.names, Table.keys, List.length_map]
    rfl
  isKnown n := by
    show Answer.flag (w.gateway.registry.contains n) = _
    congr 1
    rw [Bool.eq_iff_iff, decide_eq_true_iff]
    exact (Table.mem_keys_iff ..).symm
  get n := by
    show (∃ info, w.get n = .info info ∧ info.name = n) ↔ _
    have hnamed : w.named? n = w.gateway.registry.circuit? n := rfl
    rw [mem_names_iff, World.get, ← hnamed]
    cases hc : w.named? n with
    | none =>
      refine ⟨?_, fun hne => absurd rfl hne⟩
      rintro ⟨info, hinfo, -⟩
      cases hinfo
    | some c => exact ⟨fun _ => Option.some_ne_none c, fun _ => ⟨c.info, rfl, h n c hc⟩⟩
  isConfigured n := by
    show (∃ b, w.isConfigured n = .flag b) ↔ _
    have hnamed : w.named? n = (w.gateway.registry.entries.get? n).map Entry.circuit := rfl
    rw [mem_names_iff, World.isConfigured, Registry.isConfigured?, hnamed]
    cases w.gateway.registry.entries.get? n with
    | none =>
      refine ⟨?_, fun hne => absurd rfl hne⟩
      rintro ⟨b, hb⟩
      cases hb
    | some e => exact ⟨fun _ => Option.some_ne_none e.circuit, fun _ => ⟨e.configured, rfl⟩⟩
  snapshots := ⟨_, rfl, names_snapshots h w.clock⟩
  openCircuits := ⟨_, rfl, List.filter_sublist.map _⟩

/-! ## The law -/

/-- What the registry promises for a name, whatever has been done and will be done. -/
structure Promises (w : World K) (name : String) : Prop where
  /-- An act does to the entry what its deeds there are, at that moment, and nothing else. -/
  exact : ∀ act, (w.perform act).entryAt name =
    (Deed.undergo name w.clock (w.entryAt name) (w.deedsOn name act)).1
  /-- An act that is not addressed at the name leaves the entry as it is. -/
  apart : ∀ act, ¬ w.Addresses name act → (w.perform act).entryAt name = w.entryAt name
  /-- The entry of a known name is reached on every way, and it stays, with its name and its policy,
  as all later acts together make it. -/
  known : ∀ e, w.entryAt name = some e → e.circuit.name = name ∧ w.Reaches name e ∧
    ∀ later, ∃ e', (w.play later).entryAt name = some e' ∧
      (w.recount name (some e) later).1 = some e' ∧ e'.circuit.name = name ∧
      e'.circuit.policy = e.circuit.policy
  /-- An unknown one is made by the first act that offers to, and by no other. What follows within
  that act is done to the new circuit. -/
  unknown : w.entryAt name = none → ∀ act,
    (w.offer? name act = none → (w.perform act).entryAt name = none) ∧
      ∀ policy, w.offer? name act = some policy →
        ∃ before rest e, w.deedsOn name act = before ++ .make policy :: rest ∧
          (w.perform act).entryAt name = some e ∧ e.circuit.policy = policy ∧
          (Deed.undergo name w.clock (some { circuit := .create name policy w.clock }) rest).1 =
            some e
  looks : ∀ act, Looks act → ((w.perform act).entryAt name = none ↔ w.entryAt name = none)
  /-- A look changes nothing at all, but that snapshots drop what has expired. -/
  reads : ∀ command, Looks (.command command) → command.call? = none → command ≠ .snapshots →
    (w.command command).1 = w
  snapshots : (w.command .snapshots).1.entryAt name =
    (w.entryAt name).map fun e => { e with circuit := e.circuit.pruned w.clock }
  /-- A call that is not polled yet does nothing but to end the one in whose place it is. -/
  unpolled : ∀ id origin outcome route, w.route origin = .ok route →
    (w.command (.start id origin outcome true)).1.gateway.registry =
      (w.command (.cancel id)).1.gateway.registry
  configures : ∀ policy, ∃ took, w.Configures name policy took
  /-- Properties leave known names as they are. -/
  loads : ∀ pairs e, w.entryAt name = some e →
    (w.command (.loadProperties pairs)).1.entryAt name = some e

/-- A known entry is there for good. -/
theorem entryAt_play_of_known (h : w.WellNamed) (he : w.entryAt name = some e)
    (later : List (Act K)) : ∃ e', (w.play later).entryAt name = some e' ∧
      (w.recount name (some e) later).1 = some e' ∧ e'.circuit.name = name ∧
      e'.circuit.policy = e.circuit.policy := by
  have hplay := w.entryAt_play name later
  have hpolicy := w.policy_play name later
  have hnamed : w.named? name = some e.circuit := Option.map_eq_some_iff.2 ⟨e, he, rfl⟩
  rw [hnamed, Option.map_some, Option.some_or] at hpolicy
  obtain ⟨c, hc, hpolicy⟩ := Option.map_eq_some_iff.1 hpolicy
  obtain ⟨e', he', rfl⟩ := Option.map_eq_some_iff.1 hc
  change (w.play later).entryAt name = some e' at he'
  rw [he] at hplay
  exact ⟨e', he', hplay.symm.trans he', h.play later name _ hc, hpolicy⟩

omit [DecidableEq K] in
/-- The first deed that makes an entry makes it, and the deeds before find nothing. -/
theorem exists_make (name : String) (now : Instant) {deeds : List (Deed K)} {policy : Policy}
    (h : deeds.findSome? Deed.policy? = some policy) :
    ∃ before rest, deeds = before ++ .make policy :: rest ∧
      (Deed.undergo name now none deeds).1 =
        (Deed.undergo name now (some { circuit := .create name policy now }) rest).1 := by
  induction deeds with
  | nil => cases h
  | cons d deeds ih =>
    cases d with
    | make policy' =>
      cases h
      exact ⟨[], deeds, rfl, rfl⟩
    | _ =>
      obtain ⟨before, rest, rfl, hmade⟩ := ih h
      exact ⟨_ :: before, rest, rfl, hmade⟩

theorem promises (h : w.WellNamed) (name : String) : w.Promises name where
  exact act := (w.undergoes_perform act).entry name
  apart act := entryAt_perform_of_not_addresses
  known e he := by
    have hnamed : w.named? name = some e.circuit := Option.map_eq_some_iff.2 ⟨e, he, rfl⟩
    exact ⟨h name e.circuit hnamed, reaches_of_known he, entryAt_play_of_known h he⟩
  unknown hnone act := by
    have hentry := (w.undergoes_perform act).entry name
    have hpolicy := Deed.policy_undergo name w.clock (w.entryAt name) (w.deedsOn name act)
    rw [← hentry, hnone, findSome?_deedsOn] at hpolicy
    rw [hnone] at hentry
    constructor
    · intro hoffer
      rw [hoffer] at hpolicy
      exact Option.map_eq_none_iff.1 hpolicy
    · intro policy hoffer
      rw [hoffer] at hpolicy
      obtain ⟨e, he, rfl⟩ := Option.map_eq_some_iff.1 hpolicy
      obtain ⟨before, rest, hdeeds, hmade⟩ :=
        exists_make name w.clock ((w.findSome?_deedsOn name act).trans hoffer)
      exact ⟨before, rest, e, hdeeds, he, rfl, hmade.symm.trans (hentry.symm.trans he)⟩
  looks act hlooks := by
    have hpolicy := Deed.policy_undergo name w.clock (w.entryAt name) (w.deedsOn name act)
    rw [← (w.undergoes_perform act).entry, findSome?_deedsOn, hlooks.offer?_eq_none,
      Option.or_none] at hpolicy
    rw [← Option.map_eq_none_iff, hpolicy, Option.map_eq_none_iff]
  reads command hlooks hcall hne := by
    cases hlooks with
    | snapshots => exact absurd rfl hne
    | unpolled id origin outcome => cases hcall
    | _ => rfl
  snapshots := (w.undergoes_move (.registry .snapshots)).entry name
  unpolled id origin outcome route hroute := by
    show (w.startCall id origin outcome true).1.gateway.registry = _
    unfold startCall
    rw [hroute]
    rfl
  configures := w.configures name
  loads pairs e he := by
    refine ((w.undergoes_move (.registry (.loadProperties pairs))).entry name).trans ?_
    rw [he]
    show (Deed.undergo name w.clock (some e)
      (((Properties.load pairs).policies.get? name).toList.map .make)).1 = some e
    cases (Properties.load pairs).policies.get? name <;> rfl

/-- A policy that comes after the first use comes too late. -/
example :
    let w : World Unit := ({ hierarchy := { parent := fun _ => none, label := fun _ => "" } } :
      World Unit).play
        [.enter (.gateway ⟨"db", none⟩), .command (.bindPolicy "db" (.ok (.single .zero))),
          .command (.bindPolicy "mail" (.ok (.single .zero)))]
    (w.named? "db").map Circuit.policy = some .standard ∧
      (w.named? "mail").map Circuit.policy = some (.single .zero) ∧
      w.gateway.registry.names = ["db", "mail"] :=
  ⟨rfl, rfl, by decide +kernel⟩

end World

end Breaker
