import Breaker.Proofs.Registry.Binding
import Breaker.Proofs.Session.Deeds

/-!
# The binding of a name in a session

Of all the acts of a session only three kinds have to do with the classification of a name: an
explicit binding, the first poll of a call by that name, and a binding on its circuit itself
(`World.attempt?`). Since the binding of a name is part of its entry, the deeds of an act say what
becomes of it: an act is such an attempt or leaves the binding of the name as it is, whatever else
it does (`binding_perform`).
-/

namespace Breaker

variable {K : Type} [DecidableEq K]

/-- What a call on this way means for the name when it is first polled. -/
def Route.attempt? (h : Hierarchy K) (name : String) : Route K → Option (Attempt K)
  | .gateway ctx | .service _ ctx _ =>
    if ctx.name = name then some (.call (ctx.rule.map (.ofRule h))) else none
  | .direct _ => none

omit [DecidableEq K] in
/-- An attempt on one name, seen from another. -/
theorem Binding.ite_apply (a : Attempt K) (b : Binding K) (name n : String) :
    (if name = n then a.apply b else b) = b.after (if n = name then some a else none) := by
  by_cases hn : name = n
  · rw [if_pos hn, if_pos hn.symm]
    rfl
  · rw [if_neg hn, if_neg (Ne.symm hn)]
    rfl

namespace World

def binding (w : World K) (name : String) : Binding K := w.gateway.registry.binding name

/-- What it means for the name that this circuit is given a classifier. -/
def direct? (w : World K) (name : String) (f : Classifier K) (t : Target) : Option (Attempt K) :=
  match w.locate t with
  | .ok (.named n, _) => if n = name then some (.direct f) else none
  | _ => none

/-- What an act means for the name. -/
def attempt? (w : World K) (name : String) : Act K → Option (Attempt K)
  | .command (.bindClassification n f) => if n = name then some (.explicit f) else none
  | .command (.circuit t (.bindClassifier f)) => w.direct? name f t
  | .command c => (w.polls? c).bind (·.attempt? w.hierarchy name)
  | .enter route => route.attempt? w.hierarchy name
  | .settle .. => none

variable {w : World K} {name : String} {o : Option (Entry K)} {now : Instant}

/-- What ends calls leaves the binding as it is. -/
theorem binding_closing {ms : List (Motion K)} (h : ∀ m ∈ ms, m.isClosing = true)
    (at' : Conditions K) :
    Entry.bindingOf (Deed.undergo name now o (ms.flatMap (·.deeds at' name))).1 =
      Entry.bindingOf o := by
  refine Deed.binding_undergo fun d hd => ?_
  rcases deeds_of_isClosing h hd with ⟨p, action, rfl⟩ | ⟨p, rfl⟩ <;> rfl

omit [DecidableEq K] in
/-- An entry that is needed is made, and then an attempt is made on it. -/
theorem binding_made (name : String) (now : Instant) (o : Option (Entry K)) (policy : Policy)
    {d : Deed K} {a : Attempt K} (hd : d.attempt? = some a) {rest : List (Deed K)}
    (hrest : ∀ d ∈ rest, d.attempt? = none) :
    Entry.bindingOf (Deed.undergo name now o (.make policy :: d :: rest)).1 =
      a.apply (Entry.bindingOf o) := by
  rw [Deed.undergo, Deed.undergo, Deed.binding_undergo hrest]
  cases o with
  | none => rw [Deed.on, Option.none_or, Deed.binding_on, hd]; rfl
  | some e => rw [Deed.on, Option.some_or, Deed.binding_on, hd]; rfl

omit [DecidableEq K] in
theorem binding_ite {there : Prop} [Decidable there] {d : Deed K} (hd : d.attempt? = none) :
    Entry.bindingOf (Deed.undergo name now o (if there then [d] else [])).1 =
      Entry.bindingOf o := by
  split
  · exact Deed.binding_undergo (List.forall_mem_singleton.2 hd)
  · rfl

/-- To enter a call through the gateway is an attempt on its name. -/
theorem binding_route (w : World K) (route : Route K) (name : String) (o : Option (Entry K)) :
    Entry.bindingOf (Deed.undergo name now o (route.deeds w.conditions name)).1 =
      (Entry.bindingOf o).after (route.attempt? w.hierarchy name) := by
  have enters : ∀ ctx : CallContext K,
      Entry.bindingOf (Deed.undergo name now o (if name = ctx.name then
        [.make w.gateway.registry.standing, .declare (ctx.rule.map (.ofRule w.hierarchy)),
          .operate .arrive] else [])).1 =
        (Entry.bindingOf o).after (if ctx.name = name then
          some (.call (ctx.rule.map (.ofRule w.hierarchy))) else none) := by
    intro ctx
    rw [← Binding.ite_apply]
    split
    · exact binding_made name now o _ rfl (List.forall_mem_singleton.2 rfl)
    · rfl
  cases route with
  | gateway ctx => exact enters ctx
  | service number ctx inner => exact enters ctx
  | direct a => exact binding_ite rfl

omit [DecidableEq K] in
theorem direct?_standalone (w : World K) (name : String) (f : Classifier K) (id : String) :
    w.direct? name f (.standalone id) = none := by
  unfold direct?
  cases hl : w.locate (.standalone id) with
  | error answer => rfl
  | ok found =>
    obtain ⟨a, c⟩ := found
    obtain ⟨number, rfl⟩ := address_locate_standalone hl
    rfl

omit [DecidableEq K] in
theorem direct?_named (w : World K) (name : String) (f : Classifier K) (n : String) :
    w.direct? name f (.named n) =
      if n = name then (w.entryAt name).map fun _ => .direct f else none := by
  have hcircuit : w.circuit? (.named n) = (w.entryAt n).map (·.circuit) := rfl
  rw [direct?, locate_named, hcircuit]
  by_cases hn : n = name
  · subst hn
    rw [if_pos rfl]
    cases w.entryAt n with
    | none => rfl
    | some e => exact if_pos rfl
  · rw [if_neg hn]
    cases w.entryAt n with
    | none => rfl
    | some e => exact if_neg hn

/-- A command for the circuit of a name is an attempt if it gives it a classifier. -/
theorem binding_control (w : World K) (t : Target) (command : CircuitCommand K)
    (ho : o = none ↔ w.entryAt name = none) :
    Entry.bindingOf
        (Deed.undergo name now o ((Motion.control t command).deeds w.conditions name)).1 =
      (Entry.bindingOf o).after (w.attempt? name (.command (.circuit t command))) := by
  by_cases hbind : ∃ f, command = .bindClassifier f
  · obtain ⟨f, rfl⟩ := hbind
    show _ = (Entry.bindingOf o).after (w.direct? name f t)
    cases t with
    | standalone id =>
      rw [direct?_standalone]
      rfl
    | named n =>
      show Entry.bindingOf (Deed.undergo name now o (if n = name then _ else [])).1 = _
      rw [direct?_named]
      split
      · cases o with
        | none =>
          rw [ho.1 rfl]
          rfl
        | some e =>
          obtain ⟨e', he'⟩ := Option.ne_none_iff_exists'.1 fun hnone => nomatch ho.2 hnone
          rw [he']
          exact Deed.binding_on (.operate (.control (.bindClassifier f))) name now e
      · rfl
  · have hother : ∀ f, command ≠ .bindClassifier f := fun f hf => hbind ⟨f, hf⟩
    have hattempt : w.attempt? name (.command (.circuit t command)) = none ∧
        (Deed.operate (.control command)).attempt? = none := by
      cases command with
      | bindClassifier f => exact absurd rfl (hother f)
      | _ => exact ⟨rfl, rfl⟩
    rw [hattempt.1]
    cases t with
    | standalone id => rfl
    | named n => exact binding_ite hattempt.2

/-- What the one motion means for the binding that is not about the end of a call. -/
theorem binding_opening (w : World K) (act : Act K) (ho : o = none ↔ w.entryAt name = none) :
    Entry.bindingOf (Deed.undergo name now o
        ((w.opening? act).toList.flatMap (·.deeds w.conditions name))).1 =
      (Entry.bindingOf o).after (w.attempt? name act) := by
  have single : ∀ (m : Motion K) {b : Binding K},
      Entry.bindingOf (Deed.undergo name now o (m.deeds w.conditions name)).1 = b →
        Entry.bindingOf (Deed.undergo name now o
          ([m].flatMap (·.deeds w.conditions name))).1 = b := by
    intro m b hb
    rwa [List.flatMap_cons, List.flatMap_nil, List.append_nil]
  have polls : ∀ route? : Option (Route K),
      Entry.bindingOf (Deed.undergo name now o
        (((route?.map Motion.enter).or none).toList.flatMap (·.deeds w.conditions name))).1 =
        (Entry.bindingOf o).after (route?.bind (·.attempt? w.hierarchy name)) := by
    intro route?
    cases route? with
    | none => rfl
    | some route => exact single _ (w.binding_route route name o)
  cases act with
  | settle a p action => rfl
  | enter route => exact polls (some route)
  | command command =>
    cases command with
    | start id origin outcome unpolled => exact polls _
    | poll id => exact polls _
    | finish id outcome => exact polls _
    | bindClassification n f =>
      refine single _ ?_
      show Entry.bindingOf (Deed.undergo name now o (if name = n then _ else [])).1 =
        (Entry.bindingOf o).after (if n = name then _ else none)
      rw [← Binding.ite_apply]
      split
      · exact binding_made name now o _ rfl (List.forall_mem_nil _)
      · rfl
    | circuit t command => exact single _ (w.binding_control t command ho)
    | getOrCreate n => exact single _ (binding_ite rfl)
    | bindPolicy n policy =>
      cases policy with
      | error e => rfl
      | ok policy => exact single _ (binding_ite rfl)
    | loadProperties pairs =>
      refine single _ (Deed.binding_undergo fun d hd => ?_)
      obtain ⟨policy, -, rfl⟩ := List.mem_map.1 hd
      rfl
    | snapshots => exact single _ (Deed.binding_undergo (List.forall_mem_singleton.2 rfl))
    | makeCircuit id n policy => cases policy <;> rfl
    | _ => rfl

/-- **An act is an attempt on the name or leaves its binding as it is.** -/
theorem binding_perform (w : World K) (act : Act K) (name : String) :
    (w.perform act).binding name = (w.binding name).after (w.attempt? name act) := by
  obtain ⟨before, after, heq, hbefore, hafter⟩ := w.exists_deedsOn name act
  have hentry := (w.undergoes_perform act).entry name
  have hbinding : ∀ w : World K, w.binding name = Entry.bindingOf (w.entryAt name) := fun _ => rfl
  rw [hbinding, hentry, heq, Deed.undergo_append, Deed.undergo_append, binding_closing hafter,
    binding_opening w act (undergo_closing_eq_none_iff hbefore ..), binding_closing hbefore,
    hbinding]

end World

end Breaker
