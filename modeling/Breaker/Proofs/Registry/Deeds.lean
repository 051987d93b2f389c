import Breaker.Proofs.Circuit.Later
import Breaker.Proofs.Circuit.Metered
import Breaker.Proofs.Registry
import Breaker.Proofs.Session.Script

/-!
# What is done to the entry of a name

All that happens to the entry of a name is deeds (`Deed`): it is made, unless it is there; a call or
an explicit binding uses its chance; and its circuit is operated. `Deed.undergo` does some deeds one
after the other and says what there is to hear of them. Everything that is done to a registry other
than running calls is upkeep (`Registry.Upkeep`), which names its deeds at each name: nobody hears
of them, and all effects are entries of the log.
-/

namespace Breaker

open Circuit (Later)
open Effect (story)

variable {K : Type}

/-! ## Operations of circuits -/

/-- What can be done with a circuit, wherever it is found. -/
inductive Operation (K : Type) where
  | arrive
  | settle (p : Permit) (action : Action Json (Failure K))
  | abandon (p : Permit)
  | control (command : CircuitCommand K)

namespace Operation

def run (op : Operation K) (c : Circuit K) (now : Instant) : Circuit K × List Effect :=
  match op with
  | arrive => ((c.arrive now).1, (c.arrive now).2.1)
  | settle p action =>
    ((c.settle now p Failure.kind action).1, (c.settle now p Failure.kind action).2.1)
  | abandon p => c.abandon now p
  | control command => ((command.run c now).1, (command.run c now).2.1)

/-- An operation does one thing with its circuit. -/
theorem does (op : Operation K) (c : Circuit K) (now : Instant) :
    c.Does now (op.run c now).1 (op.run c now).2 := by
  cases op with
  | arrive => exact .arrive
  | settle p action => exact .settle p Failure.kind action
  | abandon p => exact .abandon p
  | control command =>
    cases command with
    | bindClassifier f => exact .bindClassifier f
    | classify kinds =>
      cases hk : kinds.mapM c.classify with
      | ok classes =>
        simp only [run, CircuitCommand.run, hk]
        exact .looks
      | error panic =>
        simp only [run, CircuitCommand.run, hk]
        exact .looks
    | info => exact .looks
    | snapshot => exact .snapshot
    | forceOpen => exact .forceOpen
    | forceClosed => exact .forceClosed
    | reset => exact .forceClosed

end Operation

/-! ## Deeds -/

/-- What can be done to the entry of a name. -/
inductive Deed (K : Type) where
  /-- The entry is made with a policy, unless there is one. -/
  | make (policy : Policy)
  /-- A gateway call resolves the name. -/
  | declare (declared : Option (Classifier K))
  | bind (f : Classifier K)
  | operate (op : Operation K)

namespace Deed

/-- What becomes of the entry, or of there being none. -/
def on (name : String) (now : Instant) (o : Option (Entry K)) : Deed K → Option (Entry K)
  | make policy => o.or (some { circuit := .create name policy now })
  | declare declared => o.map fun e => (Registry.declare name e declared).1
  | bind f => o.map fun e => (Registry.bindEntry name e f).1
  | operate op => o.map fun e => { e with circuit := (op.run e.circuit now).1 }

/-- What there is to hear of it: the circuit tells what is done with it, and nothing else does. -/
def told (now : Instant) (o : Option (Entry K)) : Deed K → List Notice
  | operate op => o.elim [] fun e => story (op.run e.circuit now).2
  | _ => []

/-- What becomes of the entry by some deeds, one after the other, and all that there is to hear. -/
def undergo (name : String) (now : Instant) (o : Option (Entry K)) :
    List (Deed K) → Option (Entry K) × List Notice
  | [] => (o, [])
  | d :: deeds =>
    ((undergo name now (d.on name now o) deeds).1,
      d.told now o ++ (undergo name now (d.on name now o) deeds).2)

/-- The deed is part of the upkeep of a registry, and not of a call. -/
def isUpkeep : Deed K → Bool
  | make _ | declare _ | bind _ | operate (.control .snapshot) => true
  | operate _ => false

variable {name : String} {now : Instant} {o : Option (Entry K)} {e : Entry K} {d : Deed K}
  {deeds : List (Deed K)} {c : Circuit K}

@[simp] theorem undergo_nil (name : String) (now : Instant) (o : Option (Entry K)) :
    undergo name now o [] = (o, []) := rfl

theorem undergo_append (name : String) (now : Instant) (o : Option (Entry K))
    (l m : List (Deed K)) :
    undergo name now o (l ++ m) =
      ((undergo name now (undergo name now o l).1 m).1,
        (undergo name now o l).2 ++ (undergo name now (undergo name now o l).1 m).2) := by
  induction l generalizing o with
  | nil => rfl
  | cons d l ih => simp only [List.cons_append, undergo, ih, List.append_assoc]

theorem told_of_isUpkeep (h : d.isUpkeep = true) (now : Instant) (o : Option (Entry K)) :
    d.told now o = [] := by
  cases d with
  | operate op =>
    cases op with
    | control command =>
      cases command with
      | snapshot => cases o <;> rfl
      | _ => cases h
    | _ => cases h
  | _ => rfl

/-- Nobody hears of upkeep. -/
theorem told_of_upkeep (h : ∀ d ∈ deeds, d.isUpkeep = true) (name : String) (now : Instant)
    (o : Option (Entry K)) : (undergo name now o deeds).2 = [] := by
  induction deeds generalizing o with
  | nil => rfl
  | cons d deeds ih =>
    obtain ⟨hd, hdeeds⟩ := List.forall_mem_cons.1 h
    rw [undergo, told_of_isUpkeep hd, ih hdeeds]
    rfl

/-- The policy that a deed makes an entry with. -/
def policy? : Deed K → Option Policy
  | make policy => some policy
  | _ => none

/-! ### What is left of the circuit -/

/-- What binding does with the circuit. -/
theorem circuit_bindEntry (name : String) (e : Entry K) (f : Classifier K) :
    (Registry.bindEntry name e f).1.circuit = e.circuit ∨
      (Registry.bindEntry name e f).1.circuit = (e.circuit.bindClassifier f).1 := by
  unfold Registry.bindEntry
  cases e.configured with
  | true => exact .inl rfl
  | false => exact .inr rfl

theorem circuit_declare (name : String) (e : Entry K) (declared : Option (Classifier K)) :
    (Registry.declare name e declared).1.circuit = e.circuit ∨
      ∃ f, (Registry.declare name e declared).1.circuit = (e.circuit.bindClassifier f).1 := by
  cases declared with
  | some f => exact (circuit_bindEntry name e f).imp_right fun h => ⟨f, h⟩
  | none =>
    unfold Registry.declare
    cases e.configured <;> exact .inl rfl

/-- A deed keeps the entry that there is, and does at most one thing with its circuit. -/
theorem does_on (d : Deed K) (name : String) (now : Instant) (e : Entry K) :
    ∃ e' effects, d.on name now (some e) = some e' ∧ e.circuit.Does now e'.circuit effects := by
  cases d with
  | make policy => exact ⟨e, [], rfl, .looks⟩
  | declare declared =>
    refine ⟨(Registry.declare name e declared).1, [], rfl, ?_⟩
    rcases circuit_declare name e declared with h | ⟨f, h⟩
    · rw [h]
      exact .looks
    · rw [h]
      exact .bindClassifier f
  | bind f =>
    refine ⟨(Registry.bindEntry name e f).1, [], rfl, ?_⟩
    rcases circuit_bindEntry name e f with h | h
    · rw [h]
      exact .looks
    · rw [h]
      exact .bindClassifier f
  | operate op => exact ⟨_, _, rfl, op.does e.circuit now⟩

/-- Upkeep does no more with a circuit than to give it a classifier or to look at it. -/
theorem treats_on (h : d.isUpkeep = true) (name : String) (now : Instant) (e : Entry K) :
    ∃ e', d.on name now (some e) = some e' ∧
      (e'.circuit = e.circuit ∨ (∃ f, e'.circuit = (e.circuit.bindClassifier f).1) ∨
        e'.circuit = (e.circuit.snapshot now).1) := by
  cases d with
  | make policy => exact ⟨e, rfl, .inl rfl⟩
  | declare declared =>
    exact ⟨_, rfl, (circuit_declare name e declared).imp_right .inl⟩
  | bind f =>
    exact ⟨_, rfl, (circuit_bindEntry name e f).imp_right fun h => .inl ⟨f, h⟩⟩
  | operate op =>
    cases op with
    | control command =>
      cases command with
      | snapshot => exact ⟨_, rfl, .inr (.inr rfl)⟩
      | _ => cases h
    | _ => cases h

theorem exists_undergo (name : String) (now : Instant) (e : Entry K) (deeds : List (Deed K)) :
    ∃ e', (undergo name now (some e) deeds).1 = some e' := by
  induction deeds generalizing e with
  | nil => exact ⟨e, rfl⟩
  | cons d deeds ih =>
    obtain ⟨e', -, hon, -⟩ := d.does_on name now e
    rw [undergo, hon]
    exact ih e'

/-- What holds of the circuit that is there or made, and is kept by each deed, holds in the end. -/
theorem undergo_induction {P : Circuit K → Prop} (known : ∀ e, o = some e → P e.circuit)
    (made : o = none → ∀ policy, P (.create name policy now))
    (kept : ∀ d ∈ deeds, ∀ e e', d.on name now (some e) = some e' → P e.circuit → P e'.circuit) :
    ∀ e', (undergo name now o deeds).1 = some e' → P e'.circuit := by
  induction deeds generalizing o with
  | nil => exact known
  | cons d deeds ih =>
    have hkept := fun d hd => kept d (List.mem_cons_of_mem _ hd)
    cases o with
    | some e =>
      obtain ⟨e', -, hon, -⟩ := d.does_on name now e
      have he' := kept d List.mem_cons_self e e' hon (known e rfl)
      rw [undergo, hon]
      exact ih (fun _ h => Option.some.inj h ▸ he') nofun hkept
    | none =>
      cases d with
      | make policy =>
        exact ih (fun _ h => Option.some.inj h ▸ made rfl policy) nofun hkept
      | _ => exact ih nofun made hkept

/-- The policy is that of the entry there was, or else of the first deed that makes one. -/
theorem policy_undergo (name : String) (now : Instant) (o : Option (Entry K))
    (deeds : List (Deed K)) :
    (undergo name now o deeds).1.map (·.circuit.policy) =
      (o.map (·.circuit.policy)).or (deeds.findSome? policy?) := by
  induction deeds generalizing o with
  | nil => exact Option.or_none.symm
  | cons d deeds ih =>
    rw [undergo, ih]
    cases o with
    | some e =>
      obtain ⟨e', effects, hon, hdoes⟩ := d.does_on name now e
      rw [hon, Option.map_some, Option.map_some, Option.some_or, Option.some_or, hdoes.policy_eq]
    | none =>
      cases d with
      | make policy => rfl
      | _ => rfl

end Deed

/-! ## Entries of the log -/

namespace Effect

/-- There is nothing but entries of the log. -/
def OnlyLogs (effects : List Effect) : Prop := ∀ e ∈ effects, ∃ entry, e = .log entry

namespace OnlyLogs

variable {l m : List Effect}

theorem nil : OnlyLogs [] := List.forall_mem_nil _

theorem log (entry : LogEntry) : OnlyLogs [.log entry] := List.forall_mem_singleton.2 ⟨entry, rfl⟩

theorem append (hl : OnlyLogs l) (hm : OnlyLogs m) : OnlyLogs (l ++ m) :=
  List.forall_mem_append.2 ⟨hl, hm⟩

theorem switches_eq_zero (h : OnlyLogs l) : switches l = 0 := by
  refine List.countP_eq_zero.2 fun e he => ?_
  obtain ⟨entry, rfl⟩ := h e he
  exact Bool.false_ne_true

/-- There is nothing to hear of what is written to the log. -/
theorem story_eq_nil (h : OnlyLogs l) : story l = [] := by
  rw [story_eq_filterMap]
  refine List.filterMap_eq_nil_iff.2 fun e he => ?_
  obtain ⟨entry, rfl⟩ := h e he
  rfl

end OnlyLogs

end Effect

/-! ## Upkeep of a registry -/

namespace Registry

open Effect (OnlyLogs)

variable {r r' : Registry K} {name : String} {now : Instant} {effects : List Effect}
  {deeds : List (Deed K)}

/-- What comes of a registry by these deeds at each name, none of which is part of a call. -/
structure Upkeep (r r' : Registry K) (now : Instant) (effects : List Effect)
    (deeds : String → List (Deed K)) : Prop where
  entry : ∀ n, r'.entries.get? n = (Deed.undergo n now (r.entries.get? n) (deeds n)).1
  isUpkeep : ∀ n, ∀ d ∈ deeds n, d.isUpkeep = true
  onlyLogs : OnlyLogs effects

theorem contains_eq_false_iff : r.contains name = false ↔ r.circuit? name = none := by
  simp only [contains, Table.contains, circuit?, Option.isSome_eq_false_iff,
    Option.isNone_iff_eq_none, Option.map_eq_none_iff]

/-! ### One entry -/

theorem get?_setEntry (r : Registry K) (name : String) (e : Entry K) (n : String) :
    (r.setEntry name e).entries.get? n = if n = name then some e else r.entries.get? n :=
  Table.get?_insert ..

/-- The entry that is needed is the one there is, or else it is made with the standing policy. -/
theorem some_entry (r : Registry K) (name : String) (now : Instant) :
    some (r.entry name now).1 = (Deed.make r.standing).on name now (r.entries.get? name) := by
  unfold entry Deed.on
  cases r.entries.get? name <;> rfl

theorem onlyLogs_entry (r : Registry K) (name : String) (now : Instant) :
    OnlyLogs (r.entry name now).2 := by
  unfold entry
  split
  · exact .nil
  · exact .log _

theorem onlyLogs_bindEntry (n : String) (e : Entry K) (f : Classifier K) :
    OnlyLogs (bindEntry n e f).2.1 := by
  unfold bindEntry
  split
  · exact .nil
  · exact .log _

theorem onlyLogs_declare (n : String) (e : Entry K) (declared : Option (Classifier K)) :
    OnlyLogs (declare n e declared).2 := by
  cases declared with
  | some f => exact onlyLogs_bindEntry n e f
  | none =>
    unfold declare
    cases e.configured with
    | true => exact .nil
    | false => exact .log _

/-- What is put under a name is what has become of the entry there. -/
theorem upkeep_setEntry {e : Entry K}
    (h : some e = (Deed.undergo name now (r.entries.get? name) deeds).1)
    (hdeeds : ∀ d ∈ deeds, d.isUpkeep = true) (hlogs : OnlyLogs effects) :
    r.Upkeep (r.setEntry name e) now effects fun n => if n = name then deeds else [] where
  entry n := by
    rw [get?_setEntry]
    by_cases hn : n = name
    · rw [if_pos hn, if_pos hn, hn, h]
    · rw [if_neg hn, if_neg hn, Deed.undergo_nil]
  isUpkeep n d hd := by
    split at hd
    · exact hdeeds d hd
    · cases hd
  onlyLogs := hlogs

/-! ### Operations -/

theorem upkeep_refl (r : Registry K) (now : Instant) : r.Upkeep r now [] fun _ => [] where
  entry _ := rfl
  isUpkeep _ := List.forall_mem_nil _
  onlyLogs := .nil

theorem upkeep_getOrCreate (r : Registry K) (name : String) (now : Instant) :
    r.Upkeep (r.getOrCreate name now).1 now (r.getOrCreate name now).2.1 fun n =>
      if n = name then [.make r.standing] else [] :=
  upkeep_setEntry (r.some_entry name now) (List.forall_mem_singleton.2 rfl)
    (r.onlyLogs_entry name now)

theorem upkeep_bindClassification (r : Registry K) (name : String) (f : Classifier K)
    (now : Instant) :
    r.Upkeep (r.bindClassification name f now).1 now (r.bindClassification name f now).2.1 fun n =>
      if n = name then [.make r.standing, .bind f] else [] := by
  refine upkeep_setEntry ?_ (by simp [Deed.isUpkeep])
    ((r.onlyLogs_entry name now).append (onlyLogs_bindEntry name _ f))
  rw [Deed.undergo, ← some_entry]
  rfl

theorem upkeep_resolve (r : Registry K) (name : String) (declared : Option (Classifier K))
    (now : Instant) :
    r.Upkeep (r.resolve name declared now).1 now (r.resolve name declared now).2.1 fun n =>
      if n = name then [.make r.standing, .declare declared] else [] := by
  refine upkeep_setEntry ?_ (by simp [Deed.isUpkeep])
    ((r.onlyLogs_entry name now).append (onlyLogs_declare name _ declared))
  rw [Deed.undergo, ← some_entry]
  rfl

/-- Where there is a circuit, none is made. -/
theorem getOrCreate_of_some {e : Entry K} (h : r.entries.get? name = some e) (now : Instant) :
    r.getOrCreate name now = (r, [], e.circuit) := by
  have hentries : r.entries.insert name e = r.entries := by
    refine Table.ext_get? fun n => ?_
    rw [Table.get?_insert]
    split
    · rename_i hn
      rw [hn, h]
    · rfl
  simp only [getOrCreate, entry, h, setEntry, hentries]

theorem resolve_of_some {e : Entry K} (h : r.entries.get? name = some e)
    (declared : Option (Classifier K)) (now : Instant) :
    (r.resolve name declared now).2.2 = (declare name e declared).1.circuit := by
  simp only [resolve, entry, h]

theorem bindPolicy_of_known (h : r.contains name = true) (policy : Policy) (now : Instant) :
    r.bindPolicy name policy now = (r, [.log (.alreadyKnown name)], false) := by
  simp only [bindPolicy, h, ↓reduceIte]

theorem bindPolicy_of_unknown (h : r.contains name = false) (policy : Policy) (now : Instant) :
    r.bindPolicy name policy now =
      (r.setEntry name { circuit := .create name policy now }, [.log (.configured name policy)],
        true) := by
  simp only [bindPolicy, h, Bool.false_eq_true, ↓reduceIte]

/-- A policy takes effect for a new name, and for that only. -/
theorem get?_bindPolicy (r : Registry K) (name : String) (policy : Policy) (now : Instant)
    (n : String) :
    (r.bindPolicy name policy now).1.entries.get? n =
      (r.entries.get? n).or
        (if n = name then some { circuit := .create n policy now } else none) := by
  cases h : r.contains name with
  | true =>
    obtain ⟨e, he⟩ := Option.isSome_iff_exists.1 h
    rw [bindPolicy_of_known h]
    split
    · rename_i hn
      rw [hn, he, Option.some_or]
    · rw [Option.or_none]
  | false =>
    have hnone : r.entries.get? name = none :=
      Option.map_eq_none_iff.1 (contains_eq_false_iff.1 h)
    rw [bindPolicy_of_unknown h, get?_setEntry]
    split
    · rename_i hn
      rw [hn, hnone, Option.none_or]
    · rw [Option.or_none]

/-- Of several policies for one name the first one counts. -/
theorem get?_bindPolicies (r : Registry K) (now : Instant) (l : List (String × Policy))
    (n : String) :
    (r.bindPolicies now l).1.entries.get? n =
      (r.entries.get? n).or
        ((Table.look n l).map fun policy => { circuit := .create n policy now }) := by
  induction l generalizing r with
  | nil => exact (Option.or_none).symm
  | cons head l ih =>
    obtain ⟨name, policy⟩ := head
    refine (ih (r.bindPolicy name policy now).1).trans ?_
    rw [get?_bindPolicy, Option.or_assoc, Table.look]
    split
    · rw [Option.some_or]
      rfl
    · rw [Option.none_or]

theorem onlyLogs_bindPolicy (r : Registry K) (name : String) (policy : Policy) (now : Instant) :
    OnlyLogs (r.bindPolicy name policy now).2.1 := by
  unfold bindPolicy
  split <;> exact .log _

theorem onlyLogs_bindPolicies (r : Registry K) (now : Instant) (l : List (String × Policy)) :
    OnlyLogs (r.bindPolicies now l).2 := by
  induction l generalizing r with
  | nil => exact .nil
  | cons e l ih => exact (r.onlyLogs_bindPolicy e.1 e.2 now).append (ih _)

theorem upkeep_bindPolicy (r : Registry K) (name : String) (policy : Policy) (now : Instant) :
    r.Upkeep (r.bindPolicy name policy now).1 now (r.bindPolicy name policy now).2.1 fun n =>
      if n = name then [.make policy] else [] where
  entry n := by
    rw [get?_bindPolicy]
    by_cases hn : n = name
    · rw [if_pos hn, if_pos hn]
      rfl
    · rw [if_neg hn, if_neg hn, Option.or_none]
      rfl
  isUpkeep n d hd := by
    split at hd
    · cases List.mem_singleton.1 hd
      rfl
    · cases hd
  onlyLogs := r.onlyLogs_bindPolicy name policy now

theorem upkeep_loadProperties (r : Registry K) (pairs : List (String × String)) (now : Instant) :
    r.Upkeep (r.loadProperties pairs now).1 now (r.loadProperties pairs now).2.1 fun n =>
      ((Properties.load pairs).policies.get? n).toList.map .make where
  entry n := by
    refine (r.get?_bindPolicies now (Properties.load pairs).policies.entries n).trans ?_
    show (r.entries.get? n).or (((Properties.load pairs).policies.get? n).map _) = _
    cases (Properties.load pairs).policies.get? n with
    | none => exact Option.or_none
    | some policy => rfl
  isUpkeep n d hd := by
    obtain ⟨policy, -, rfl⟩ := List.mem_map.1 hd
    rfl
  onlyLogs := by
    refine OnlyLogs.append (fun e he => ?_) (r.onlyLogs_bindPolicies now _)
    obtain ⟨error, -, rfl⟩ := List.mem_map.1 he
    exact ⟨_, rfl⟩

theorem upkeep_snapshots (r : Registry K) (now : Instant) :
    r.Upkeep (r.snapshots now).1 now [] fun _ => [.operate (.control .snapshot)] where
  entry _ := Table.get?_map ..
  isUpkeep _ := List.forall_mem_singleton.2 rfl
  onlyLogs := .nil

end Registry

/-- What a command does to the registry's entry of a name. -/
def RegistryCommand.deeds (standing : Policy) (name : String) : RegistryCommand K → List (Deed K)
  | getOrCreate n => if name = n then [.make standing] else []
  | bindClassification n f => if name = n then [.make standing, .bind f] else []
  | bindPolicy n policy => if name = n then [.make policy] else []
  | loadProperties pairs => ((Properties.load pairs).policies.get? name).toList.map .make
  | snapshots => [.operate (.control .snapshot)]

/-- All commands for the registry are upkeep. -/
theorem RegistryCommand.upkeep (command : RegistryCommand K) (r : Registry K) (now : Instant) :
    r.Upkeep (command.run r now).1 now (command.run r now).2.1
      fun n => command.deeds r.standing n := by
  cases command with
  | getOrCreate name => exact r.upkeep_getOrCreate name now
  | bindClassification name f => exact r.upkeep_bindClassification name f now
  | bindPolicy name policy => exact r.upkeep_bindPolicy name policy now
  | loadProperties pairs => exact r.upkeep_loadProperties pairs now
  | snapshots => exact r.upkeep_snapshots now

theorem Registry.standing_bindPolicies (r : Registry K) (now : Instant)
    (l : List (String × Policy)) : (r.bindPolicies now l).1.standing = r.standing := by
  induction l generalizing r with
  | nil => rfl
  | cons e l ih =>
    refine (ih (r.bindPolicy e.1 e.2 now).1).trans ?_
    unfold bindPolicy
    split <;> rfl

/-- No command gives the registry another standing policy. -/
theorem RegistryCommand.standing_run (command : RegistryCommand K) (r : Registry K)
    (now : Instant) : (command.run r now).1.standing = r.standing := by
  cases command with
  | bindPolicy name policy =>
    show (r.bindPolicy name policy now).1.standing = r.standing
    unfold Registry.bindPolicy
    split <;> rfl
  | loadProperties pairs =>
    exact r.standing_bindPolicies now (Properties.load pairs).policies.entries
  | _ => rfl

/-! ## What upkeep preserves -/

namespace Registry.Upkeep

variable {r r' : Registry K} {name : String} {now : Instant} {effects : List Effect}
  {deeds : String → List (Deed K)} {c : Circuit K}

theorem keeps (h : r.Upkeep r' now effects deeds) (hnone : r'.circuit? name = none) :
    r.circuit? name = none := by
  cases he : r.entries.get? name with
  | none => rw [circuit?, he, Option.map_none]
  | some e =>
    obtain ⟨e', he'⟩ := Deed.exists_undergo name now e (deeds name)
    rw [circuit?, h.entry, he, he', Option.map_some] at hnone
    cases hnone

/-- What holds of the circuit of a name, or of all that may be made, and is kept where circuits are
given classifiers and looked at, holds in the end. -/
theorem induction (h : r.Upkeep r' now effects deeds) {P : Circuit K → Prop}
    (known : ∀ c, r.circuit? name = some c → P c)
    (made : r.circuit? name = none → ∀ policy, P (.create name policy now))
    (binds : ∀ c f, P c → P (c.bindClassifier f).1)
    (views : ∀ c, P c → P (c.snapshot now).1) (hc : r'.circuit? name = some c) : P c := by
  obtain ⟨e', he', rfl⟩ := Option.map_eq_some_iff.1 hc
  rw [h.entry] at he'
  refine Deed.undergo_induction
    (fun e he => known e.circuit (Option.map_eq_some_iff.2 ⟨e, he, rfl⟩))
    (fun hnone => made (by rw [circuit?, hnone, Option.map_none]))
    (fun d hd e e' hon hP => ?_) e' he'
  obtain ⟨e'', hon', hcircuit⟩ := Deed.treats_on (h.isUpkeep name d hd) name now e
  cases hon.symm.trans hon'
  rcases hcircuit with heq | ⟨f, heq⟩ | heq
  · rwa [heq]
  · rw [heq]
    exact binds e.circuit f hP
  · rw [heq]
    exact views e.circuit hP

theorem exists_circuit (h : r.Upkeep r' now effects deeds) (hc : r.circuit? name = some c) :
    ∃ c', r'.circuit? name = some c' := by
  refine Option.ne_none_iff_exists'.1 fun hnone => ?_
  rw [h.keeps hnone] at hc
  cases hc

/-- Neither a classifier nor a look at a circuit has to do with the permits that are out on it. -/
theorem grows (h : r.Upkeep r' now effects deeds) : r.Grows r' now where
  keeps _ := h.keeps
  yields name c' hc' := by
    have binds : ∀ (c : Circuit K) f permits, c.Reachable now permits →
        (c.bindClassifier f).1.Reachable now permits := fun _ f _ hr => hr.bindClassifier f
    constructor
    · intro c hc permits hr
      refine h.induction (fun c₀ hc₀ => ?_) (fun hnone => ?_) (fun c f => binds c f permits)
        (fun _ hr => hr.snapshot) hc'
      · cases hc.symm.trans hc₀
        exact hr
      · rw [hc] at hnone
        cases hnone
    · intro hnone
      refine h.induction (fun c hc => ?_) (fun _ policy => .create name policy now)
        (fun c f => binds c f []) (fun _ hr => hr.snapshot) hc'
      rw [hc] at hnone
      cases hnone

/-- Nor does either make a transition. -/
theorem later (h : r.Upkeep r' now effects deeds) (hc : r.circuit? name = some c) :
    ∃ c', r'.circuit? name = some c' ∧ Later 0 c c' := by
  obtain ⟨c', hc'⟩ := h.exists_circuit hc
  refine ⟨c', hc', h.induction (fun c₀ hc₀ => ?_) (fun hnone => ?_) (fun c f hl => ?_)
    (fun c hl => ?_) hc'⟩
  · cases hc.symm.trans hc₀
    exact .refl c
  · rw [hc] at hnone
    cases hnone
  · exact hl.trans (c.later_bindClassifier f)
  · exact hl.trans (c.later_snapshot now)

end Registry.Upkeep

end Breaker
