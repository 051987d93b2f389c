import Breaker.Proofs.Circuit.Expired
import Breaker.Registry

/-!
# Registries with failures that have expired

`r.pruned now` is what a round of snapshots leaves of a registry. Everything else that is done to a
registry reads and changes no failures, so it comes to the same before and after.
-/

namespace Breaker

namespace Table

variable {α β : Type}

theorem map_insert (t : Table α) (f : α → β) (n : String) (v : α) :
    (t.insert n v).map (fun _ u => f u) = (t.map fun _ u => f u).insert n (f v) := by
  refine ext_get? fun k => ?_
  rw [get?_map, get?_insert, get?_insert, get?_map]
  split <;> rfl

theorem contains_map (t : Table α) (f : α → β) (n : String) :
    (t.map fun _ u => f u).contains n = t.contains n := by
  simp [contains]

theorem keys_map (t : Table α) (f : α → β) : (t.map fun _ u => f u).keys = t.keys := by
  simp [keys, map]

end Table

variable {K : Type}

def Entry.pruned (e : Entry K) (now : Instant) : Entry K :=
  { e with circuit := e.circuit.pruned now }

namespace Registry

/-- The registry with its circuits pruned. -/
def pruned (r : Registry K) (now : Instant) : Registry K :=
  { r with entries := r.entries.map fun _ e => e.pruned now }

variable (r : Registry K) (name : String) (now : Instant)

theorem pruned_pruned {later : Instant} (h : now ≤ later) :
    (r.pruned now).pruned later = r.pruned later := by
  have hentries : (r.pruned now).entries.map (fun _ e => e.pruned later) =
      r.entries.map fun _ e => e.pruned later := by
    refine Table.ext_get? fun n => ?_
    simp [pruned, Entry.pruned, Function.comp_def, Circuit.pruned_pruned _ h]
  exact congrArg (Registry.mk · r.standing) hentries

theorem circuit?_pruned : (r.pruned now).circuit? name = (r.circuit? name).map (·.pruned now) := by
  simp [circuit?, pruned, Entry.pruned, Function.comp_def]

theorem contains_pruned : (r.pruned now).contains name = r.contains name := Table.contains_map ..

theorem setEntry_pruned (e : Entry K) :
    (r.pruned now).setEntry name (e.pruned now) = (r.setEntry name e).pruned now := by
  simp only [setEntry, pruned, Table.map_insert]

theorem setCircuit_pruned (c : Circuit K) :
    (r.pruned now).setCircuit name (c.pruned now) = (r.setCircuit name c).pruned now := by
  have hentries : (r.pruned now).entries.modify name (fun e => { e with circuit := c.pruned now }) =
      (r.entries.modify name fun e => { e with circuit := c }).map fun _ e => e.pruned now := by
    refine Table.ext_get? fun n => ?_
    simp only [pruned, Table.get?_map, Table.get?_modify]
    split <;> simp [Entry.pruned, Function.comp_def]
  exact congrArg (Registry.mk · r.standing) hentries

/-! ## Operations -/

theorem pruned_create (policy : Policy) :
    (Circuit.create name policy now : Circuit K).pruned now = .create name policy now := by
  simp only [Circuit.pruned, Circuit.inWindow, Circuit.create]
  cases policy.window <;> rfl

theorem entry_pruned :
    (r.pruned now).entry name now = ((r.entry name now).1.pruned now, (r.entry name now).2) := by
  have hget : (r.pruned now).entries.get? name = (r.entries.get? name).map (·.pruned now) :=
    Table.get?_map ..
  unfold entry
  rw [hget]
  cases r.entries.get? name with
  | some e => rfl
  | none => simp [Entry.pruned, pruned_create, pruned]

theorem getOrCreate_pruned :
    (r.pruned now).getOrCreate name now =
      ((r.getOrCreate name now).1.pruned now, (r.getOrCreate name now).2.1,
        (r.getOrCreate name now).2.2.pruned now) := by
  simp only [getOrCreate, entry_pruned, setEntry_pruned]
  rfl

theorem bindEntry_pruned (e : Entry K) (f : Classifier K) :
    bindEntry name (e.pruned now) f =
      ((bindEntry name e f).1.pruned now, (bindEntry name e f).2) := by
  have hconfigured : (e.pruned now).configured = e.configured := rfl
  unfold bindEntry
  rw [hconfigured]
  cases e.configured with
  | true => rfl
  | false =>
    have hbind := Circuit.bindClassifier_pruned e.circuit now f
    simp only [Entry.pruned, hbind]
    rfl

theorem declare_pruned (e : Entry K) (declared : Option (Classifier K)) :
    declare name (e.pruned now) declared =
      ((declare name e declared).1.pruned now, (declare name e declared).2) := by
  cases declared with
  | some f => simp only [declare, bindEntry_pruned]
  | none =>
    have hconfigured : (e.pruned now).configured = e.configured := rfl
    unfold declare
    rw [hconfigured]
    cases e.configured <;> rfl

theorem bindClassification_pruned (f : Classifier K) :
    (r.pruned now).bindClassification name f now =
      ((r.bindClassification name f now).1.pruned now, (r.bindClassification name f now).2) := by
  simp only [bindClassification, entry_pruned, bindEntry_pruned, setEntry_pruned]

theorem resolve_pruned (declared : Option (Classifier K)) :
    (r.pruned now).resolve name declared now =
      ((r.resolve name declared now).1.pruned now, (r.resolve name declared now).2.1,
        (r.resolve name declared now).2.2.pruned now) := by
  simp only [resolve, entry_pruned, declare_pruned, setEntry_pruned]
  rfl

theorem bindPolicy_pruned (policy : Policy) :
    (r.pruned now).bindPolicy name policy now =
      ((r.bindPolicy name policy now).1.pruned now, (r.bindPolicy name policy now).2) := by
  unfold bindPolicy
  rw [contains_pruned]
  cases r.contains name with
  | true => rfl
  | false =>
    have he : ({ circuit := .create name policy now } : Entry K) =
        Entry.pruned { circuit := .create name policy now } now := by
      simp only [Entry.pruned, pruned_create]
    simp only [Bool.false_eq_true, ↓reduceIte]
    rw [he, setEntry_pruned, ← he]

theorem bindPolicies_pruned (l : List (String × Policy)) :
    (r.pruned now).bindPolicies now l =
      ((r.bindPolicies now l).1.pruned now, (r.bindPolicies now l).2) := by
  induction l generalizing r with
  | nil => rfl
  | cons e l ih => simp only [bindPolicies, bindPolicy_pruned, ih]

theorem loadProperties_pruned (pairs : List (String × String)) :
    (r.pruned now).loadProperties pairs now =
      ((r.loadProperties pairs now).1.pruned now, (r.loadProperties pairs now).2) := by
  simp only [loadProperties, bindPolicies_pruned]

/-- A second round of snapshots shows what the first has shown. -/
theorem snapshots_pruned : (r.pruned now).snapshots now = r.snapshots now := by
  have hviews : (r.pruned now).entries.values.map (fun e => (e.circuit.snapshot now).2) =
      r.entries.values.map fun e => (e.circuit.snapshot now).2 := by
    simp [Table.values, pruned, Table.map, Entry.pruned, Function.comp_def,
      Circuit.snapshot_pruned]
  exact Prod.ext (r.pruned_pruned now (Nat.le_refl now)) hviews

theorem fst_snapshots : (r.snapshots now).1 = r.pruned now := rfl

/-! ## What is shown of a registry -/

theorem names_pruned : (r.pruned now).names = r.names := Table.keys_map ..

theorem size_pruned : (r.pruned now).size = r.size := List.length_map ..

theorem openCircuits_pruned : (r.pruned now).openCircuits = r.openCircuits := by
  simp only [openCircuits, Table.keys, Table.filter, pruned, Table.map, List.filter_map,
    List.map_map]
  rfl

theorem isConfigured?_pruned : (r.pruned now).isConfigured? name = r.isConfigured? name := by
  simp [isConfigured?, pruned, Entry.pruned, Function.comp_def]

theorem inspect_pruned : (r.pruned now).inspect = r.inspect := by
  unfold inspect
  rw [names_pruned]
  rfl

end Registry

end Breaker
