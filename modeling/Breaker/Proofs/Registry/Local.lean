import Breaker.Gateway
import Breaker.Proofs.Circuit.Subject
import Breaker.Proofs.Registry.Deeds

/-!
# Operations on one name

What an operation by name comes to is decided by the entry of the name and the standing policy, and
there is no other name that it changes anything of or tells anything about (`Local`). All of those
that make the entry they need are of one form (`alter`), a gateway call from the look-up to the
permit included (`Gateway.arrive_eq`).
-/

namespace Breaker

variable {K α : Type}

namespace Registry

open Effect (OnlyAbout)

variable {r r' : Registry K} {name n : String} {now : Instant} {f : Classifier K}

/-- The circuit of the name bears it, if there is one. -/
def Bears (r : Registry K) (name : String) : Prop := ∀ c, r.circuit? name = some c → c.name = name

/-- The operation has to do with the name alone. -/
structure Local (name : String) (op : Registry K → Registry K × List Effect × α) : Prop where
  standing : ∀ r, (op r).1.standing = r.standing
  others : ∀ r n, n ≠ name → (op r).1.entries.get? n = r.entries.get? n
  entry : ∀ r r', r'.standing = r.standing → r'.entries.get? name = r.entries.get? name →
    (op r').1.entries.get? name = (op r).1.entries.get? name
  answer : ∀ r r', r'.standing = r.standing → r'.entries.get? name = r.entries.get? name →
    (op r').2 = (op r).2
  bears : ∀ r, r.Bears name → (op r).1.Bears name
  onlyAbout : ∀ r, r.Bears name → OnlyAbout name (op r).2.1

/-! ## Operations that make the entry they need -/

/-- Applies `g` to the entry of the name, which is made if there is none. -/
def alter (r : Registry K) (name : String) (now : Instant)
    (g : Entry K → Entry K × List Effect × α) : Registry K × List Effect × α :=
  let (e, made) := r.entry name now
  let (e, effects, answer) := g e
  (r.setEntry name e, made ++ effects, answer)

theorem entry_congr (hstanding : r'.standing = r.standing)
    (hentry : r'.entries.get? name = r.entries.get? name) (now : Instant) :
    r'.entry name now = r.entry name now := by
  unfold entry
  rw [hstanding, hentry]

theorem name_entry (h : r.Bears name) (now : Instant) :
    (r.entry name now).1.circuit.name = name := by
  unfold entry
  cases he : r.entries.get? name with
  | none => rfl
  | some e =>
    refine h e.circuit ?_
    rw [circuit?, he]
    rfl

theorem onlyAbout_entry (r : Registry K) (name : String) (now : Instant) :
    OnlyAbout name (r.entry name now).2 := by
  unfold entry
  split
  · exact .nil
  · exact .cons rfl .nil

theorem local_alter (now : Instant) {g : Entry K → Entry K × List Effect × α}
    (hname : ∀ e, e.circuit.name = name → (g e).1.circuit.name = name)
    (habout : ∀ e, e.circuit.name = name → OnlyAbout name (g e).2.1) :
    Local name fun r => r.alter name now g where
  standing _ := rfl
  others r n hne := (Table.get?_insert ..).trans (if_neg hne)
  entry r r' hstanding hentry := by
    simp only [alter, setEntry, Table.get?_insert_self, entry_congr hstanding hentry]
  answer r r' hstanding hentry := by simp only [alter, entry_congr hstanding hentry]
  bears r hbears c hc := by
    simp only [alter, circuit?_setEntry, ↓reduceIte, Option.some.injEq] at hc
    rw [← hc]
    exact hname _ (name_entry hbears now)
  onlyAbout r hbears :=
    (r.onlyAbout_entry name now).append (habout _ (name_entry hbears now))

theorem local_getOrCreate (name : String) (now : Instant) :
    Local name fun r : Registry K => r.getOrCreate name now := by
  have halter : ∀ r : Registry K,
      r.getOrCreate name now = r.alter name now fun e => (e, [], e.circuit) := by
    intro r
    simp only [getOrCreate, alter, List.append_nil]
  simp only [halter]
  exact local_alter now (fun _ h => h) fun _ _ => .nil

theorem onlyAbout_bindEntry (name : String) (e : Entry K) (f : Classifier K) :
    OnlyAbout name (bindEntry name e f).2.1 := by
  unfold bindEntry
  split
  · exact .nil
  · exact .cons rfl .nil

theorem name_bindEntry (n : String) (e : Entry K) (f : Classifier K) :
    (bindEntry n e f).1.circuit.name = e.circuit.name := by
  unfold bindEntry
  split
  · rfl
  · exact (e.circuit.advance_bindClassifier 0 f).name_eq

theorem local_bindClassification (name : String) (f : Classifier K) (now : Instant) :
    Local name fun r : Registry K => r.bindClassification name f now :=
  local_alter now (fun e h => (name_bindEntry name e f).trans h)
    fun e _ => onlyAbout_bindEntry name e f

theorem onlyAbout_declare (name : String) (e : Entry K) (declared : Option (Classifier K)) :
    OnlyAbout name (declare name e declared).2 := by
  cases declared with
  | some f => exact onlyAbout_bindEntry name e f
  | none =>
    unfold declare
    cases e.configured with
    | true => exact .nil
    | false => exact .cons rfl .nil

theorem name_declare (n : String) (e : Entry K) (declared : Option (Classifier K)) :
    (declare n e declared).1.circuit.name = e.circuit.name := by
  cases declared with
  | some f => exact name_bindEntry n e f
  | none =>
    unfold declare
    cases h : e.configured with
    | true => rfl
    | false => rfl

/-- The circuit for a call by name bears that name. -/
theorem name_resolve (h : r.Bears name) (declared : Option (Classifier K)) (now : Instant) :
    (r.resolve name declared now).2.2.name = name :=
  (name_declare name _ declared).trans (name_entry h now)

/-- What a gateway call that arrives does to the entry of its name. -/
def arriveAt (name : String) (declared : Option (Classifier K)) (now : Instant) (e : Entry K) :
    Entry K × List Effect × Except OpenError Permit :=
  let (e, effects) := declare name e declared
  let (c, more, answer) := e.circuit.arrive now
  ({ e with circuit := c }, effects ++ .log (.dispatching name e.circuit.published) :: more, answer)

/-- What a gateway call that arrives does to the registry. -/
def arrive (name : String) (declared : Option (Classifier K)) (r : Registry K) (now : Instant) :
    Registry K × List Effect × Except OpenError Permit :=
  r.alter name now (arriveAt name declared now)

theorem local_arrive (name : String) (declared : Option (Classifier K)) (now : Instant) :
    Local name (arrive name declared · now) := by
  refine local_alter now (fun e h => ?_) fun e h => ?_
  · have harrive := ((declare name e declared).1.circuit.advance_arrive now).name_eq
    exact harrive.trans ((name_declare name e declared).trans h)
  · have harrive := (declare name e declared).1.circuit.onlyAbout_arrive now
    rw [name_declare, h] at harrive
    exact (onlyAbout_declare name e declared).append (.cons rfl harrive)

theorem setCircuit_setEntry (r : Registry K) (name : String) (e : Entry K) (c : Circuit K) :
    (r.setEntry name e).setCircuit name c = r.setEntry name { e with circuit := c } := by
  unfold setEntry setCircuit
  congr 1
  refine Table.ext_get? fun n => ?_
  rw [Table.get?_modify, Table.get?_insert, Table.get?_insert]
  split <;> rfl

theorem local_setCircuit {c : Circuit K} {effects : List Effect} {answer : α}
    (hname : c.name = name) (habout : OnlyAbout name effects) :
    Local name fun r : Registry K => (r.setCircuit name c, effects, answer) where
  standing _ := rfl
  others r n hne := (Table.get?_modify ..).trans (if_neg hne)
  entry r r' _ hentry := by
    simp only [setCircuit, Table.get?_modify, ↓reduceIte, hentry]
  answer _ _ _ _ := rfl
  bears r hbears c' hc' := by
    simp only [circuit?_setCircuit, ↓reduceIte] at hc'
    obtain ⟨-, -, rfl⟩ := Option.map_eq_some_iff.1 hc'
    exact hname
  onlyAbout _ _ := habout

/-! ## Policies -/

theorem contains_congr (hentry : r'.entries.get? name = r.entries.get? name) :
    r'.contains name = r.contains name := congrArg Option.isSome hentry

theorem local_bindPolicy (name : String) (policy : Policy) (now : Instant) :
    Local name fun r : Registry K => r.bindPolicy name policy now where
  standing r := by
    unfold bindPolicy
    split <;> rfl
  others r n hne := by
    rw [get?_bindPolicy, if_neg hne, Option.or_none]
  entry r r' _ hentry := by
    rw [get?_bindPolicy, get?_bindPolicy, hentry]
  answer r r' _ hentry := by
    unfold bindPolicy
    rw [contains_congr hentry]
    split <;> rfl
  bears r hbears c hc := by
    obtain ⟨e, he, rfl⟩ := Option.map_eq_some_iff.1 hc
    rw [get?_bindPolicy, if_pos rfl] at he
    rcases Option.or_eq_some_iff.1 he with he | ⟨-, he⟩
    · exact hbears e.circuit (Option.map_eq_some_iff.2 ⟨e, he, rfl⟩)
    · cases he
      rfl
  onlyAbout r _ := by
    unfold bindPolicy
    split <;> exact .cons rfl .nil

end Registry

/-- A gateway call that arrives is an operation on its name. -/
theorem Gateway.arrive_eq [DecidableEq K] (h : Hierarchy K) (g : Gateway K) (ctx : CallContext K)
    (now : Instant) :
    g.arrive h ctx now =
      let out := g.registry.arrive ctx.name (ctx.rule.map (.ofRule h)) now
      ({ g with registry := out.1 }, out.2) := by
  simp only [arrive, Registry.resolve, Registry.arrive, Registry.alter, Registry.arriveAt,
    Registry.setCircuit_setEntry, List.append_assoc]

end Breaker
