import Breaker.Proofs.Traffic.Reachable

/-!
# The circuits of a registry

What is found under a name once something has been put under one, and what it means that a registry
grows: `r.Grows r' now` says that `r'` has all the circuits of `r`, each with the permits that were
out on it, and that what it has besides is reachable without any.
-/

namespace Breaker.Registry

variable {K : Type} {r : Registry K} {name : String} {c : Circuit K}

/-- `c` may take the place of the circuit of the name, or be its first one. -/
structure Yields (r : Registry K) (name : String) (now : Instant) (c : Circuit K) : Prop where
  known : ∀ c₀, r.circuit? name = some c₀ → ∀ permits, c₀.Reachable now permits →
    c.Reachable now permits
  made : r.circuit? name = none → c.Reachable now []

structure Grows (r r' : Registry K) (now : Instant) : Prop where
  keeps : ∀ name, r'.circuit? name = none → r.circuit? name = none
  yields : ∀ name c, r'.circuit? name = some c → r.Yields name now c

/-! ## One entry -/

theorem circuit?_setEntry (r : Registry K) (name : String) (e : Entry K) (n : String) :
    (r.setEntry name e).circuit? n = if n = name then some e.circuit else r.circuit? n := by
  unfold circuit? setEntry
  rw [Table.get?_insert]
  split <;> rfl

theorem circuit?_setCircuit (r : Registry K) (name : String) (c : Circuit K) (n : String) :
    (r.setCircuit name c).circuit? n =
      if n = name then (r.circuit? n).map fun _ => c else r.circuit? n := by
  unfold circuit? setCircuit
  rw [Table.get?_modify]
  split
  · rw [Option.map_map, Option.map_map]
    rfl
  · rfl

theorem setCircuit_self (h : r.circuit? name = some c) : r.setCircuit name c = r := by
  obtain ⟨e, he, rfl⟩ := Option.map_eq_some_iff.1 h
  have hentries :
      (r.entries.modify name fun e' => { e' with circuit := e.circuit }) = r.entries := by
    refine Table.ext_get? fun n => ?_
    rw [Table.get?_modify]
    split
    · rename_i hn
      rw [hn, he]
      rfl
    · rfl
  unfold setCircuit
  rw [hentries]

/-! ## Operations -/

theorem circuit?_resolve (r : Registry K) (name : String) (declared : Option (Classifier K))
    (now : Instant) :
    (r.resolve name declared now).1.circuit? name = some (r.resolve name declared now).2.2 := by
  unfold resolve
  rw [circuit?_setEntry, if_pos rfl]

end Breaker.Registry
