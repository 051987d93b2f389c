/-!
# Tables keyed by name

A `Table` maps names to values. Its entries are kept in strictly ascending
order of names, code point by code point, which is also the order of their
UTF-8 bytes. So every listing is sorted, and two tables with the same look-ups
are equal (`Table.ext_get?`).
-/

namespace Breaker

/-- A finite map from names to values, in ascending order of names. -/
structure Table (α : Type) where
  entries : List (String × α)
  ascending : entries.Pairwise fun a b => a.1 < b.1

namespace Table

variable {α β : Type}

def empty : Table α := ⟨[], .nil⟩

instance : EmptyCollection (Table α) := ⟨empty⟩
instance : Inhabited (Table α) := ⟨empty⟩

/-- The value under `name` in a list of entries. -/
def look (name : String) : List (String × α) → Option α
  | [] => none
  | (n, v) :: rest => if name = n then some v else look name rest

def get? (t : Table α) (name : String) : Option α := look name t.entries

def contains (t : Table α) (name : String) : Bool := (t.get? name).isSome

def keys (t : Table α) : List String := t.entries.map (·.1)

def values (t : Table α) : List α := t.entries.map (·.2)

def size (t : Table α) : Nat := t.entries.length

/-- Puts an entry at its place, in the stead of one with the same name. -/
def place (name : String) (value : α) : List (String × α) → List (String × α)
  | [] => [(name, value)]
  | (n, v) :: rest =>
    if name < n then (name, value) :: (n, v) :: rest
    else if name = n then (name, value) :: rest
    else (n, v) :: place name value rest

theorem mem_place {name : String} {value : α} {e : String × α} {l : List (String × α)}
    (h : e ∈ place name value l) : e = (name, value) ∨ e ∈ l := by
  induction l with
  | nil => exact .inl (List.mem_singleton.1 h)
  | cons x rest ih =>
    simp only [place] at h
    split at h
    · rcases List.mem_cons.1 h with h | h
      · exact .inl h
      · exact .inr h
    · split at h
      · rcases List.mem_cons.1 h with h | h
        · exact .inl h
        · exact .inr (List.mem_cons_of_mem _ h)
      · rcases List.mem_cons.1 h with h | h
        · exact .inr (h ▸ List.mem_cons_self)
        · exact (ih h).imp_right (List.mem_cons_of_mem _)

theorem lt_of_not_lt_of_ne {a b : String} (h : ¬ a < b) (hn : a ≠ b) : b < a := by
  refine Decidable.byContradiction fun hb => hn ?_
  exact String.le_antisymm (String.not_lt.1 hb) (String.not_lt.1 h)

theorem pairwise_place {name : String} {value : α} {l : List (String × α)}
    (h : l.Pairwise fun a b => a.1 < b.1) :
    (place name value l).Pairwise fun a b => a.1 < b.1 := by
  induction l with
  | nil => exact List.pairwise_singleton _ _
  | cons x rest ih =>
    obtain ⟨hx, hr⟩ := List.pairwise_cons.1 h
    simp only [place]
    split
    · rename_i hlt
      refine List.pairwise_cons.2 ⟨fun e he => ?_, h⟩
      rcases List.mem_cons.1 he with rfl | he
      · exact hlt
      · exact String.lt_trans hlt (hx e he)
    · rename_i hge
      split
      · rename_i heq
        exact List.pairwise_cons.2 ⟨fun e he => heq ▸ hx e he, hr⟩
      · rename_i hne
        refine List.pairwise_cons.2 ⟨fun e he => ?_, ih hr⟩
        rcases mem_place he with rfl | he
        · exact lt_of_not_lt_of_ne hge hne
        · exact hx e he

/-- Sets the value under `name`. -/
def insert (t : Table α) (name : String) (value : α) : Table α :=
  ⟨place name value t.entries, pairwise_place t.ascending⟩

/-- Applies `f` to the value under `name`, if there is one. -/
def modify (t : Table α) (name : String) (f : α → α) : Table α where
  entries := t.entries.map fun e => (e.1, if e.1 = name then f e.2 else e.2)
  ascending := List.pairwise_map.2 t.ascending

/-- Applies `f` to every value. -/
def map (t : Table α) (f : String → α → β) : Table β where
  entries := t.entries.map fun e => (e.1, f e.1 e.2)
  ascending := List.pairwise_map.2 t.ascending

/-- Keeps the entries that satisfy `p`. -/
def filter (t : Table α) (p : String → α → Bool) : Table α where
  entries := t.entries.filter fun e => p e.1 e.2
  ascending := t.ascending.filter _

def erase (t : Table α) (name : String) : Table α := t.filter fun n _ => n != name

/-- Inserts the pairs in order, so the last value of a name stays. -/
def ofList (l : List (String × α)) : Table α := l.foldl (fun t e => t.insert e.1 e.2) ∅

/-! ## Look-ups -/

theorem look_place (name n : String) (value : α) (l : List (String × α)) :
    look n (place name value l) = if n = name then some value else look n l := by
  induction l with
  | nil => simp [place, look]
  | cons x rest ih =>
    obtain ⟨m, v⟩ := x
    simp only [place]
    split
    · simp [look]
    · split
      · rename_i heq
        subst heq
        simp only [look]
        split <;> rfl
      · rename_i hne
        simp only [look, ih]
        split
        · rename_i h
          have : ¬ n = name := fun e => hne (e ▸ h)
          rw [if_neg this]
        · rfl

@[simp] theorem get?_empty (n : String) : (∅ : Table α).get? n = none := rfl

theorem get?_insert (t : Table α) (name n : String) (value : α) :
    (t.insert name value).get? n = if n = name then some value else t.get? n :=
  look_place name n value t.entries

@[simp] theorem get?_insert_self (t : Table α) (name : String) (value : α) :
    (t.insert name value).get? name = some value := by
  rw [get?_insert, if_pos rfl]

theorem look_map_same (f : String → α → β) (n : String) (l : List (String × α)) :
    look n (l.map fun e => (e.1, f e.1 e.2)) = (look n l).map (f n) := by
  induction l with
  | nil => rfl
  | cons x rest ih =>
    simp only [List.map_cons, look]
    split
    · rename_i h
      subst h
      rfl
    · exact ih

@[simp] theorem get?_map (t : Table α) (f : String → α → β) (n : String) :
    (t.map f).get? n = (t.get? n).map (f n) :=
  look_map_same f n t.entries

theorem get?_modify (t : Table α) (name n : String) (f : α → α) :
    (t.modify name f).get? n = if n = name then (t.get? n).map f else t.get? n := by
  have h := look_map_same (fun m v => if m = name then f v else v) n t.entries
  simp only [get?, modify, h]
  split <;> simp

theorem look_filter_of_keep (p : String → α → Bool) {n : String} {l : List (String × α)}
    (h : ∀ v, p n v = true) : look n (l.filter fun e => p e.1 e.2) = look n l := by
  induction l with
  | nil => rfl
  | cons x rest ih =>
    by_cases hn : n = x.1
    · subst hn
      simp [h, look]
    · simp only [List.filter_cons, look, if_neg hn]
      split
      · simp only [look, if_neg hn, ih]
      · exact ih

theorem look_filter_of_drop (p : String → α → Bool) {n : String} {l : List (String × α)}
    (h : ∀ v, p n v = false) : look n (l.filter fun e => p e.1 e.2) = none := by
  induction l with
  | nil => rfl
  | cons x rest ih =>
    by_cases hn : n = x.1
    · subst hn
      simp [h, ih]
    · simp only [List.filter_cons]
      split
      · simp only [look, if_neg hn, ih]
      · exact ih

theorem get?_erase (t : Table α) (name n : String) :
    (t.erase name).get? n = if n = name then none else t.get? n := by
  split
  · rename_i h
    exact look_filter_of_drop (fun m _ => m != name) fun _ => by simp [h]
  · rename_i h
    exact look_filter_of_keep (fun m _ => m != name) fun _ => by simp [h]

theorem mem_of_look {n : String} {v : α} {l : List (String × α)} (h : look n l = some v) :
    (n, v) ∈ l := by
  induction l with
  | nil => cases h
  | cons x rest ih =>
    simp only [look] at h
    split at h
    · rename_i hn
      cases h
      exact hn ▸ List.mem_cons_self
    · exact List.mem_cons_of_mem _ (ih h)

theorem look_of_mem {n : String} {v : α} {l : List (String × α)}
    (hl : l.Pairwise fun a b => a.1 < b.1) (h : (n, v) ∈ l) : look n l = some v := by
  induction l with
  | nil => cases h
  | cons x rest ih =>
    obtain ⟨hx, hr⟩ := List.pairwise_cons.1 hl
    simp only [look]
    rcases List.mem_cons.1 h with h | h
    · subst h
      rw [if_pos rfl]
    · rw [if_neg, ih hr h]
      intro e
      have := hx _ h
      simp only [e] at this
      exact String.lt_irrefl _ this

theorem mem_entries_iff (t : Table α) {n : String} {v : α} :
    (n, v) ∈ t.entries ↔ t.get? n = some v :=
  ⟨look_of_mem t.ascending, mem_of_look⟩

theorem eq_of_look_eq {l m : List (String × α)} (hl : l.Pairwise fun a b => a.1 < b.1)
    (hm : m.Pairwise fun a b => a.1 < b.1) (h : ∀ n, look n l = look n m) : l = m := by
  induction l generalizing m with
  | nil =>
    cases m with
    | nil => rfl
    | cons y ms =>
      have := h y.1
      simp [look] at this
  | cons x ls ih =>
    obtain ⟨hx, hls⟩ := List.pairwise_cons.1 hl
    cases m with
    | nil =>
      have := h x.1
      simp [look] at this
    | cons y ms =>
      obtain ⟨hy, hms⟩ := List.pairwise_cons.1 hm
      -- the first names agree, since each is the least name of its list
      have hxy : x = y := by
        have h1 : (x.1, x.2) ∈ y :: ms := mem_of_look (by rw [← h]; simp [look])
        have h2 : (y.1, y.2) ∈ x :: ls := mem_of_look (by rw [h]; simp [look])
        rcases List.mem_cons.1 h1 with h1 | h1
        · exact h1
        · rcases List.mem_cons.1 h2 with h2 | h2
          · exact h2.symm
          · exact absurd (String.lt_trans (hy _ h1) (hx _ h2)) (String.lt_irrefl _)
      subst hxy
      refine congrArg (x :: ·) (ih hls hms fun n => ?_)
      have hn := h n
      simp only [look] at hn
      by_cases e : n = x.1
      · subst e
        have gone : ∀ k : List (String × α), (∀ e ∈ k, x.1 < e.1) → look x.1 k = none := by
          intro k hk
          cases hf : look x.1 k with
          | none => rfl
          | some v => exact absurd (hk _ (mem_of_look hf)) (String.lt_irrefl _)
        rw [gone ls hx, gone ms hy]
      · rwa [if_neg e, if_neg e] at hn

/-- Tables are determined by their look-ups. -/
theorem ext_get? {s t : Table α} (h : ∀ n, s.get? n = t.get? n) : s = t := by
  cases s
  cases t
  simp only [mk.injEq]
  exact eq_of_look_eq ‹_› ‹_› h

theorem mem_keys_iff (t : Table α) (n : String) : n ∈ t.keys ↔ t.contains n = true := by
  simp only [keys, List.mem_map, contains, Option.isSome_iff_exists]
  constructor
  · rintro ⟨⟨m, v⟩, hm, rfl⟩
    exact ⟨v, (t.mem_entries_iff).1 hm⟩
  · rintro ⟨v, hv⟩
    exact ⟨(n, v), (t.mem_entries_iff).2 hv, rfl⟩

end Table

end Breaker
