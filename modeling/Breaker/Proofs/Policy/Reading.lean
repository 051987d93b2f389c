import Breaker.Policy.Properties
import Breaker.Proofs.Text.Numeral
import Mathlib.Data.List.TakeWhile

/-!
# What one property means

`Means key value reading` says what a pair of key and value means, with no regard to how it is read:
a key that does not start with `circuit.` is none of ours; after that start come the name of a
circuit, which is all up to the first dot, and the name of a property, neither of them empty; and
the value denotes an integer. Each pair has one meaning, which is how it is read (`read_eq_iff`).
-/

namespace Breaker.Properties

/-- The key is that of a property of the circuit. -/
structure Names (key name property : String) : Prop where
  key_eq : key = "circuit." ++ (name ++ "." ++ property)
  undotted : '.' ∉ name.toList
  name_ne : name ≠ ""
  property_ne : property ≠ ""

/-- What a pair of key and value means. -/
inductive Means (key value : String) : Reading → Prop
  | foreign (start : ∀ rest, key ≠ "circuit." ++ rest) : Means key value .foreign
  | undotted {rest : String} (start : key = "circuit." ++ rest) (undotted : '.' ∉ rest.toList) :
      Means key value (.refused (.malformedKey key))
  | hollow {before after : String} (start : key = "circuit." ++ (before ++ "." ++ after))
      (undotted : '.' ∉ before.toList) (hollow : before = "" ∨ after = "") :
      Means key value (.refused (.malformedKey key))
  | unknown {name property : String} (names : Names key name property)
      (unknown : ∀ p : Property, property ≠ p.name) :
      Means key value (.refused (.unknownProperty key))
  | illegible {name : String} {p : Property} (names : Names key name p.name)
      (illegible : ∀ n, ¬ Text.Denotes value.toList n) :
      Means key value (.refused (.invalidNumber key value))
  | setting {name : String} {p : Property} {n : Int} (names : Names key name p.name)
      (number : Text.Denotes value.toList n) : Means key value (.setting name p n)

/-! ## Keys -/

theorem toList_start : "circuit.".toList = keyStart := by decide

theorem afterStart?_of_start (rest : String) :
    afterStart? ("circuit." ++ rest).toList = some rest.toList := by
  have hprefix : keyStart <+: ("circuit." ++ rest).toList := by
    rw [String.toList_append, toList_start]
    exact List.prefix_append _ _
  rw [afterStart?, if_pos (List.isPrefixOf_iff_prefix.2 hprefix), String.toList_append,
    toList_start, List.drop_left]

theorem afterStart?_of_foreign {key : String} (h : ∀ rest, key ≠ "circuit." ++ rest) :
    afterStart? key.toList = none := by
  rw [afterStart?, if_neg]
  intro hprefix
  obtain ⟨rest, hrest⟩ := List.isPrefixOf_iff_prefix.1 hprefix
  refine h (String.ofList rest) (String.toList_inj.1 ?_)
  rw [String.toList_append, toList_start, String.toList_ofList, hrest]

theorem split?_of_undotted {cs : List Char} (h : '.' ∉ cs) : split? cs = none := by
  have hall : ∀ c ∈ cs, decide (c ≠ '.') = true := fun c hc =>
    decide_eq_true fun hdot => h (hdot ▸ hc)
  have hrest : cs.dropWhile (· ≠ '.') = [] := List.dropWhile_eq_nil_iff.2 hall
  unfold split?
  rw [hrest]
  cases cs.takeWhile (· ≠ '.') <;> rfl

/-- The first dot is where a key is split. -/
theorem split?_of_dotted {before after : List Char} (h : '.' ∉ before) :
    split? (before ++ '.' :: after) =
      if before = [] ∨ after = [] then none else some (before, after) := by
  have hall : ∀ c ∈ before, decide (c ≠ '.') = true := fun c hc =>
    decide_eq_true fun hdot => h (hdot ▸ hc)
  have htake : (before ++ '.' :: after).takeWhile (· ≠ '.') = before := by
    rw [List.takeWhile_append_of_pos hall, List.takeWhile_cons_of_neg (by simp), List.append_nil]
  have hdrop : (before ++ '.' :: after).dropWhile (· ≠ '.') = '.' :: after := by
    rw [List.dropWhile_append_of_pos hall, List.dropWhile_cons_of_neg (by simp)]
  unfold split?
  rw [htake, hdrop]
  cases before <;> cases after <;> simp

theorem ofName?_eq_some_iff {property : String} {p : Property} :
    Property.ofName? property.toList = some p ↔ property = p.name := by
  unfold Property.ofName?
  simp only [String.toList_inj]
  constructor
  · intro h
    split_ifs at h with hf hp hr
    · cases h
      exact hf
    · cases h
      exact hp
    · cases h
      exact hr
  · rintro rfl
    cases p <;> decide

theorem toList_dotted (before after : String) :
    (before ++ "." ++ after).toList = before.toList ++ '.' :: after.toList := by
  rw [String.toList_append, String.toList_append, List.append_assoc]
  rfl

theorem exists_dotted {rest : String} (h : '.' ∈ rest.toList) :
    ∃ before after : String, rest = before ++ "." ++ after ∧ '.' ∉ before.toList := by
  obtain ⟨before, after, hrest, hbefore⟩ := List.eq_append_cons_of_mem h
  refine ⟨.ofList before, .ofList after, String.toList_inj.1 ?_, ?_⟩
  · rw [toList_dotted, String.toList_ofList, String.toList_ofList, hrest]
  · rwa [String.toList_ofList]

/-! ## Readings -/

section Readings

variable {key value name property before after rest : String} {reading : Reading}

theorem read_of_start (h : key = "circuit." ++ rest) (value : String) :
    read key value =
      match split? rest.toList with
      | none => .refused (.malformedKey key)
      | some (name, property) =>
        match Property.ofName? property with
        | none => .refused (.unknownProperty key)
        | some p =>
          match Text.integer? (Text.trim value.toList) with
          | none => .refused (.invalidNumber key value)
          | some n => .setting (String.ofList name) p n := by
  have hstart : afterStart? key.toList = some rest.toList := by
    rw [h]
    exact afterStart?_of_start rest
  unfold read
  generalize afterStart? key.toList = start at hstart
  subst hstart
  rfl

theorem read_of_undotted (h : key = "circuit." ++ rest) (hrest : '.' ∉ rest.toList) :
    read key value = .refused (.malformedKey key) := by
  rw [read_of_start h, split?_of_undotted hrest]

theorem read_of_hollow (h : key = "circuit." ++ (before ++ "." ++ after))
    (hbefore : '.' ∉ before.toList) (hhollow : before = "" ∨ after = "") :
    read key value = .refused (.malformedKey key) := by
  rw [read_of_start h, toList_dotted, split?_of_dotted hbefore, if_pos]
  exact hhollow.imp String.toList_eq_nil_iff.2 String.toList_eq_nil_iff.2

/-- A key of ours is read part by part. -/
theorem read_of_names (h : Names key name property) (value : String) :
    read key value =
      match Property.ofName? property.toList with
      | none => .refused (.unknownProperty key)
      | some p =>
        match Text.integer? (Text.trim value.toList) with
        | none => .refused (.invalidNumber key value)
        | some n => .setting name p n := by
  have hfull : ¬ (name.toList = [] ∨ property.toList = []) := by
    rw [String.toList_eq_nil_iff, String.toList_eq_nil_iff]
    exact not_or.2 ⟨h.name_ne, h.property_ne⟩
  rw [read_of_start h.key_eq, toList_dotted, split?_of_dotted h.undotted, if_neg hfull]
  simp only [String.ofList_toList]

theorem Means.read_eq (h : Means key value reading) : read key value = reading := by
  cases h with
  | foreign start => simp only [read, afterStart?_of_foreign start]
  | undotted start undotted => exact read_of_undotted start undotted
  | hollow start undotted hollow => exact read_of_hollow start undotted hollow
  | unknown names unknown =>
    have hnone : Property.ofName? _ = none :=
      Option.eq_none_iff_forall_ne_some.2 fun p hp => unknown p (ofName?_eq_some_iff.1 hp)
    rw [read_of_names names, hnone]
  | illegible names illegible =>
    have hnone : Text.integer? (Text.trim value.toList) = none :=
      Option.eq_none_iff_forall_ne_some.2 fun n hn =>
        illegible n (Text.integer?_trim_eq_some_iff.1 hn)
    rw [read_of_names names, ofName?_eq_some_iff.2 rfl, hnone]
  | setting names number =>
    rw [read_of_names names, ofName?_eq_some_iff.2 rfl, Text.integer?_trim_eq_some_iff.2 number]

theorem exists_means (key value : String) : ∃ reading, Means key value reading := by
  by_cases hstart : ∀ rest, key ≠ "circuit." ++ rest
  · exact ⟨_, .foreign hstart⟩
  obtain ⟨rest, hkey⟩ : ∃ rest, key = "circuit." ++ rest := by simpa using hstart
  by_cases hdot : '.' ∈ rest.toList
  case neg => exact ⟨_, .undotted hkey hdot⟩
  obtain ⟨name, property, rfl, hname⟩ := exists_dotted hdot
  by_cases hhollow : name = "" ∨ property = ""
  · exact ⟨_, .hollow hkey hname hhollow⟩
  have hnames : Names key name property :=
    ⟨hkey, hname, fun h => hhollow (.inl h), fun h => hhollow (.inr h)⟩
  by_cases hproperty : ∀ p : Property, property ≠ p.name
  · exact ⟨_, .unknown hnames hproperty⟩
  obtain ⟨p, rfl⟩ : ∃ p : Property, property = p.name := by simpa using hproperty
  by_cases hvalue : ∀ n, ¬ Text.Denotes value.toList n
  · exact ⟨_, .illegible hnames hvalue⟩
  obtain ⟨n, hn⟩ : ∃ n, Text.Denotes value.toList n := by simpa using hvalue
  exact ⟨_, .setting hnames hn⟩

/-- A pair is read as what it means. -/
theorem read_eq_iff : read key value = reading ↔ Means key value reading := by
  refine ⟨?_, Means.read_eq⟩
  rintro rfl
  obtain ⟨reading, h⟩ := exists_means key value
  rwa [h.read_eq]

end Readings

end Breaker.Properties
