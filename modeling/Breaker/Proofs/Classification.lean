import Breaker.Classification
import Breaker.Proofs.Kind
import Mathlib.Data.List.Induction

/-!
# What a rule says of a kind

Of the steps that build a rule all the sets to ignore count, and the last of the sets to trip.
`Makes h steps kind c` is the meaning of the steps in these terms: a kind is ignored if it, or one
above it, is in a set to ignore; otherwise it trips if there is no set to trip or it, or one above
it, is in the last one. A rule classifies as its steps say, and what it says of a kind goes for the
kinds below as well, as far as their ancestors are looked at.
-/

namespace Breaker

variable {K : Type} {steps steps' : List (RuleStep K)} {kinds kinds' : List K}

namespace RuleStep

def trip? : RuleStep K → Option (List K)
  | trip kinds => some kinds
  | ignore _ => none

def ignore? : RuleStep K → Option (List K)
  | trip _ => none
  | ignore kinds => some kinds

/-- The sets to trip, in the order of their steps. -/
def tripSets (steps : List (RuleStep K)) : List (List K) := steps.filterMap trip?

/-- The sets to ignore, in the order of their steps. -/
def ignoreSets (steps : List (RuleStep K)) : List (List K) := steps.filterMap ignore?

theorem tripSets_snoc (steps : List (RuleStep K)) (s : RuleStep K) :
    tripSets (steps ++ [s]) = tripSets steps ++ s.trip?.toList := by
  cases s <;> simp [tripSets, trip?]

theorem ignoreSets_snoc (steps : List (RuleStep K)) (s : RuleStep K) :
    ignoreSets (steps ++ [s]) = ignoreSets steps ++ s.ignore?.toList := by
  cases s <;> simp [ignoreSets, ignore?]

/-- The steps name the same kinds, to ignore and last to trip, in any order and any number of
times. -/
structure SameKinds (steps steps' : List (RuleStep K)) : Prop where
  ignores : ∀ k, k ∈ (ignoreSets steps).flatten ↔ k ∈ (ignoreSets steps').flatten
  trips : Option.Rel (fun kinds kinds' => ∀ k, k ∈ kinds ↔ k ∈ kinds') (tripSets steps).getLast?
    (tripSets steps').getLast?

/-- How trip steps and ignore steps are mixed does not matter. -/
theorem sameKinds_of_eq (htrips : tripSets steps = tripSets steps')
    (hignores : ignoreSets steps = ignoreSets steps') : SameKinds steps steps' where
  ignores k := by rw [hignores]
  trips := by
    rw [htrips]
    cases (tripSets steps').getLast? with
    | none => exact .none
    | some kinds => exact .some fun k => Iff.rfl

section Makes

variable [DecidableEq K]

/-- The kind, or one above it, is among these. -/
def Among (h : Hierarchy K) (kinds : List K) (kind : K) : Prop := ∃ k ∈ kinds, h.isA kind k = true

def Ignored (h : Hierarchy K) (steps : List (RuleStep K)) (kind : K) : Prop :=
  ∃ kinds ∈ ignoreSets steps, Among h kinds kind

def Tripping (h : Hierarchy K) (steps : List (RuleStep K)) (kind : K) : Prop :=
  tripSets steps = [] ∨ ∃ kinds ∈ (tripSets steps).getLast?, Among h kinds kind

/-- What the steps make of a kind. -/
inductive Makes (h : Hierarchy K) (steps : List (RuleStep K)) (kind : K) : Classification → Prop
  | ignore (ignored : Ignored h steps kind) : Makes h steps kind .ignore
  | trip (kept : ¬ Ignored h steps kind) (tripping : Tripping h steps kind) :
      Makes h steps kind .trip
  | unclassified (kept : ¬ Ignored h steps kind) (harmless : ¬ Tripping h steps kind) :
      Makes h steps kind .unclassified

variable {h : Hierarchy K} {kind kind' : K} {c : Classification}

/-! ## Order and repetition -/

theorem Among.congr (heq : ∀ k, k ∈ kinds ↔ k ∈ kinds') :
    Among h kinds kind ↔ Among h kinds' kind := by
  simp only [Among, heq]

theorem ignored_iff : Ignored h steps kind ↔ Among h (ignoreSets steps).flatten kind := by
  constructor
  · rintro ⟨kinds, hkinds, k, hk, hkind⟩
    exact ⟨k, List.mem_flatten.2 ⟨kinds, hkinds, hk⟩, hkind⟩
  · rintro ⟨k, hk, hkind⟩
    obtain ⟨kinds, hkinds, hk⟩ := List.mem_flatten.1 hk
    exact ⟨kinds, hkinds, k, hk, hkind⟩

theorem SameKinds.ignored_iff (hsame : SameKinds steps steps') :
    Ignored h steps kind ↔ Ignored h steps' kind := by
  rw [RuleStep.ignored_iff, RuleStep.ignored_iff]
  exact Among.congr hsame.ignores

theorem SameKinds.tripping_iff (hsame : SameKinds steps steps') :
    Tripping h steps kind ↔ Tripping h steps' kind := by
  have htrips := hsame.trips
  unfold Tripping
  rw [← List.getLast?_eq_none_iff, ← List.getLast?_eq_none_iff]
  generalize (tripSets steps).getLast? = last at htrips ⊢
  generalize (tripSets steps').getLast? = last' at htrips ⊢
  cases htrips with
  | none => rfl
  | some heq => simp [Among.congr heq]

theorem SameKinds.makes (hsame : SameKinds steps steps') (hs : Makes h steps kind c) :
    Makes h steps' kind c := by
  cases hs with
  | ignore ignored => exact .ignore (hsame.ignored_iff.1 ignored)
  | trip kept tripping =>
    exact .trip (mt hsame.ignored_iff.2 kept) (hsame.tripping_iff.1 tripping)
  | unclassified kept harmless =>
    exact .unclassified (mt hsame.ignored_iff.2 kept) (mt hsame.tripping_iff.2 harmless)

/-! ## More to ignore -/

theorem Ignored.of_sublist (hsub : steps.Sublist steps') (hs : Ignored h steps kind) :
    Ignored h steps' kind := by
  obtain ⟨kinds, hkinds, hkind⟩ := hs
  exact ⟨kinds, (hsub.filterMap ignore?).subset hkinds, hkind⟩

/-- Steps that are added, none of them to trip, make a kind ignored or nothing of it. -/
theorem Makes.of_sublist (hsub : steps.Sublist steps') (htrips : tripSets steps' = tripSets steps)
    (hs : Makes h steps kind c) : Makes h steps' kind .ignore ∨ Makes h steps' kind c := by
  have htripping : Tripping h steps' kind ↔ Tripping h steps kind := by
    unfold Tripping
    rw [htrips]
  by_cases hignored : Ignored h steps' kind
  · exact .inl (.ignore hignored)
  · right
    cases hs with
    | ignore ignored => exact absurd (ignored.of_sublist hsub) hignored
    | trip kept tripping => exact .trip hignored (htripping.2 tripping)
    | unclassified kept harmless => exact .unclassified hignored (mt htripping.1 harmless)

/-! ## Kinds below -/

theorem Among.of_descends (hshallow : h.Shallow kind') (hbelow : h.Descends kind' kind)
    (hs : Among h kinds kind) : Among h kinds kind' := by
  obtain ⟨k, hk, hkind⟩ := hs
  exact ⟨k, hk, hshallow.isA_of_descends hbelow hkind⟩

theorem Ignored.of_descends (hshallow : h.Shallow kind') (hbelow : h.Descends kind' kind)
    (hs : Ignored h steps kind) : Ignored h steps kind' := by
  obtain ⟨kinds, hkinds, hkind⟩ := hs
  exact ⟨kinds, hkinds, hkind.of_descends hshallow hbelow⟩

theorem Tripping.of_descends (hshallow : h.Shallow kind') (hbelow : h.Descends kind' kind)
    (hs : Tripping h steps kind) : Tripping h steps kind' := by
  refine hs.imp_right ?_
  rintro ⟨kinds, hkinds, hkind⟩
  exact ⟨kinds, hkinds, hkind.of_descends hshallow hbelow⟩

end Makes

end RuleStep

namespace Rule

open RuleStep

theorem ofSteps_snoc (steps : List (RuleStep K)) (s : RuleStep K) :
    ofSteps (steps ++ [s]) = (ofSteps steps).step s := List.foldl_append

theorem ignores_ofSteps (steps : List (RuleStep K)) :
    (ofSteps steps).ignores = (ignoreSets steps).flatten := by
  induction steps using List.reverseRecOn with
  | nil => rfl
  | append_singleton steps s ih =>
    rw [ofSteps_snoc, ignoreSets_snoc, List.flatten_append, ← ih]
    cases s <;> simp [Rule.step, Rule.trip, Rule.ignore, ignore?]

/-- A rule trips on every kind until it is told on which. -/
theorem trips_ofSteps (steps : List (RuleStep K)) :
    (ofSteps steps).trips = (tripSets steps).getLast?.elim .all .only := by
  induction steps using List.reverseRecOn with
  | nil => rfl
  | append_singleton steps s ih =>
    rw [ofSteps_snoc, tripSets_snoc]
    cases s with
    | trip kinds => simp [Rule.step, Rule.trip, trip?]
    | ignore kinds => simpa [Rule.step, Rule.ignore, trip?] using ih

section Classify

variable [DecidableEq K] {h : Hierarchy K} {kind : K} {c : Classification}

theorem any_ignores_iff :
    ((ofSteps steps).ignores.any fun k => h.isA kind k) = true ↔ Ignored h steps kind := by
  rw [ignores_ofSteps, List.any_eq_true, ignored_iff]
  rfl

theorem covers_trips_iff :
    (ofSteps steps).trips.covers h kind = true ↔ Tripping h steps kind := by
  rw [trips_ofSteps, Tripping, ← List.getLast?_eq_none_iff]
  cases (tripSets steps).getLast? with
  | none => simp [KindSet.covers]
  | some kinds => simp [KindSet.covers, Among]

theorem makes_classify (h : Hierarchy K) (steps : List (RuleStep K)) (kind : K) :
    Makes h steps kind ((ofSteps steps).classify h kind) := by
  unfold classify
  split_ifs with hignored htrips
  · exact .ignore (any_ignores_iff.1 hignored)
  · exact .trip (mt any_ignores_iff.2 hignored) (covers_trips_iff.1 htrips)
  · exact .unclassified (mt any_ignores_iff.2 hignored) (mt covers_trips_iff.2 htrips)

theorem classify_of_makes (hs : Makes h steps kind c) : (ofSteps steps).classify h kind = c := by
  cases hs with
  | ignore ignored => rw [classify, if_pos (any_ignores_iff.2 ignored)]
  | trip kept tripping =>
    rw [classify, if_neg (mt any_ignores_iff.1 kept), if_pos (covers_trips_iff.2 tripping)]
  | unclassified kept harmless =>
    rw [classify, if_neg (mt any_ignores_iff.1 kept), if_neg (mt covers_trips_iff.1 harmless)]

theorem classify_eq_iff : (ofSteps steps).classify h kind = c ↔ Makes h steps kind c := by
  refine ⟨?_, classify_of_makes⟩
  rintro rfl
  exact makes_classify h steps kind

theorem classify_congr (hsame : SameKinds steps steps') (kind : K) :
    (ofSteps steps).classify h kind = (ofSteps steps').classify h kind :=
  (classify_eq_iff.2 (hsame.makes (makes_classify h steps kind))).symm

/-- **A rule follows the hierarchy.** It classifies as its steps say. How trip and ignore steps are
mixed makes no difference to it, nor do the order and the repetition of kinds; more to ignore only
ever makes kinds ignored. The kinds below one that is ignored are ignored, and those below one that
trips trip or are ignored, if their ancestors are few enough to look at them all. -/
theorem classify_follows_hierarchy (h : Hierarchy K) :
    (∀ steps kind c, (ofSteps steps).classify h kind = c ↔ Makes h steps kind c) ∧
      (∀ steps steps', tripSets steps = tripSets steps' → ignoreSets steps = ignoreSets steps' →
        ∀ kind, (ofSteps steps).classify h kind = (ofSteps steps').classify h kind) ∧
      (∀ steps steps', SameKinds steps steps' →
        ∀ kind, (ofSteps steps).classify h kind = (ofSteps steps').classify h kind) ∧
      (∀ steps steps', steps.Sublist steps' → tripSets steps' = tripSets steps →
        ∀ kind, (ofSteps steps').classify h kind = .ignore ∨
          (ofSteps steps').classify h kind = (ofSteps steps).classify h kind) ∧
      ∀ steps kind kind', h.Shallow kind' → h.Descends kind' kind →
        ((ofSteps steps).classify h kind = .ignore →
          (ofSteps steps).classify h kind' = .ignore) ∧
        ((ofSteps steps).classify h kind = .trip →
          (ofSteps steps).classify h kind' = .trip ∨
            (ofSteps steps).classify h kind' = .ignore) := by
  refine ⟨fun steps kind c => classify_eq_iff, fun steps steps' htrips hignores => ?_,
    fun steps steps' hsame => classify_congr hsame, fun steps steps' hsub htrips kind => ?_,
    fun steps kind kind' hshallow hbelow => ⟨fun hignore => ?_, fun htrip => ?_⟩⟩
  · exact classify_congr (sameKinds_of_eq htrips hignores)
  · rw [classify_eq_iff, classify_eq_iff]
    exact (makes_classify h steps kind).of_sublist hsub htrips
  · cases classify_eq_iff.1 hignore with
    | ignore ignored => exact classify_eq_iff.2 (.ignore (ignored.of_descends hshallow hbelow))
  · cases classify_eq_iff.1 htrip with
    | trip kept tripping =>
      rw [classify_eq_iff, classify_eq_iff]
      have htripping := tripping.of_descends hshallow hbelow
      by_cases hignored : Ignored h steps kind'
      · exact .inr (.ignore hignored)
      · exact .inl (.trip hignored htripping)

end Classify

/-- Kinds one below the other, the first at the top. -/
def path (n : Nat) [NeZero n] : Hierarchy (Fin n) where
  parent k := if k = 0 then none else some (k - 1)
  label k := toString k.val

/-- Steps that ignore kind 2 and, after a change of mind, trip on kind 1. -/
def sample : List (RuleStep (Fin 4)) := [.ignore [2], .trip [3], .trip [1]]

/-- The steps mixed otherwise, with repetitions and without the set that is replaced, with more to
ignore, and the kinds below kind 1. -/
theorem classify_follows_hierarchy_path :
    (ofSteps sample).classify (path 4) 0 = .unclassified ∧
      (∀ kind, (ofSteps sample).classify (path 4) kind =
        (ofSteps [.trip [3], .trip [1], .ignore [2]]).classify (path 4) kind) ∧
      (∀ kind, (ofSteps sample).classify (path 4) kind =
        (ofSteps [.trip [1, 1], .ignore [], .ignore [2, 2]]).classify (path 4) kind) ∧
      ((ofSteps (.ignore [1] :: sample)).classify (path 4) 1 = .ignore ∨
        (ofSteps (.ignore [1] :: sample)).classify (path 4) 1 =
          (ofSteps sample).classify (path 4) 1) ∧
      (ofSteps sample).classify (path 4) 3 = .ignore ∧
      ((ofSteps sample).classify (path 4) 2 = .trip ∨
        (ofSteps sample).classify (path 4) 2 = .ignore) := by
  obtain ⟨-, hmixed, hrepeated, hmore, hbelow⟩ := classify_follows_hierarchy (path 4)
  have hsame : SameKinds sample [.trip [1, 1], .ignore [], .ignore [2, 2]] := by
    refine ⟨fun k => ?_, .some fun k => ?_⟩
    · simp [sample, ignoreSets, ignore?]
    · change k ∈ [1] ↔ k ∈ [1, 1]
      simp
  have hshallow : ∀ kind, (path 4).Shallow kind :=
    Hierarchy.shallow_of_card_le (path 4) (by decide)
  have h32 : (path 4).Descends 3 2 := ⟨1, .step (by decide) (.refl 2)⟩
  have h21 : (path 4).Descends 2 1 := ⟨1, .step (by decide) (.refl 1)⟩
  exact ⟨by decide, hmixed _ _ rfl rfl, hrepeated _ _ hsame,
    hmore _ _ (List.sublist_cons_self _ _) rfl 1, (hbelow _ 2 3 (hshallow 3) h32).1 (by decide),
    (hbelow _ 1 2 (hshallow 2) h21).2 (by decide)⟩

end Rule

end Breaker
