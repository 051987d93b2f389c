import Breaker.Kind
import Mathlib.Data.Set.Card

/-!
# Ancestors of a kind

`Climbs h n a b` says that `n` steps from kind to parent lead from `a` to `b`, and `Descends h a b`
that some number of steps does, so that `b` is `a` or one of its ancestors. A kind is `Shallow` if
it has no more ancestors, itself included, than are looked at; the line from it may end at a root or
run into a cycle. On shallow kinds, and on no others, `isA` finds all ancestors.
-/

namespace Breaker.Hierarchy

variable {K : Type} {h : Hierarchy K} {a b c : K} {m n : Nat}

inductive Climbs (h : Hierarchy K) : Nat → K → K → Prop where
  | refl (a : K) : Climbs h 0 a a
  | step {n : Nat} {a p b : K} : h.parent a = some p → Climbs h n p b → Climbs h (n + 1) a b

/-- `b` is `a` or an ancestor of `a`, however far above. -/
def Descends (h : Hierarchy K) (a b : K) : Prop := ∃ n, h.Climbs n a b

/-- The distinct ancestors of `a`, with `a` itself. -/
def ancestors (h : Hierarchy K) (a : K) : Set K := {b | h.Descends a b}

/-- The kind has few enough ancestors to look at them all. -/
def Shallow (h : Hierarchy K) (a : K) : Prop := (h.ancestors a).encard ≤ 64

theorem climbs_zero : h.Climbs 0 a b ↔ a = b := by
  constructor
  · rintro ⟨⟩
    rfl
  · rintro rfl
    exact .refl a

theorem climbs_succ : h.Climbs (n + 1) a b ↔ ∃ p, h.parent a = some p ∧ h.Climbs n p b := by
  constructor
  · rintro (_ | ⟨hp, hn⟩)
    exact ⟨_, hp, hn⟩
  · rintro ⟨p, hp, hn⟩
    exact .step hp hn

theorem climbs_add : h.Climbs (m + n) a c ↔ ∃ b, h.Climbs m a b ∧ h.Climbs n b c := by
  induction m generalizing a with
  | zero => simp [climbs_zero]
  | succ m ih =>
    rw [Nat.add_right_comm, climbs_succ]
    simp only [ih, climbs_succ]
    constructor
    · rintro ⟨p, hp, b, hm, hn⟩
      exact ⟨b, ⟨p, hp, hm⟩, hn⟩
    · rintro ⟨b, ⟨p, hp, hm⟩, hn⟩
      exact ⟨p, hp, b, hm, hn⟩

theorem Descends.trans (hab : h.Descends a b) (hbc : h.Descends b c) : h.Descends a c := by
  obtain ⟨m, hm⟩ := hab
  obtain ⟨n, hn⟩ := hbc
  exact ⟨m + n, climbs_add.2 ⟨b, hm, hn⟩⟩

theorem mem_line : b ∈ h.line n a ↔ ∃ m < n, h.Climbs m a b := by
  induction n generalizing a with
  | zero => simp [line]
  | succ n ih =>
    rw [line, List.mem_cons]
    constructor
    · rintro (rfl | hb)
      · exact ⟨0, Nat.succ_pos n, .refl b⟩
      · cases hp : h.parent a with
        | none =>
          rw [hp] at hb
          cases hb
        | some p =>
          rw [hp] at hb
          obtain ⟨m, hm, hmb⟩ := ih.1 hb
          exact ⟨m + 1, Nat.succ_lt_succ hm, .step hp hmb⟩
    · rintro ⟨m, hm, hmb⟩
      cases hmb with
      | refl => exact .inl rfl
      | step hp hmb =>
        right
        rw [hp]
        exact ih.2 ⟨_, Nat.lt_of_succ_lt_succ hm, hmb⟩

theorem length_line_le (h : Hierarchy K) (n : Nat) (a : K) : (h.line n a).length ≤ n := by
  induction n generalizing a with
  | zero => rfl
  | succ n ih =>
    rw [line, List.length_cons]
    cases h.parent a with
    | none => exact Nat.succ_le_succ (Nat.zero_le n)
    | some p => exact Nat.succ_le_succ (ih p)

/-- A shortest climb meets only distinct kinds: one that is met twice would shorten it. -/
theorem Climbs.lt_encard (hn : h.Climbs n a b) (hshort : ∀ m < n, ¬ h.Climbs m a b) :
    (n : ℕ∞) < (h.ancestors a).encard := by
  have hvia : ∀ i : Fin (n + 1), ∃ x, h.Climbs i a x ∧ h.Climbs (n - i) x b := by
    intro i
    rw [← climbs_add, Nat.add_sub_cancel' (Nat.le_of_lt_succ i.isLt)]
    exact hn
  choose via hto hfrom using hvia
  have hlt : ∀ i j, i < j → via i ≠ via j := by
    intro i j hij heq
    have hless : (i : Nat) + (n - j) < n := by omega
    exact hshort _ hless (climbs_add.2 ⟨via j, heq ▸ hto i, hfrom j⟩)
  have hinj : Function.Injective via := by
    intro i j heq
    rcases lt_trichotomy i j with hij | hij | hij
    · exact absurd heq (hlt i j hij)
    · exact hij
    · exact absurd heq.symm (hlt j i hij)
  have hrange : Set.range via ⊆ h.ancestors a := by
    rintro _ ⟨i, rfl⟩
    exact ⟨i, hto i⟩
  have hcard : ((n + 1 : Nat) : ℕ∞) ≤ (h.ancestors a).encard := by
    calc ((n + 1 : Nat) : ℕ∞) = ENat.card (Fin (n + 1)) := by simp
      _ ≤ (Set.range via).encard := hinj.encard_range
      _ ≤ (h.ancestors a).encard := Set.encard_le_encard hrange
  exact lt_of_lt_of_le (Nat.cast_lt.2 (Nat.lt_succ_self n)) hcard

/-- Every ancestor is met before there are more steps than ancestors. -/
theorem Descends.exists_climbs_lt {N : Nat} (hab : h.Descends a b)
    (hfew : (h.ancestors a).encard ≤ N) : ∃ n < N, h.Climbs n a b := by
  classical
  have hshort : ∀ m < Nat.find hab, ¬ h.Climbs m a b := fun m => Nat.find_min hab
  have hlt := ((Nat.find_spec hab).lt_encard hshort).trans_le hfew
  exact ⟨Nat.find hab, Nat.cast_lt.1 hlt, Nat.find_spec hab⟩

/-- Among few kinds there are no long lines. -/
theorem shallow_of_card_le [Fintype K] (h : Hierarchy K) (hcard : Fintype.card K ≤ 64) (a : K) :
    h.Shallow a := by
  calc (h.ancestors a).encard ≤ (Set.univ : Set K).encard :=
        Set.encard_le_encard (Set.subset_univ _)
    _ = Fintype.card K := by simp
    _ ≤ 64 := Nat.cast_le.2 hcard

section IsA

variable [DecidableEq K]

theorem isA_iff_mem_line : h.isA a b = true ↔ b ∈ h.line depth a := List.contains_iff_mem

theorem isA_iff : h.isA a b = true ↔ ∃ n ≤ 63, h.Climbs n a b := by
  rw [isA_iff_mem_line, mem_line]
  simp only [depth, Nat.lt_succ_iff]

theorem descends_of_isA (hab : h.isA a b = true) : h.Descends a b := by
  obtain ⟨n, -, hn⟩ := isA_iff.1 hab
  exact ⟨n, hn⟩

theorem Shallow.isA_iff (ha : h.Shallow a) : h.isA a b = true ↔ h.Descends a b := by
  refine ⟨descends_of_isA, fun hab => ?_⟩
  rw [isA_iff_mem_line, mem_line]
  exact hab.exists_climbs_lt ha

/-- What is true of the kinds looked at is no more than their number. -/
theorem encard_isA_le (h : Hierarchy K) (a : K) : {b | h.isA a b = true}.encard ≤ 64 := by
  have heq : {b | h.isA a b = true} = ((h.line depth a).toFinset : Set K) := by
    ext b
    rw [Set.mem_ofPred_eq, isA_iff_mem_line, List.coe_toFinset, Set.mem_ofPred_eq]
  rw [heq, Set.encard_coe_eq_coe_finsetCard]
  exact_mod_cast (List.toFinset_card_le _).trans (length_line_le h depth a)

/-- Kinds with more ancestors are those of which one is missed. -/
theorem shallow_iff : h.Shallow a ↔ ∀ b, h.isA a b = true ↔ h.Descends a b := by
  refine ⟨fun ha b => ha.isA_iff, fun hall => ?_⟩
  have heq : h.ancestors a = {b | h.isA a b = true} := Set.ext fun b => (hall b).symm
  rw [Shallow, heq]
  exact encard_isA_le h a

theorem isA_self (h : Hierarchy K) (a : K) : h.isA a a = true :=
  isA_iff.2 ⟨0, Nat.zero_le 63, .refl a⟩

/-- What a shallow kind descends from, and all that this is known to be, it is known to be. -/
theorem Shallow.isA_of_descends (ha : h.Shallow a) (hab : h.Descends a b)
    (hbc : h.isA b c = true) : h.isA a c = true :=
  ha.isA_iff.2 (hab.trans (descends_of_isA hbc))

/-- **A kind is known to be its ancestors.** What `isA` finds are the kinds that at most 63 steps
lead to; on shallow kinds, and on no others, these are all ancestors; and on shallow kinds `isA` is
reflexive and transitive. -/
theorem isA_finds_ancestors (h : Hierarchy K) :
    (∀ a b, h.isA a b = true ↔ ∃ n ≤ 63, h.Climbs n a b) ∧
      (∀ a, h.Shallow a ↔ ∀ b, h.isA a b = true ↔ h.Descends a b) ∧
      (∀ a, h.isA a a = true) ∧
      ∀ a b c, h.Shallow a → h.isA a b = true → h.isA b c = true → h.isA a c = true := by
  refine ⟨fun a b => isA_iff, fun a => shallow_iff, isA_self h, fun a b c ha hab hbc => ?_⟩
  exact ha.isA_of_descends (descends_of_isA hab) hbc

end IsA

/-- A round of `n` kinds: the parent of each is the next, and that of the last is the first. -/
def ring (n : Nat) [NeZero n] : Hierarchy (Fin n) where
  parent k := some (k + 1)
  label k := toString k.val

/-- A round of 64 kinds is looked at all around, from the kind itself to the one before it. -/
theorem isA_finds_ancestors_ring :
    (ring 64).Shallow 0 ∧ (ring 64).isA 0 63 = true ∧ (ring 64).isA 63 62 = true ∧
      (ring 64).isA 0 62 = true := by
  have hshallow : (ring 64).Shallow 0 := shallow_of_card_le (ring 64) (by decide) 0
  have hlast : (ring 64).isA 0 63 = true := by decide +kernel
  have hfull : (ring 64).isA 63 62 = true := by decide +kernel
  exact ⟨hshallow, hlast, hfull,
    (isA_finds_ancestors (ring 64)).2.2.2 0 63 62 hshallow hlast hfull⟩

example : (ring 65).isA 0 63 = true ∧ (ring 65).isA 0 64 = false := by decide +kernel

end Breaker.Hierarchy
