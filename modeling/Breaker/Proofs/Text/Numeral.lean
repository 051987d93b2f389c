import Breaker.Text.Blank
import Breaker.Text.Integer
import Mathlib.Data.List.Induction
import Mathlib.Data.Nat.Digits.Defs

/-!
# What a number in a text is

`Denotes text n` says that between blanks the text is a decimal integer of 64 bits, whose value is
`n`. That is what parsing a trimmed text comes to (`integer?_trim_eq_some_iff`): no character of a
numeral is blank, so trimming finds it, and it has one reading.
-/

namespace Breaker.Text

/-- The number that the digits stand for in base ten, the first one being the most significant. -/
def positional (ds : List Char) : Nat :=
  Nat.ofDigits 10 (ds.map fun c => c.toNat - '0'.toNat).reverse

/-- At least one digit and nothing else. -/
def Digits (ds : List Char) : Prop := ds ≠ [] ∧ ∀ c ∈ ds, c.isDigit = true

/-- A decimal integer with its value. -/
inductive Numeral : List Char → Int → Prop
  | unsigned {ds : List Char} (digits : Digits ds) : Numeral ds (positional ds)
  | plus {ds : List Char} (digits : Digits ds) : Numeral ('+' :: ds) (positional ds)
  | minus {ds : List Char} (digits : Digits ds) : Numeral ('-' :: ds) (-positional ds)

/-- The text is a decimal integer of 64 bits between blanks. -/
def Denotes (text : List Char) (n : Int) : Prop :=
  ∃ before numeral after, text = before ++ numeral ++ after ∧
    (∀ c ∈ before, isBlank c = true) ∧ (∀ c ∈ after, isBlank c = true) ∧
    Numeral numeral n ∧ -2 ^ 63 ≤ n ∧ n < 2 ^ 63

/-! ## Numerals -/

theorem decimal_eq (ds : List Char) : decimal ds = positional ds := by
  induction ds using List.reverseRecOn with
  | nil => rfl
  | append_singleton ds c ih =>
    unfold decimal positional at ih ⊢
    rw [List.foldl_append, ih, List.map_append, List.reverse_append]
    simp only [List.foldl_cons, List.foldl_nil, List.map_cons, List.map_nil, List.reverse_singleton,
      List.singleton_append, Nat.ofDigits_cons]
    exact Nat.add_comm ..

theorem natural?_eq_some_iff {ds : List Char} {n : Nat} :
    natural? ds = some n ↔ Digits ds ∧ positional ds = n := by
  have hall : (ds ≠ [] ∧ ds.all Char.isDigit = true) ↔ Digits ds :=
    and_congr_right fun _ => List.all_eq_true
  unfold natural?
  split
  · rename_i h
    rw [Option.some.injEq, decimal_eq, and_iff_right (hall.1 h)]
  · rename_i h
    exact iff_of_false (fun hn => nomatch hn) fun hn => h (hall.2 hn.1)

theorem inRange?_eq_some_iff {m n : Int} :
    inRange? m = some n ↔ m = n ∧ -2 ^ 63 ≤ n ∧ n < 2 ^ 63 := by
  unfold inRange?
  split
  · rw [Option.some.injEq]
    omega
  · simp only [reduceCtorEq, false_iff]
    omega

theorem signed_eq_some_iff {ds : List Char} {sign : Nat → Int} {n : Int} :
    ((natural? ds).bind fun k => inRange? (sign k)) = some n ↔
      Digits ds ∧ sign (positional ds) = n ∧ -2 ^ 63 ≤ n ∧ n < 2 ^ 63 := by
  rw [Option.bind_eq_some_iff]
  constructor
  · rintro ⟨k, hk, hn⟩
    obtain ⟨hdigits, rfl⟩ := natural?_eq_some_iff.1 hk
    exact ⟨hdigits, inRange?_eq_some_iff.1 hn⟩
  · rintro ⟨hdigits, hn⟩
    exact ⟨_, natural?_eq_some_iff.2 ⟨hdigits, rfl⟩, inRange?_eq_some_iff.2 hn⟩

theorem integer?_eq_some_iff {cs : List Char} {n : Int} :
    integer? cs = some n ↔ Numeral cs n ∧ -2 ^ 63 ≤ n ∧ n < 2 ^ 63 := by
  constructor
  · intro h
    unfold integer? at h
    split at h
    · obtain ⟨hdigits, rfl, hrange⟩ := signed_eq_some_iff.1 h
      exact ⟨.plus hdigits, hrange⟩
    · obtain ⟨hdigits, rfl, hrange⟩ := signed_eq_some_iff.1 h
      exact ⟨.minus hdigits, hrange⟩
    · obtain ⟨hdigits, rfl, hrange⟩ := signed_eq_some_iff.1 h
      exact ⟨.unsigned hdigits, hrange⟩
  · rintro ⟨hnumeral, hrange⟩
    unfold integer?
    cases hnumeral with
    | plus digits => exact signed_eq_some_iff.2 ⟨digits, rfl, hrange⟩
    | minus digits => exact signed_eq_some_iff.2 ⟨digits, rfl, hrange⟩
    | unsigned digits =>
      -- a sign is no digit, so this is the third case
      split
      · exact absurd (digits.2 _ List.mem_cons_self) (by decide)
      · exact absurd (digits.2 _ List.mem_cons_self) (by decide)
      · exact signed_eq_some_iff.2 ⟨digits, rfl, hrange⟩

/-! ## Blanks -/

theorem isBlank_of_isDigit {c : Char} (h : c.isDigit = true) : isBlank c = false := by
  have hrange : 48 ≤ c.toNat ∧ c.toNat ≤ 57 := by
    simpa [Char.isDigit, UInt32.le_iff_toNat_le] using h
  simp only [isBlank, blankRanges, inRanges]
  grind

theorem Numeral.not_blank {cs : List Char} {n : Int} (h : Numeral cs n) :
    cs ≠ [] ∧ ∀ c ∈ cs, isBlank c = false := by
  cases h with
  | unsigned digits => exact ⟨digits.1, fun c hc => isBlank_of_isDigit (digits.2 c hc)⟩
  | plus digits | minus digits =>
    refine ⟨List.cons_ne_nil _ _, List.forall_mem_cons.2 ⟨by decide, fun c hc => ?_⟩⟩
    exact isBlank_of_isDigit (digits.2 c hc)

theorem dropWhile_blank {before cs : List Char} (hbefore : ∀ c ∈ before, isBlank c = true)
    (hne : cs ≠ []) (hcs : ∀ c ∈ cs, isBlank c = false) (after : List Char) :
    (before ++ (cs ++ after)).dropWhile isBlank = cs ++ after := by
  obtain ⟨c, rest, rfl⟩ := List.exists_cons_of_ne_nil hne
  rw [List.dropWhile_append_of_pos hbefore, List.cons_append, List.dropWhile_cons_of_neg]
  rw [hcs c List.mem_cons_self]
  decide

/-- Trimming finds what stands between blanks and has none. -/
theorem trim_of_blanks {before cs after : List Char} (hbefore : ∀ c ∈ before, isBlank c = true)
    (hafter : ∀ c ∈ after, isBlank c = true) (hne : cs ≠ [])
    (hcs : ∀ c ∈ cs, isBlank c = false) : trim (before ++ cs ++ after) = cs := by
  have hafter' : ∀ c ∈ after.reverse, isBlank c = true := fun c hc =>
    hafter c (List.mem_reverse.1 hc)
  have hcs' : ∀ c ∈ cs.reverse, isBlank c = false := fun c hc => hcs c (List.mem_reverse.1 hc)
  have hlast := dropWhile_blank hafter' (mt List.reverse_eq_nil_iff.1 hne) hcs' []
  rw [List.append_nil, ← List.reverse_append] at hlast
  unfold trim
  rw [List.append_assoc, dropWhile_blank hbefore hne hcs after, hlast, List.reverse_reverse]

/-- What trimming takes away is blank. -/
theorem exists_blanks_of_trim (cs : List Char) :
    ∃ before after, cs = before ++ trim cs ++ after ∧
      (∀ c ∈ before, isBlank c = true) ∧ ∀ c ∈ after, isBlank c = true := by
  have htake (l : List Char) : ∀ c ∈ l.takeWhile isBlank, isBlank c = true :=
    List.all_eq_true.1 List.all_takeWhile
  have hfront : cs.takeWhile isBlank ++ cs.dropWhile isBlank = cs := List.takeWhile_append_dropWhile
  have hback : (cs.dropWhile isBlank).reverse.takeWhile isBlank ++
      (cs.dropWhile isBlank).reverse.dropWhile isBlank = (cs.dropWhile isBlank).reverse :=
    List.takeWhile_append_dropWhile
  refine ⟨cs.takeWhile isBlank, ((cs.dropWhile isBlank).reverse.takeWhile isBlank).reverse, ?_,
    htake cs, fun c hc => htake _ c (List.mem_reverse.1 hc)⟩
  unfold trim
  rw [List.append_assoc, ← List.reverse_append, hback, List.reverse_reverse, hfront]

/-- **Parsing a trimmed text gives the number that it denotes.** -/
theorem integer?_trim_eq_some_iff {text : List Char} {n : Int} :
    integer? (trim text) = some n ↔ Denotes text n := by
  rw [integer?_eq_some_iff]
  constructor
  · rintro ⟨hnumeral, hrange⟩
    obtain ⟨before, after, htext, hbefore, hafter⟩ := exists_blanks_of_trim text
    exact ⟨before, trim text, after, htext, hbefore, hafter, hnumeral, hrange⟩
  · rintro ⟨before, cs, after, rfl, hbefore, hafter, hnumeral, hrange⟩
    obtain ⟨hne, hcs⟩ := hnumeral.not_blank
    rw [trim_of_blanks hbefore hafter hne hcs]
    exact ⟨hnumeral, hrange⟩

end Breaker.Text
