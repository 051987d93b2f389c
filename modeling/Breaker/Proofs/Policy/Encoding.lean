import Breaker.Policy.Encoding

/-!
# How policies are written

`Duration.Spells j d` and `Policy.Spells j t w r` say which JSON values stand for a duration and for
the three parts of a policy, with no regard to how they are read: parts come in order or by name, a
window may be missing or null, and nanoseconds beyond a second are carried (`Duration.Carries`). A
value is decoded to what it spells, unless this has no threshold or an empty window
(`Policy.ofJson_eq_iff`), and each policy is spelled by what it is encoded to.
-/

namespace Breaker

namespace Json

/-- What the fields have under a name: the value of the first field that is so called. -/
inductive Finds (fields : List (String × Json)) (name : String) : Option Json → Prop
  | missing (absent : ∀ f ∈ fields, f.1 ≠ name) : Finds fields name none
  | first {before after : List (String × Json)} {value : Json}
      (split : fields = before ++ (name, value) :: after) (absent : ∀ f ∈ before, f.1 ≠ name) :
      Finds fields name (some value)

variable {fields : List (String × Json)} {name : String} {found : Option Json} {j : Json}

theorem finds_lookField (fields : List (String × Json)) (name : String) :
    Finds fields name (lookField name fields) := by
  induction fields with
  | nil => exact .missing (List.forall_mem_nil _)
  | cons f rest ih =>
    obtain ⟨n, v⟩ := f
    rw [lookField]
    split
    · rename_i h
      subst h
      exact .first (List.nil_append _).symm (List.forall_mem_nil _)
    · rename_i hn
      generalize lookField name rest = found at ih ⊢
      cases ih with
      | missing absent => exact .missing (List.forall_mem_cons.2 ⟨Ne.symm hn, absent⟩)
      | first split absent =>
        subst split
        exact .first (List.cons_append ..).symm (List.forall_mem_cons.2 ⟨Ne.symm hn, absent⟩)

theorem lookField_of_finds (h : Finds fields name found) : lookField name fields = found := by
  cases h with
  | missing absent =>
    induction fields with
    | nil => rfl
    | cons f rest ih =>
      obtain ⟨hf, hrest⟩ := List.forall_mem_cons.1 absent
      rw [lookField, if_neg (Ne.symm hf), ih hrest]
  | @first before after value split absent =>
    subst split
    induction before with
    | nil => exact if_pos rfl
    | cons f before ih =>
      obtain ⟨hf, hbefore⟩ := List.forall_mem_cons.1 absent
      rw [List.cons_append, lookField, if_neg (Ne.symm hf), ih hbefore]

theorem lookField_eq_iff : lookField name fields = found ↔ Finds fields name found := by
  refine ⟨?_, lookField_of_finds⟩
  rintro rfl
  exact finds_lookField fields name

theorem natBelow?_eq_some_iff {bound n : Nat} :
    j.natBelow? bound = some n ↔ j = .int n ∧ n < bound := by
  cases j with
  | int m =>
    simp only [natBelow?, int.injEq]
    split
    · simp only [Option.some.injEq]
      omega
    · simp only [reduceCtorEq, false_iff]
      omega
  | _ => simp [natBelow?]

end Json

namespace Duration

variable {j secs' nanos' : Json} {secs : UInt64} {nanos : UInt32} {d : Duration}

/-- The seconds and nanoseconds come to the duration, which carries the nanoseconds beyond a
second. -/
structure Carries (secs : UInt64) (nanos : UInt32) (d : Duration) : Prop where
  secs_eq : d.secs = secs.toNat + nanos.toNat / nanosPerSecond
  subsecNanos_eq : d.subsecNanos = nanos.toNat % nanosPerSecond

theorem carries_iff :
    Carries secs nanos d ↔ d.nanos = secs.toNat * nanosPerSecond + nanos.toNat := by
  constructor
  · rintro ⟨hsecs, hnanos⟩
    have hparts := d.secs_mul_add_subsecNanos
    simp only [nanosPerSecond] at *
    omega
  · intro h
    constructor
    · simp only [Duration.secs, h, nanosPerSecond]
      omega
    · simp only [subsecNanos, h, nanosPerSecond]
      omega

/-- The parts come to a duration unless the seconds, with what they carry, are out of range. -/
theorem exists_carries_iff :
    (∃ d, Carries secs nanos d) ↔ secs.toNat + nanos.toNat / nanosPerSecond < UInt64.size := by
  constructor
  · rintro ⟨d, hd⟩
    rw [← hd.secs_eq]
    exact d.secs_lt
  · intro h
    have hlt : secs.toNat * nanosPerSecond + nanos.toNat < limit := by
      simp only [limit, nanosPerSecond, UInt64.size] at *
      omega
    exact ⟨⟨_, hlt⟩, carries_iff.2 rfl⟩

theorem ofParts?_eq_some_iff {s n : Nat} :
    ofParts? s n = some d ↔ d.nanos = s * nanosPerSecond + n := by
  unfold ofParts?
  split
  · rw [Option.some.injEq, Duration.ext_iff]
    exact eq_comm
  · rename_i h
    simp only [reduceCtorEq, false_iff]
    intro hd
    exact h (hd ▸ d.nanos_lt)

/-- The JSON values that stand for a duration. -/
inductive Spells : Json → Duration → Prop
  | listed {secs : UInt64} {nanos : UInt32} {d : Duration} (carries : Carries secs nanos d) :
      Spells (.arr [.int secs.toNat, .int nanos.toNat]) d
  | named {fields : List (String × Json)} {secs : UInt64} {nanos : UInt32} {d : Duration}
      (known : ∀ f ∈ fields, f.1 = "secs" ∨ f.1 = "nanos")
      (secs_found : Json.Finds fields "secs" (some (.int secs.toNat)))
      (nanos_found : Json.Finds fields "nanos" (some (.int nanos.toNat)))
      (carries : Carries secs nanos d) : Spells (.obj fields) d

theorem ofJsonParts?_eq_some_iff :
    ofJsonParts? secs' nanos' = some d ↔
      ∃ (secs : UInt64) (nanos : UInt32),
        secs' = .int secs.toNat ∧ nanos' = .int nanos.toNat ∧ Carries secs nanos d := by
  simp only [ofJsonParts?, Option.bind_eq_bind, Option.bind_eq_some_iff,
    Json.natBelow?_eq_some_iff, ofParts?_eq_some_iff, carries_iff]
  constructor
  · rintro ⟨s, ⟨rfl, hs⟩, n, ⟨rfl, hn⟩, hd⟩
    exact ⟨.ofNatLT s hs, .ofNatLT n hn, rfl, rfl, hd⟩
  · rintro ⟨secs, nanos, rfl, rfl, hd⟩
    exact ⟨_, ⟨rfl, secs.toNat_lt⟩, _, ⟨rfl, nanos.toNat_lt⟩, hd⟩

theorem ofJson?_eq_some_iff : ofJson? j = some d ↔ Spells j d := by
  constructor
  · intro h
    unfold ofJson? at h
    split at h
    · obtain ⟨secs, nanos, rfl, rfl, hd⟩ := ofJsonParts?_eq_some_iff.1 h
      exact .listed hd
    · rename_i fields
      split at h
      · rename_i hknown
        simp only [Option.bind_eq_bind, Option.bind_eq_some_iff, Json.lookField_eq_iff,
          ofJsonParts?_eq_some_iff] at h
        obtain ⟨_, hsecs, _, hnanos, secs, nanos, rfl, rfl, hd⟩ := h
        exact .named (by simpa using hknown) hsecs hnanos hd
      · cases h
    · cases h
  · intro h
    cases h with
    | listed carries =>
      rw [ofJson?, ofJsonParts?_eq_some_iff]
      exact ⟨_, _, rfl, rfl, carries⟩
    | @named fields secs nanos d known secs_found nanos_found carries =>
      rw [ofJson?, if_pos (by simpa using known)]
      simp only [Option.bind_eq_bind, Option.bind_eq_some_iff, Json.lookField_eq_iff,
        ofJsonParts?_eq_some_iff]
      exact ⟨_, secs_found, _, nanos_found, secs, nanos, rfl, rfl, carries⟩

theorem toJson_eq (d : Duration) :
    d.toJson = .obj [("secs", .nat d.secs), ("nanos", .nat d.subsecNanos)] := by
  simp [toJson, Json.ofFields, Json.setField]

theorem spells_toJson (d : Duration) : Spells d.toJson d := by
  have hnanos : d.subsecNanos < UInt32.size := Nat.lt_trans d.subsecNanos_lt (by decide)
  have hcarries : Carries (.ofNatLT d.secs d.secs_lt) (.ofNatLT d.subsecNanos hnanos) d :=
    carries_iff.2 d.secs_mul_add_subsecNanos.symm
  rw [toJson_eq]
  exact .named (by simp) (Json.finds_lookField _ _) (Json.finds_lookField _ _) hcarries

end Duration

namespace Policy

variable {j threshold reset : Json} {found window : Option Json} {t : UInt64} {w : Option Duration}
  {r : Duration} {p : Policy}

/-! ## The parts -/

/-- What stands for a window. -/
inductive WindowSpells : Option Json → Option Duration → Prop
  | missing : WindowSpells none none
  | null : WindowSpells (some .null) none
  | given {j : Json} {d : Duration} (spells : Duration.Spells j d) : WindowSpells (some j) (some d)

/-- The JSON values that stand for a threshold, a window and a reset timeout. -/
inductive Spells : Json → UInt64 → Option Duration → Duration → Prop
  | listed {window reset : Json} {t : UInt64} {w : Option Duration} {r : Duration}
      (window_spells : WindowSpells (some window) w) (reset_spells : Duration.Spells reset r) :
      Spells (.arr [.int t.toNat, window, reset]) t w r
  | named {fields : List (String × Json)} {window : Option Json} {reset : Json} {t : UInt64}
      {w : Option Duration} {r : Duration}
      (threshold_found : Json.Finds fields "threshold" (some (.int t.toNat)))
      (window_found : Json.Finds fields "window" window) (window_spells : WindowSpells window w)
      (reset_found : Json.Finds fields "reset_timeout" (some reset))
      (reset_spells : Duration.Spells reset r) : Spells (.obj fields) t w r

theorem windowOfJson?_eq_some_iff : windowOfJson? found = some w ↔ WindowSpells found w := by
  constructor
  · intro h
    unfold windowOfJson? at h
    split at h
    · cases h
      exact .missing
    · cases h
      exact .null
    · obtain ⟨d, hd, rfl⟩ := Option.map_eq_some_iff.1 h
      exact .given (Duration.ofJson?_eq_some_iff.1 hd)
  · intro h
    cases h with
    | missing | null => rfl
    | given spells =>
      have hd := Duration.ofJson?_eq_some_iff.2 spells
      cases spells <;> simp only [windowOfJson?, hd, Option.map_some]

theorem partsOfJson?_eq_some_iff :
    partsOfJson? (some threshold) window (some reset) = some (t, w, r) ↔
      threshold = .int t.toNat ∧ WindowSpells window w ∧ Duration.Spells reset r := by
  simp only [partsOfJson?, Option.bind_eq_bind, Option.bind_eq_some_iff, Option.some.injEq,
    exists_eq_left', Option.pure_def, Prod.mk.injEq, Json.natBelow?_eq_some_iff,
    windowOfJson?_eq_some_iff, Duration.ofJson?_eq_some_iff]
  constructor
  · rintro ⟨n, ⟨rfl, hn⟩, w, hw, r, hr, rfl, rfl, rfl⟩
    exact ⟨by rw [UInt64.toNat_ofNat_of_lt' hn], hw, hr⟩
  · rintro ⟨rfl, hw, hr⟩
    exact ⟨_, ⟨rfl, t.toNat_lt⟩, w, hw, r, hr, UInt64.ofNat_toNat, rfl, rfl⟩

/-- The parts that are read from a JSON value. -/
def parts? : Json → Option (UInt64 × Option Duration × Duration)
  | .arr [t, w, r] => partsOfJson? (some t) (some w) (some r)
  | .obj fields =>
    partsOfJson? (Json.lookField "threshold" fields) (Json.lookField "window" fields)
      (Json.lookField "reset_timeout" fields)
  | _ => none

theorem ofJson_eq_parts? (j : Json) :
    ofJson j = match parts? j with
      | none => .error .shape
      | some (t, w, r) => (validate t w r).mapError .invalid := rfl

theorem parts?_eq_some_iff : parts? j = some (t, w, r) ↔ Spells j t w r := by
  constructor
  · intro h
    unfold parts? at h
    split at h
    · obtain ⟨rfl, hw, hr⟩ := partsOfJson?_eq_some_iff.1 h
      exact .listed hw hr
    · rename_i fields
      cases ht : Json.lookField "threshold" fields with
      | none => simp [ht, partsOfJson?] at h
      | some threshold =>
        cases hreset : Json.lookField "reset_timeout" fields with
        | none => simp [ht, hreset, partsOfJson?] at h
        | some reset =>
          rw [ht, hreset] at h
          obtain ⟨rfl, hw, hr⟩ := partsOfJson?_eq_some_iff.1 h
          exact .named (Json.lookField_eq_iff.1 ht) (Json.finds_lookField _ _) hw
            (Json.lookField_eq_iff.1 hreset) hr
    · cases h
  · intro h
    cases h with
    | listed window_spells reset_spells =>
      exact partsOfJson?_eq_some_iff.2 ⟨rfl, window_spells, reset_spells⟩
    | named threshold_found window_found window_spells reset_found reset_spells =>
      rw [parts?, Json.lookField_eq_iff.2 threshold_found, Json.lookField_eq_iff.2 window_found,
        Json.lookField_eq_iff.2 reset_found]
      exact partsOfJson?_eq_some_iff.2 ⟨rfl, window_spells, reset_spells⟩

/-! ## The policy -/

theorem validate_zero (w : Option Duration) (r : Duration) :
    validate 0 w r = .error .zeroThreshold := dif_pos rfl

theorem validate_empty (ht : t ≠ 0) (r : Duration) :
    validate t (some .zero) r = .error .emptyWindow := by
  rw [validate, dif_neg ht, if_pos rfl]

theorem validate_parts (hw : p.window ≠ some .zero) :
    validate p.threshold p.window p.resetTimeout = .ok p := by
  rw [validate, dif_neg p.threshold_ne_zero, if_neg hw]

/-- What decoding makes of a JSON value. -/
inductive Decodes (j : Json) : Except DecodeError Policy → Prop
  | shapeless (unspelled : ∀ t w r, ¬ Spells j t w r) : Decodes j (.error .shape)
  | zeroThreshold {w : Option Duration} {r : Duration} (spells : Spells j 0 w r) :
      Decodes j (.error (.invalid .zeroThreshold))
  | emptyWindow {t : UInt64} {r : Duration} (spells : Spells j t (some .zero) r) (ht : t ≠ 0) :
      Decodes j (.error (.invalid .emptyWindow))
  | policy {p : Policy} (spells : Spells j p.threshold p.window p.resetTimeout)
      (hw : p.window ≠ some .zero) : Decodes j (.ok p)

theorem ofJson_of_spells (h : Spells j t w r) : ofJson j = (validate t w r).mapError .invalid := by
  rw [ofJson_eq_parts?, parts?_eq_some_iff.2 h]

theorem ofJson_of_unspelled (h : ∀ t w r, ¬ Spells j t w r) : ofJson j = .error .shape := by
  have hnone : parts? j = none :=
    Option.eq_none_iff_forall_ne_some.2 fun (t, w, r) hparts =>
      h t w r (parts?_eq_some_iff.1 hparts)
  rw [ofJson_eq_parts?, hnone]

theorem ofJson_of_decodes {result : Except DecodeError Policy} (h : Decodes j result) :
    ofJson j = result := by
  cases h with
  | shapeless unspelled => exact ofJson_of_unspelled unspelled
  | zeroThreshold spells =>
    rw [ofJson_of_spells spells, validate_zero]
    rfl
  | emptyWindow spells ht =>
    rw [ofJson_of_spells spells, validate_empty ht]
    rfl
  | policy spells hw =>
    rw [ofJson_of_spells spells, validate_parts hw]
    rfl

theorem decodes_ofJson (j : Json) : Decodes j (ofJson j) := by
  by_cases hspelled : ∃ t w r, Spells j t w r
  · obtain ⟨t, w, r, h⟩ := hspelled
    rw [ofJson_of_spells h]
    by_cases ht : t = 0
    · subst ht
      rw [validate_zero]
      exact .zeroThreshold h
    · by_cases hw : w = some .zero
      · subst hw
        rw [validate_empty ht]
        exact .emptyWindow h ht
      · have hvalid := validate_parts (p := ⟨t, w, r, ht⟩) hw
        rw [hvalid]
        exact .policy h hw
  · have hnone : ∀ t w r, ¬ Spells j t w r := by
      intro t w r h
      exact hspelled ⟨t, w, r, h⟩
    rw [ofJson_of_unspelled hnone]
    exact .shapeless hnone

/-- Decoding is the function that `Decodes` says it is. -/
theorem ofJson_eq_iff {result : Except DecodeError Policy} :
    ofJson j = result ↔ Decodes j result := by
  refine ⟨?_, ofJson_of_decodes⟩
  rintro rfl
  exact decodes_ofJson j

/-- A value spells at most one threshold, window and reset timeout. -/
theorem Spells.unique {t' : UInt64} {w' : Option Duration} {r' : Duration} (h : Spells j t w r)
    (h' : Spells j t' w' r') : t' = t ∧ w' = w ∧ r' = r := by
  have hparts := (parts?_eq_some_iff.2 h').symm.trans (parts?_eq_some_iff.2 h)
  simpa using hparts

theorem toJson_eq (p : Policy) :
    p.toJson = .obj [("threshold", .nat p.count),
      ("window", .ofOption (p.window.map Duration.toJson)),
      ("reset_timeout", p.resetTimeout.toJson)] := by
  simp [toJson, Json.ofFields, Json.setField]

theorem windowSpells_ofOption (w : Option Duration) :
    WindowSpells (some (.ofOption (w.map Duration.toJson))) w := by
  cases w with
  | none => exact .null
  | some d => exact .given d.spells_toJson

theorem spells_toJson (p : Policy) : Spells p.toJson p.threshold p.window p.resetTimeout := by
  rw [toJson_eq]
  exact .named (Json.finds_lookField _ _) (Json.finds_lookField _ _)
    (windowSpells_ofOption p.window) (Json.finds_lookField _ _) p.resetTimeout.spells_toJson

/-- A policy survives being encoded unless its window is empty. -/
theorem ofJson_toJson (hw : p.window ≠ some .zero) : ofJson p.toJson = .ok p :=
  ofJson_of_decodes (.policy p.spells_toJson hw)

theorem window_ne_of_ofJson (h : ofJson j = .ok p) : p.window ≠ some .zero := by
  cases ofJson_eq_iff.1 h with
  | policy _ hw => exact hw

/-- What is decoded, encoded and decoded again is what was decoded at first. -/
theorem ofJson_bind_toJson (j : Json) : ((ofJson j).bind fun p => ofJson p.toJson) = ofJson j := by
  cases h : ofJson j with
  | error e => rfl
  | ok p =>
    rw [Except.bind]
    exact ofJson_toJson (window_ne_of_ofJson h)

theorem parts_of_ofJson (h : Spells j t w r) (hp : ofJson j = .ok p) :
    p.threshold = t ∧ p.window = w ∧ p.resetTimeout = r := by
  cases ofJson_eq_iff.1 hp with
  | policy spells _ => exact h.unique spells

/-- What spells the parts of a policy is refused for these parts alone. -/
theorem exists_ofJson_error_iff (h : Spells j t w r) :
    (∃ e, ofJson j = .error e) ↔ t = 0 ∨ w = some .zero := by
  constructor
  · rintro ⟨e, he⟩
    cases ofJson_eq_iff.1 he with
    | shapeless unspelled => exact absurd h (unspelled t w r)
    | zeroThreshold spells => exact .inl (spells.unique h).1
    | emptyWindow spells _ => exact .inr (spells.unique h).2.1
  · intro hempty
    cases hj : ofJson j with
    | error e => exact ⟨e, rfl⟩
    | ok p =>
      obtain ⟨rfl, rfl, rfl⟩ := parts_of_ofJson h hj
      exact absurd hempty (not_or.2 ⟨p.threshold_ne_zero, window_ne_of_ofJson hj⟩)

theorem nanos_pos_of_ofJson (h : ofJson j = .ok p) : ∀ d ∈ p.window, 0 < d.nanos := by
  intro d hd
  refine Nat.pos_of_ne_zero fun hzero => window_ne_of_ofJson h ?_
  rw [Option.mem_def.1 hd, Option.some.injEq]
  exact Duration.ext hzero

/-- Decoding is safe and normalises. A policy that is decoded has a threshold, no empty window and
durations in normal form, it is decoded from its own encoding again, and to encode what was decoded
changes nothing for the next decoding. A value that spells three parts is refused if these have no
threshold or, nanoseconds carried, an empty window, and only then; if it is not, the policy has
these parts. Every other value is refused for its shape; the parts of a duration are in range if the
seconds, with what is carried, fit into 64 bits. -/
theorem decoding_normalises (j : Json) :
    (∀ p, ofJson j = .ok p → 1 ≤ p.count ∧ (∀ d ∈ p.window, 0 < d.nanos) ∧
      (∀ d ∈ p.window, d.subsecNanos < Duration.nanosPerSecond) ∧
      p.resetTimeout.subsecNanos < Duration.nanosPerSecond ∧ ofJson p.toJson = .ok p) ∧
    ((ofJson j).bind fun p => ofJson p.toJson) = ofJson j ∧
    (∀ t w r, Spells j t w r → ((∃ e, ofJson j = .error e) ↔ t = 0 ∨ w = some .zero) ∧
      ∀ p, ofJson j = .ok p → p.threshold = t ∧ p.window = w ∧ p.resetTimeout = r) ∧
    (ofJson j = .error .shape ↔ ∀ t w r, ¬ Spells j t w r) ∧
    ∀ secs nanos, (∃ d, Duration.Carries secs nanos d) ↔
      secs.toNat + nanos.toNat / Duration.nanosPerSecond < UInt64.size := by
  refine ⟨?decoded, ofJson_bind_toJson j, ?spelled, ?shape, fun _ _ => Duration.exists_carries_iff⟩
  case decoded =>
    intro p hp
    exact ⟨p.one_le_count, nanos_pos_of_ofJson hp, fun d _ => d.subsecNanos_lt,
      p.resetTimeout.subsecNanos_lt, ofJson_toJson (window_ne_of_ofJson hp)⟩
  case spelled =>
    intro t w r h
    exact ⟨exists_ofJson_error_iff h, fun p hp => parts_of_ofJson h hp⟩
  case shape =>
    constructor
    · intro h
      cases ofJson_eq_iff.1 h with
      | shapeless unspelled => exact unspelled
    · exact ofJson_of_unspelled

/-- Parts in order, a window by name and out of order, and in both durations nanoseconds to carry,
for the window just within range. -/
def carried : Json :=
  .arr [.int 3, .obj [("nanos", .int 4294967295), ("secs", .int 18446744073709551611)],
    .arr [.int 1, .int 1999999999]]

/-- The policy that `carried` stands for. -/
def carriedPolicy : Policy where
  threshold := 3
  window := some (.ofParts 18446744073709551615 294967295)
  resetTimeout := .ofParts 2 999999999
  threshold_ne_zero := by decide

theorem spells_carried :
    Spells carried carriedPolicy.threshold carriedPolicy.window carriedPolicy.resetTimeout := by
  have hwindow : Duration.Carries 18446744073709551611 4294967295
      (.ofParts 18446744073709551615 294967295) := Duration.carries_iff.2 (by decide)
  have hreset : Duration.Carries 1 1999999999 (.ofParts 2 999999999) :=
    Duration.carries_iff.2 (by decide)
  refine Spells.listed (t := 3) (.given (.named ?known ?secs ?nanos hwindow)) (.listed hreset)
  case known => simp
  case secs | nanos => exact Json.finds_lookField _ _

theorem decoding_normalises_carried :
    ofJson carried = .ok carriedPolicy ∧ ofJson carriedPolicy.toJson = .ok carriedPolicy ∧
      ¬ ∃ e, ofJson carried = .error e := by
  have hne : carriedPolicy.window ≠ some .zero := by decide
  have hok : ofJson carried = .ok carriedPolicy := ofJson_of_decodes (.policy spells_carried hne)
  obtain ⟨hdecoded, -, hspelled, -⟩ := decoding_normalises carried
  obtain ⟨-, -, -, -, hagain⟩ := hdecoded carriedPolicy hok
  obtain ⟨hrefused, -⟩ := hspelled _ _ _ spells_carried
  exact ⟨hok, hagain, mt hrefused.1 (not_or.2 ⟨carriedPolicy.threshold_ne_zero, hne⟩)⟩

end Policy

end Breaker
