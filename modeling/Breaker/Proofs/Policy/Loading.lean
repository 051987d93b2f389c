import Breaker.Proofs.Policy.Reading
import Breaker.Proofs.Text.Bytes
import Mathlib.Data.List.Induction
import Mathlib.Data.List.Forall2

/-!
# What properties amount to

Of all the values that are given to one property of a circuit the last one counts (`Last`), whatever
stands between them and whatever could not be read. `Amounts pairs loaded` is the meaning of a list
of properties in these terms alone: a circuit has a policy if the last values of all three
properties are there and positive, and what is wrong with the pairs is reported in their order,
before the circuits that remain incomplete, in the order of the bytes of their names.
-/

namespace Breaker

variable {α : Type}

theorem Table.get?_ofList {l : List (String × α)} (hl : l.Pairwise fun a b => a.1 < b.1)
    (n : String) : (Table.ofList l).get? n = Table.look n l := by
  have hfold : ∀ t : Table α, (l.foldl (fun t e => t.insert e.1 e.2) t).get? n =
      (Table.look n l).or (t.get? n) := by
    induction l with
    | nil => exact fun t => Option.none_or.symm
    | cons e l ih =>
      intro t
      obtain ⟨he, hl⟩ := List.pairwise_cons.1 hl
      rw [List.foldl_cons, ih hl, Table.get?_insert, Table.look]
      by_cases hn : n = e.1
      · have hnone : Table.look n l = none := by
          refine Option.eq_none_iff_forall_ne_some.2 fun v hv => ?_
          exact String.lt_irrefl _ (hn ▸ he _ (Table.mem_of_look hv))
        rw [if_pos hn, if_pos hn, hnone]
        rfl
      · rw [if_neg hn, if_neg hn]
  exact (hfold ∅).trans Option.or_none

namespace Properties

/-- The pairs give this value to the property of the circuit, and none after it. -/
def Last (pairs : List (String × String)) (name : String) (p : Property) (n : Int) : Prop :=
  ∃ before pair after, pairs = before ++ pair :: after ∧ Means pair.1 pair.2 (.setting name p n) ∧
    ∀ later ∈ after, ∀ m, ¬ Means later.1 later.2 (.setting name p m)

variable {pairs pairs' : List (String × String)} {pair : String × String} {name : String}
  {p q : Property} {m n : Int} {table : Table Settings} {s : Settings}

theorem not_last_nil : ¬ Last [] name p n := by
  rintro ⟨before, pair, after, h, -⟩
  exact List.append_ne_nil_of_right_ne_nil before (List.cons_ne_nil pair after) h.symm

/-- The last pair counts if it gives the property a value, and changes nothing otherwise. -/
theorem last_snoc :
    Last (pairs ++ [pair]) name p n ↔
      Means pair.1 pair.2 (.setting name p n) ∨
        Last pairs name p n ∧ ∀ m, ¬ Means pair.1 pair.2 (.setting name p m) := by
  constructor
  · rintro ⟨before, other, after, heq, hother, hafter⟩
    rcases List.eq_nil_or_concat after with rfl | ⟨after, final, rfl⟩
    · obtain ⟨-, hpair⟩ := List.append_inj' heq rfl
      cases hpair
      exact .inl hother
    · rw [List.concat_eq_append] at heq hafter
      rw [← List.cons_append, ← List.append_assoc] at heq
      obtain ⟨rfl, hfinal⟩ := List.append_inj' heq rfl
      cases hfinal
      obtain ⟨hafter, hpair⟩ := List.forall_mem_append.1 hafter
      exact .inr ⟨⟨before, other, after, rfl, hother, hafter⟩, hpair pair List.mem_cons_self⟩
  · rintro (hpair | ⟨⟨before, other, after, rfl, hother, hafter⟩, hpair⟩)
    · exact ⟨pairs, pair, [], rfl, hpair, List.forall_mem_nil _⟩
    · refine ⟨before, other, after ++ [pair], by simp, hother, ?_⟩
      exact List.forall_mem_append.2 ⟨hafter, List.forall_mem_cons.2 ⟨hpair, List.forall_mem_nil _⟩⟩

/-! ## The settings -/

/-- The value of a property of a circuit, if the table has one. -/
def value? (table : Table Settings) (name : String) (p : Property) : Option Int :=
  (table.get? name).bind fun s => s.get? p

theorem get?_set (s : Settings) (p q : Property) (n : Int) :
    (s.set q n).get? p = if p = q then some n else s.get? p := by
  cases p <;> cases q <;> rfl

theorem settings_ext {s s' : Settings} (h : ∀ p, s.get? p = s'.get? p) : s = s' := by
  obtain ⟨f, p, r⟩ := s
  obtain ⟨f', p', r'⟩ := s'
  obtain rfl : f = f' := h .frequency
  obtain rfl : p = p' := h .period
  obtain rfl : r = r' := h .reset
  rfl

theorem settings_snoc (pairs : List (String × String)) (pair : String × String) :
    settings (pairs ++ [pair]) = apply (settings pairs) pair := List.foldl_append

theorem apply_of_setting (table : Table Settings) (h : read pair.1 pair.2 = .setting name q m) :
    apply table pair = table.insert name (((table.get? name).getD {}).set q m) := by
  simp only [apply, h]

theorem value?_apply_of_means (table : Table Settings)
    (h : Means pair.1 pair.2 (.setting name p n)) : value? (apply table pair) name p = some n := by
  rw [apply_of_setting table h.read_eq, value?, Table.get?_insert_self, Option.bind_some, get?_set,
    if_pos rfl]

theorem value?_apply_of_not (table : Table Settings)
    (h : ∀ m, ¬ Means pair.1 pair.2 (.setting name p m)) :
    value? (apply table pair) name p = value? table name p := by
  cases hread : read pair.1 pair.2 with
  | foreign | refused => simp only [apply, hread]
  | setting other q m =>
    rw [apply_of_setting table hread, value?, Table.get?_insert]
    split
    · rename_i hname
      subst hname
      have hne : p ≠ q := by
        rintro rfl
        exact h m (read_eq_iff.1 hread)
      rw [Option.bind_some, get?_set, if_neg hne, value?]
      cases table.get? name with
      | none => cases p <;> rfl
      | some s => rfl
    · rfl

/-- The table holds the last values. -/
theorem value?_settings : value? (settings pairs) name p = some n ↔ Last pairs name p n := by
  induction pairs using List.reverseRecOn with
  | nil => exact iff_of_false (fun h => nomatch h) not_last_nil
  | append_singleton pairs pair ih =>
    rw [settings_snoc, last_snoc]
    by_cases h : ∃ m, Means pair.1 pair.2 (.setting name p m)
    · obtain ⟨m, hm⟩ := h
      rw [value?_apply_of_means _ hm, Option.some.injEq]
      constructor
      · rintro rfl
        exact .inl hm
      · rintro (hn | ⟨-, hnone⟩)
        · cases hm.read_eq.symm.trans hn.read_eq
          rfl
        · exact absurd hm (hnone m)
    · have hnone : ∀ m, ¬ Means pair.1 pair.2 (.setting name p m) := not_exists.1 h
      rw [value?_apply_of_not _ hnone, ih]
      exact ⟨fun hl => .inr ⟨hl, hnone⟩, fun hl => (hl.resolve_left (hnone n)).1⟩

/-- A circuit has an entry because something has been set for it. -/
theorem exists_value_of_settings (h : (settings pairs).get? name = some s) :
    ∃ p n, s.get? p = some n := by
  induction pairs using List.reverseRecOn generalizing s with
  | nil => cases h
  | append_singleton pairs pair ih =>
    rw [settings_snoc] at h
    cases hread : read pair.1 pair.2 with
    | foreign | refused =>
      simp only [apply, hread] at h
      exact ih h
    | setting other q m =>
      rw [apply_of_setting _ hread, Table.get?_insert] at h
      split at h
      · cases h
        exact ⟨q, m, by rw [get?_set, if_pos rfl]⟩
      · exact ih h

/-- The entry of a circuit holds the last values of its properties, at least one. -/
theorem get?_settings :
    (settings pairs).get? name = some s ↔
      (∃ p n, Last pairs name p n) ∧ ∀ p n, s.get? p = some n ↔ Last pairs name p n := by
  constructor
  · intro h
    have hvalues : ∀ p n, s.get? p = some n ↔ Last pairs name p n := fun p n => by
      rw [← value?_settings, value?, h, Option.bind_some]
    obtain ⟨p, n, hn⟩ := exists_value_of_settings h
    exact ⟨⟨p, n, (hvalues p n).1 hn⟩, hvalues⟩
  · rintro ⟨⟨p, n, hn⟩, hvalues⟩
    rw [← value?_settings, value?, Option.bind_eq_some_iff] at hn
    obtain ⟨s', hs', -⟩ := hn
    rw [hs', Option.some.injEq]
    refine settings_ext fun p => Option.ext fun n => ?_
    rw [hvalues, ← value?_settings, value?, hs', Option.bind_some]

/-! ## What they amount to -/

/-- The error in a reading, if it is one. -/
def Reading.error? : Reading → Option ConfigError
  | .refused error => some error
  | _ => none

/-- The policy is made of the last values of the three properties, which are all positive. -/
def Sets (pairs : List (String × String)) (name : String) (policy : Policy) : Prop :=
  ∃ f p r, Last pairs name .frequency f ∧ Last pairs name .period p ∧ Last pairs name .reset r ∧
    0 < f ∧ 0 < p ∧ 0 < r ∧
    policy = .windowed (.ofNat f.toNat) (.ofMillis p.toNat) (.ofMillis r.toNat)

/-- The circuit has been given these values, at least one, and they make no policy. -/
structure Remains (pairs : List (String × String)) (name : String) (s : Settings) : Prop where
  unset : ∀ policy, ¬ Sets pairs name policy
  given : ∃ p n, Last pairs name p n
  settings : ∀ p n, s.get? p = some n ↔ Last pairs name p n

/-- The properties amount to these policies and errors. The errors are those of the pairs, in their
order, and then those of the circuits that remain, in the order of the bytes of their names. -/
structure Amounts (pairs : List (String × String)) (loaded : Loaded) : Prop where
  policies : ∀ name policy, loaded.policies.get? name = some policy ↔ Sets pairs name policy
  errors : ∃ (readings : List Reading) (rest : List (String × Settings)),
    List.Forall₂ (fun pair reading => Means pair.1 pair.2 reading) pairs readings ∧
      (rest.Pairwise fun e e' => Text.bytes e.1 < Text.bytes e'.1) ∧
      (∀ name s, (name, s) ∈ rest ↔ Remains pairs name s) ∧
      loaded.errors = readings.filterMap Reading.error? ++
        rest.map fun e => .incomplete e.1 e.2

theorem policy?_eq_some_iff {policy : Policy} :
    s.policy? = some policy ↔
      ∃ f p r, s.frequency = some f ∧ s.period = some p ∧ s.reset = some r ∧ 0 < f ∧ 0 < p ∧ 0 < r ∧
        policy = .windowed (.ofNat f.toNat) (.ofMillis p.toNat) (.ofMillis r.toNat) := by
  obtain ⟨frequency, period, reset⟩ := s
  constructor
  · intro h
    unfold Settings.policy? at h
    split at h
    · rename_i f p r hf hp hr
      split at h
      · rename_i hpos
        cases h
        exact ⟨f, p, r, hf, hp, hr, hpos.1, hpos.2.1, hpos.2.2, rfl⟩
      · cases h
    · cases h
  · rintro ⟨f, p, r, rfl, rfl, rfl, hf, hp, hr, rfl⟩
    exact if_pos ⟨hf, hp, hr⟩

/-- A circuit has the policy that its entry comes to. -/
theorem get?_policies (table : Table Settings) (name : String) :
    (policies table).get? name = (table.get? name).bind Settings.policy? := by
  have hsorted : (table.entries.filterMap fun e => e.2.policy?.map (e.1, ·)).Pairwise
      fun a b => a.1 < b.1 := by
    refine List.Pairwise.filterMap _ (fun a b hab c hc d hd => ?_) table.ascending
    obtain ⟨policy, -, rfl⟩ := Option.map_eq_some_iff.1 hc
    obtain ⟨policy', -, rfl⟩ := Option.map_eq_some_iff.1 hd
    exact hab
  refine Option.ext fun policy => ?_
  rw [policies, Table.get?_ofList hsorted, Option.bind_eq_some_iff]
  constructor
  · intro h
    obtain ⟨⟨other, s⟩, he, hs⟩ := List.mem_filterMap.1 (Table.mem_of_look h)
    obtain ⟨policy', hpolicy, heq⟩ := Option.map_eq_some_iff.1 hs
    cases heq
    exact ⟨s, (table.mem_entries_iff).1 he, hpolicy⟩
  · rintro ⟨s, hs, hpolicy⟩
    refine Table.look_of_mem hsorted (List.mem_filterMap.2 ⟨(name, s), ?_, ?_⟩)
    · exact (table.mem_entries_iff).2 hs
    · exact Option.map_eq_some_iff.2 ⟨policy, hpolicy, rfl⟩

theorem sets_iff_policy? {policy : Policy} :
    Sets pairs name policy ↔ ((settings pairs).get? name).bind Settings.policy? = some policy := by
  rw [Option.bind_eq_some_iff]
  constructor
  · rintro ⟨f, p, r, hf, hp, hr, hpos⟩
    have hvalue := value?_settings.2 hf
    rw [value?, Option.bind_eq_some_iff] at hvalue
    obtain ⟨s, hs, hfrequency⟩ := hvalue
    have hvalues := (get?_settings.1 hs).2
    exact ⟨s, hs, policy?_eq_some_iff.2
      ⟨f, p, r, hfrequency, (hvalues .period p).2 hp, (hvalues .reset r).2 hr, hpos⟩⟩
  · rintro ⟨s, hs, hpolicy⟩
    have hvalues := (get?_settings.1 hs).2
    obtain ⟨f, p, r, hf, hp, hr, hpos⟩ := policy?_eq_some_iff.1 hpolicy
    exact ⟨f, p, r, (hvalues .frequency f).1 hf, (hvalues .period p).1 hp, (hvalues .reset r).1 hr,
      hpos⟩

/-- The entries that come to no policy. -/
def remaining (table : Table Settings) : List (String × Settings) :=
  table.entries.filter fun e => e.2.policy?.isNone

theorem incompletes_eq (table : Table Settings) :
    incompletes table = (remaining table).map fun e => .incomplete e.1 e.2 := by
  unfold incompletes remaining
  induction table.entries with
  | nil => rfl
  | cons e entries ih =>
    cases he : e.2.policy? with
    | some policy =>
      rw [List.filterMap_cons_none (by rw [he]), List.filter_cons_of_neg (by simp [he]), ih]
    | none =>
      rw [List.filterMap_cons_some (by rw [he]), List.filter_cons_of_pos (by simp [he]), ih,
        List.map_cons]

theorem mem_remaining : (name, s) ∈ remaining (settings pairs) ↔ Remains pairs name s := by
  rw [remaining, List.mem_filter, Table.mem_entries_iff, Option.isNone_iff_eq_none]
  constructor
  · rintro ⟨hs, hnone⟩
    obtain ⟨hgiven, hvalues⟩ := get?_settings.1 hs
    refine ⟨fun policy h => ?_, hgiven, hvalues⟩
    rw [sets_iff_policy?, hs, Option.bind_some, hnone] at h
    cases h
  · rintro ⟨hunset, hgiven, hvalues⟩
    have hs := get?_settings.2 ⟨hgiven, hvalues⟩
    refine ⟨hs, Option.eq_none_iff_forall_ne_some.2 fun policy h => hunset policy ?_⟩
    rw [sets_iff_policy?, hs, Option.bind_some, h]

theorem pairwise_remaining (table : Table Settings) :
    (remaining table).Pairwise fun e e' => Text.bytes e.1 < Text.bytes e'.1 :=
  (table.ascending.filter _).imp Text.bytes_lt_iff.2

/-- The pairs as they are read. -/
def readings (pairs : List (String × String)) : List Reading :=
  pairs.map fun pair => read pair.1 pair.2

theorem forall₂_readings (pairs : List (String × String)) :
    List.Forall₂ (fun pair reading => Means pair.1 pair.2 reading) pairs (readings pairs) := by
  rw [readings, List.forall₂_map_right_iff]
  exact List.forall₂_same.2 fun pair _ => read_eq_iff.1 rfl

theorem load_amounts (pairs : List (String × String)) : Amounts pairs (load pairs) where
  policies name policy := by
    rw [sets_iff_policy?, ← get?_policies]
    rfl
  errors := by
    refine ⟨readings pairs, remaining (settings pairs), forall₂_readings pairs,
      pairwise_remaining _, fun name s => mem_remaining, ?_⟩
    rw [load, incompletes_eq, readings, List.filterMap_map]
    rfl

/-- There is nothing else that the properties amount to. -/
theorem Amounts.unique {loaded loaded' : Loaded} (h : Amounts pairs loaded)
    (h' : Amounts pairs loaded') : loaded = loaded' := by
  obtain ⟨readings, rest, hreadings, hsorted, hrest, herrors⟩ := h.errors
  obtain ⟨readings', rest', hreadings', hsorted', hrest', herrors'⟩ := h'.errors
  have hpolicies : loaded.policies = loaded'.policies :=
    Table.ext_get? fun name => Option.ext fun policy =>
      (h.policies name policy).trans (h'.policies name policy).symm
  have hunique : Relator.RightUnique fun (pair : String × String) (reading : Reading) =>
      Means pair.1 pair.2 reading := fun _ _ _ h h' => h.read_eq.symm.trans h'.read_eq
  have hsame : readings = readings' := List.right_unique_forall₂' hunique hreadings hreadings'
  have hlt := hsorted.imp Text.bytes_lt_iff.1
  have hlt' := hsorted'.imp Text.bytes_lt_iff.1
  have hlook : ∀ {rest : List (String × Settings)}, (rest.Pairwise fun e e' => e.1 < e'.1) →
      ∀ name s, Table.look name rest = some s ↔ (name, s) ∈ rest := fun hlt name s =>
    ⟨Table.mem_of_look, Table.look_of_mem hlt⟩
  have hremain : rest = rest' := Table.eq_of_look_eq hlt hlt' fun name => Option.ext fun s => by
    rw [hlook hlt, hlook hlt', hrest, hrest']
  have hreports : loaded.errors = loaded'.errors := by rw [herrors, herrors', hsame, hremain]
  cases loaded
  cases loaded'
  exact (Loaded.mk.injEq ..).mpr ⟨hpolicies, hreports⟩

/-! ## Reordering -/

/-- What a property is set to depends on the pairs with its key alone. -/
theorem last_filter_iff (pairs : List (String × String)) :
    Last (pairs.filter fun pair => pair.1 = "circuit." ++ (name ++ "." ++ p.name)) name p n ↔
      Last pairs name p n := by
  induction pairs using List.reverseRecOn with
  | nil => rfl
  | append_singleton pairs pair ih =>
    rw [List.filter_append, last_snoc, ← ih]
    by_cases hkey : pair.1 = "circuit." ++ (name ++ "." ++ p.name)
    · have hkept : ([pair].filter fun pair => pair.1 = "circuit." ++ (name ++ "." ++ p.name)) =
          [pair] := List.filter_cons_of_pos (decide_eq_true hkey)
      rw [hkept, last_snoc]
    · have hnone : ∀ m, ¬ Means pair.1 pair.2 (.setting name p m) := by
        intro m hm
        cases hm with
        | setting names number => exact hkey names.key_eq
      have hgone : ([pair].filter fun pair => pair.1 = "circuit." ++ (name ++ "." ++ p.name)) =
          [] := List.filter_cons_of_neg (mt of_decide_eq_true hkey)
      rw [hgone, List.append_nil]
      exact ⟨fun h => .inr ⟨h, hnone⟩, fun h => (h.resolve_left (hnone n)).1⟩

theorem sets_congr (h : ∀ key : String, (pairs'.filter fun pair => pair.1 = key) =
    pairs.filter fun pair => pair.1 = key) {policy : Policy} :
    Sets pairs' name policy ↔ Sets pairs name policy := by
  have hlast : ∀ p n, Last pairs' name p n ↔ Last pairs name p n := fun p n => by
    rw [← last_filter_iff pairs', h, last_filter_iff pairs]
  simp only [Sets, hlast]

/-- A key without the start has no effect. -/
theorem load_of_foreign {key : String} (h : ∀ rest, key ≠ "circuit." ++ rest)
    (before : List (String × String)) (value : String) (after : List (String × String)) :
    load (before ++ (key, value) :: after) = load (before ++ after) := by
  have hread : read key value = .foreign := read_eq_iff.2 (.foreign h)
  have hsettings : settings (before ++ (key, value) :: after) = settings (before ++ after) := by
    unfold settings
    rw [List.foldl_append, List.foldl_append, List.foldl_cons, apply]
    simp only [hread]
  have herror : errorOf (key, value) = none := by simp only [errorOf, hread]
  unfold load
  rw [hsettings, List.filterMap_append, List.filterMap_append, List.filterMap_cons_none herror]

/-! ## The meaning of properties -/

/-- **Properties are loaded as what they mean.** Each pair means one thing; the policies and errors
are the ones that the pairs amount to, and no others would be; keys that are none of ours change
nothing; and where pairs of one key stay in their order, the order of the pairs does not matter for
the policies. -/
theorem load_meaning :
    (∀ key value, ∃! reading, Means key value reading) ∧
      (∀ pairs loaded, load pairs = loaded ↔ Amounts pairs loaded) ∧
      (∀ key : String, (∀ rest, key ≠ "circuit." ++ rest) → ∀ before value after,
        load (before ++ (key, value) :: after) = load (before ++ after)) ∧
      ∀ pairs pairs' : List (String × String),
        (∀ key : String, (pairs'.filter fun pair => pair.1 = key) =
          pairs.filter fun pair => pair.1 = key) →
        (load pairs').policies = (load pairs).policies := by
  refine ⟨fun key value => ?_, fun pairs loaded => ⟨?_, ?_⟩, fun key h before value after => ?_,
    fun pairs pairs' h => ?_⟩
  · exact ⟨read key value, read_eq_iff.1 rfl, fun reading h => h.read_eq.symm⟩
  · rintro rfl
    exact load_amounts pairs
  · exact (load_amounts pairs).unique
  · exact load_of_foreign h before value after
  · refine Table.ext_get? fun name => Option.ext fun policy => ?_
    rw [(load_amounts pairs').policies, (load_amounts pairs).policies, sets_congr h]

/-- A reset that is overridden, a frequency that cannot be read after one that can, and a key of
someone else. -/
def sample : List (String × String) :=
  [("circuit.db.reset", "-1"), ("circuit.db.frequency", "+3"), ("server.port", "80"),
    ("circuit.db.frequency", "many"), ("circuit.db.period", " 100 "), ("circuit.db.reset", "200")]

/-- The pairs of the sample, the period first. -/
def sampleReordered : List (String × String) :=
  [("circuit.db.period", " 100 "), ("circuit.db.reset", "-1"), ("circuit.db.frequency", "+3"),
    ("server.port", "80"), ("circuit.db.frequency", "many"), ("circuit.db.reset", "200")]

theorem load_meaning_sample :
    load sample = load (sample.take 2 ++ sample.drop 3) ∧
      (load sampleReordered).policies = (load sample).policies ∧
      (load sample).policies.get? "db" = some (.windowed 3 (.ofMillis 100) (.ofMillis 200)) ∧
      (load sample).errors = [.invalidNumber "circuit.db.frequency" "many"] := by
  obtain ⟨-, -, hforeign, horder⟩ := load_meaning
  refine ⟨?_, horder sample sampleReordered fun key => ?_, by decide, by decide⟩
  · have hstart : ∀ rest, "server.port" ≠ "circuit." ++ rest := by
      intro rest h
      have hhead := congrArg (fun s => s.toList.head?) h
      simp at hhead
    have hsplit : sample = sample.take 2 ++ ("server.port", "80") :: sample.drop 3 := rfl
    exact (congrArg load hsplit).trans
      (hforeign "server.port" hstart (sample.take 2) "80" (sample.drop 3))
  · by_cases hkey : key = "circuit.db.period"
    · subst hkey
      decide
    · simp [sample, sampleReordered, List.filter_cons, Ne.symm hkey]

end Properties

end Breaker
