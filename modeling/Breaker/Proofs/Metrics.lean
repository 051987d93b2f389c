import Breaker.Metrics
import Breaker.Proofs.Circuit.Subject

/-!
# Tallies by name

A tally counts the effects that are about its name and no others, in the order in which these took
place. So two histories that differ only in how those of different names are interleaved add up to
the same metrics (`ofEffects_congr`). Its counters say how often an effect has taken place, and its
gauge shows where the last transition led (`calls_ofEffects`, `transitions_ofEffects`,
`current_ofEffects`).
-/

namespace Breaker.Metrics

open Effect (about)

variable {name : String} {m m' : Metrics} {e : Effect} {l l' : List Effect}

/-- An effect that is about another name, or about none, leaves the tally as it is. -/
theorem get?_record_of_ne (h : e.circuit? ≠ some name) (m : Metrics) :
    (m.record e).tallies.get? name = m.tallies.get? name := by
  cases e with
  | log entry => rfl
  | notify n => rfl
  | counted circuit outcome =>
    have hne : name ≠ circuit := fun hn => h (congrArg some hn.symm)
    exact (Table.get?_insert _ _ _ _).trans (if_neg hne)
  | switched circuit source target =>
    have hne : name ≠ circuit := fun hn => h (congrArg some hn.symm)
    exact (Table.get?_insert _ _ _ _).trans (if_neg hne)

/-- One that is about the name changes it as the tally alone says. -/
theorem get?_record_of_eq (he : e.circuit? = some name)
    (h : m'.tallies.get? name = m.tallies.get? name) :
    (m'.record e).tallies.get? name = (m.record e).tallies.get? name := by
  have htally : m'.tally name = m.tally name := congrArg (·.getD {}) h
  cases e with
  | log entry => exact h
  | notify n => exact h
  | counted circuit outcome =>
    cases he
    simp only [record, Table.get?_insert_self, htally]
  | switched circuit source target =>
    cases he
    simp only [record, Table.get?_insert_self, htally]

theorem get?_foldl_about (h : m'.tallies.get? name = m.tallies.get? name) :
    (l.foldl record m).tallies.get? name =
      ((about name l).foldl record m').tallies.get? name := by
  induction l generalizing m m' with
  | nil => exact h.symm
  | cons e l ih =>
    by_cases he : e.circuit? = some name
    · have hcons : about name (e :: l) = e :: about name l :=
        List.filter_cons_of_pos (decide_eq_true he)
      rw [hcons]
      exact ih (get?_record_of_eq he h)
    · have hcons : about name (e :: l) = about name l :=
        List.filter_cons_of_neg fun hd => he (of_decide_eq_true hd)
      rw [hcons]
      exact ih (h.trans (get?_record_of_ne he m).symm)

/-- The tally of a name comes of the effects about it. -/
theorem get?_ofEffects (l : List Effect) (name : String) :
    (ofEffects l).tallies.get? name = (ofEffects (about name l)).tallies.get? name :=
  get?_foldl_about rfl

/-- **What is told of each name decides the metrics.** -/
theorem ofEffects_congr (h : ∀ name, about name l' = about name l) :
    ofEffects l' = ofEffects l := by
  have htallies : (ofEffects l').tallies = (ofEffects l).tallies := by
    refine Table.ext_get? fun name => ?_
    rw [get?_ofEffects l' name, get?_ofEffects l name, h name]
  exact congrArg Metrics.mk htallies

/-! ## Counters and gauges -/

/-- The state to which the effect takes the gauge of the circuit. -/
def shows? (name : String) : Effect → Option State
  | .switched circuit _ target => if circuit = name then some target else none
  | _ => none

theorem calls_record (m : Metrics) (e : Effect) (name : String) (o : CallOutcome) :
    ((m.record e).tally name).calls o =
      (m.tally name).calls o + if e = .counted name o then 1 else 0 := by
  by_cases he : e.circuit? = some name
  · cases e with
    | log entry | notify n => rfl
    | counted circuit outcome =>
      cases he
      simp only [tally, record, Table.get?_insert_self, Option.getD_some, Tally.count]
      by_cases ho : o = outcome
      · subst ho
        simp
      · simp [ho, Ne.symm ho]
    | switched circuit source target =>
      cases he
      simp only [tally, record, Table.get?_insert_self, Option.getD_some, Tally.switch,
        reduceCtorEq, ↓reduceIte, Nat.add_zero]
  · have hne : e ≠ .counted name o := by
      rintro rfl
      exact he rfl
    simp only [tally, get?_record_of_ne he, hne, ↓reduceIte, Nat.add_zero]

theorem transitions_record (m : Metrics) (e : Effect) (name : String) (source target : State) :
    ((m.record e).tally name).transitions source target =
      (m.tally name).transitions source target +
        if e = .switched name source target then 1 else 0 := by
  by_cases he : e.circuit? = some name
  · cases e with
    | log entry | notify n => rfl
    | counted circuit outcome =>
      cases he
      simp only [tally, record, Table.get?_insert_self, Option.getD_some, Tally.count,
        reduceCtorEq, ↓reduceIte, Nat.add_zero]
    | switched circuit s s' =>
      cases he
      simp only [tally, record, Table.get?_insert_self, Option.getD_some, Tally.switch]
      by_cases hs : source = s ∧ target = s'
      · obtain ⟨rfl, rfl⟩ := hs
        simp
      · have hne : ¬ (s = source ∧ s' = target) := fun h => hs ⟨h.1.symm, h.2.symm⟩
        simp [hs, hne]
  · have hne : e ≠ .switched name source target := by
      rintro rfl
      exact he rfl
    simp only [tally, get?_record_of_ne he, hne, ↓reduceIte, Nat.add_zero]

/-- A number that goes up by one with each `x` says how many of them there have been. -/
theorem count_ofEffects (number : Metrics → Nat) {x : Effect}
    (h : ∀ m e, number (m.record e) = number m + if e = x then 1 else 0) (l : List Effect) :
    number (ofEffects l) = number {} + l.count x := by
  have hfold : ∀ m : Metrics, number (l.foldl record m) = number m + l.count x := by
    induction l with
    | nil => exact fun m => rfl
    | cons e l ih =>
      intro m
      rw [List.foldl_cons, ih, h, List.count_cons]
      simp only [beq_iff_eq]
      omega
  exact hfold {}

theorem calls_ofEffects (l : List Effect) (name : String) (o : CallOutcome) :
    ((ofEffects l).tally name).calls o = l.count (.counted name o) := by
  have hcount := count_ofEffects (fun m => (m.tally name).calls o)
    (fun m e => calls_record m e name o) l
  exact hcount.trans (Nat.zero_add _)

theorem transitions_ofEffects (l : List Effect) (name : String) (source target : State) :
    ((ofEffects l).tally name).transitions source target =
      l.count (.switched name source target) := by
  have hcount := count_ofEffects (fun m => (m.tally name).transitions source target)
    (fun m e => transitions_record m e name source target) l
  exact hcount.trans (Nat.zero_add _)

/-- The state that the gauge of the circuit shows after the effects, if it has been set. -/
def shown? (name : String) (effects : List Effect) : Option State :=
  (effects.filterMap (shows? name)).getLast?

theorem current_record (m : Metrics) (e : Effect) (name : String) :
    ((m.record e).tally name).current = (shows? name e).or (m.tally name).current := by
  by_cases he : e.circuit? = some name
  · cases e with
    | log entry | notify n => rfl
    | counted circuit outcome =>
      cases he
      simp only [tally, record, Table.get?_insert_self, Option.getD_some, Tally.count, shows?,
        Option.none_or]
    | switched circuit source target =>
      cases he
      simp only [tally, record, Table.get?_insert_self, Option.getD_some, Tally.switch, shows?,
        ↓reduceIte, Option.some_or]
  · have hnone : shows? name e = none := by
      cases e with
      | log entry | notify n | counted circuit outcome => rfl
      | switched circuit source target => exact if_neg fun h => he (congrArg some h)
    rw [hnone, Option.none_or]
    simp only [tally, get?_record_of_ne he]

/-- The gauge shows where the last transition led. -/
theorem current_ofEffects (l : List Effect) (name : String) :
    ((ofEffects l).tally name).current = shown? name l := by
  have hfold : ∀ m : Metrics, ((l.foldl record m).tally name).current =
      (shown? name l).or (m.tally name).current := by
    induction l with
    | nil => exact fun m => rfl
    | cons e l ih =>
      intro m
      rw [List.foldl_cons, ih, current_record]
      unfold shown?
      cases he : shows? name e with
      | none => rw [List.filterMap_cons_none he, Option.none_or]
      | some state =>
        rw [List.filterMap_cons_some he, List.getLast?_cons]
        cases (l.filterMap (shows? name)).getLast? <;> rfl
  exact (hfold {}).trans Option.or_none

end Breaker.Metrics
