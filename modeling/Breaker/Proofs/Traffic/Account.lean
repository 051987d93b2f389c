import Breaker.Proofs.Circuit.Metered
import Breaker.Proofs.Traffic.Story

/-!
# Accounts

A call that has been admitted is in flight until it meets its `Fate`: it is booked under its
outcome, or a transition has made it stale, or it is lost, because it is dropped or because it or
the classifier panics. The events of a circuit account for all of that: as many calls are told to
have been admitted as are in flight or have ended, and as many to have been booked as have ended so
(`Traffic.Audited.run`). The metrics follow the events, since no call of the present epoch ends on
an opened circuit, and so they account for every call as well.
-/

namespace Breaker

/-- What becomes of an admitted call in the end. -/
inductive Fate where
  | booked
  | stale
  | lost
  deriving DecidableEq

theorem Fate.length_eq (ends : List Fate) :
    ends.length = ends.count .booked + ends.count .lost + ends.count .stale := by
  induction ends with
  | nil => rfl
  | cons fate ends ih =>
    cases fate <;> simp [ih] <;> omega

namespace Traffic

open Effect (Accounts Metered heard heardTurns bookings about)

variable {K V E : Type} {kindOf : E → K} {s : Traffic K} {op : Op K V E}

/-- What becomes of the call that the operation ends, if it ends one. -/
def fate? (kindOf : E → K) (s : Traffic K) : Op K V E → Option Fate
  | .finish id action => (s.flight? id).map fun f =>
      if s.circuit.panicsOn kindOf action then .lost
      else if f.epoch = s.transitions then .booked
      else .stale
  | .drop id => (s.flight? id).map fun _ => .lost
  | _ => none

/-- What becomes of the calls that end during the operations, in their order. -/
def fates (kindOf : E → K) : Traffic K → List (Op K V E) → List Fate
  | _, [] => []
  | s, op :: ops => (s.fate? kindOf op).toList ++ fates kindOf (s.step kindOf op) ops

/-! ## One operation -/

section Operations

variable {id : Nat} {f : Flight}

/-- The call that lands is one of those in flight, and the only one of its number. -/
theorem Sound.length_land (hs : s.Sound) (hid : s.flight? id = some f) :
    (s.land id).inFlight.length + 1 = s.inFlight.length := by
  have hnodup : (s.inFlight.map Flight.id).Nodup := List.pairwise_map.2 hs.ids
  have hmem : id ∈ s.inFlight.map Flight.id :=
    List.mem_map.2 ⟨f, mem_of_flight? hid, id_of_flight? hid⟩
  have hids : ((s.land id).inFlight.map Flight.id) = (s.inFlight.map Flight.id).erase id := by
    rw [hnodup.erase_eq_filter, List.filter_map]
    rfl
  have hlength := List.length_erase_of_mem hmem
  rw [← hids, List.length_map, List.length_map] at hlength
  have hpos := List.length_pos_of_mem (mem_of_flight? hid)
  omega

/-- Some number of calls is admitted by the operation; those in flight grow by as many, and shrink
by the one that ends. -/
def Balances (kindOf : E → K) (s : Traffic K) (op : Op K V E) : Prop :=
  ∃ admitted, Accounts s.circuit.name admitted ((s.fate? kindOf op).toList.count .booked)
      (s.effects kindOf op) ∧
    s.inFlight.length + admitted =
      (s.step kindOf op).inFlight.length + (s.fate? kindOf op).toList.length

section Outcomes

variable {out : Traffic K × List Effect × Reply V E}

/-- The operation does not end a call that is in flight. -/
theorem balances_of_none {admitted : Nat} (hout : s.perform kindOf op = out)
    (hfate : s.fate? kindOf op = none) (h : Accounts s.circuit.name admitted 0 out.2.1)
    (hlength : out.1.inFlight.length = s.inFlight.length + admitted) : s.Balances kindOf op := by
  subst hout
  unfold Balances
  rw [hfate]
  exact ⟨admitted, h, hlength.symm⟩

/-- The operation ends the call. -/
theorem balances_of_some {fate : Fate} (hs : s.Sound) (hid : s.flight? id = some f)
    (hout : s.perform kindOf op = out) (hfate : s.fate? kindOf op = some fate)
    (h : Accounts s.circuit.name 0 (if fate = .booked then 1 else 0) out.2.1)
    (hland : out.1.inFlight = (s.land id).inFlight) : s.Balances kindOf op := by
  have hlength : s.inFlight.length = (s.step kindOf op).inFlight.length + 1 := by
    rw [step, hout, hland]
    exact (hs.length_land hid).symm
  subst hout
  unfold Balances
  rw [hfate]
  refine ⟨0, ?_, hlength⟩
  cases fate <;> exact h

end Outcomes

theorem balances_start (kindOf : E → K) (s : Traffic K) (id : Nat) :
    s.Balances kindOf (.start id : Op K V E) := by
  cases hid : s.flight? id with
  | some f => exact balances_of_none (start_of_taken hid) rfl .nil rfl
  | none =>
    cases ha : (s.circuit.arrive s.clock).2.2 with
    | ok p =>
      exact balances_of_none (start_of_ok hid ha) rfl (Circuit.accounts_arrive_of_ok ha)
        List.length_append
    | error e =>
      exact balances_of_none (start_of_error hid ha) rfl (Circuit.accounts_arrive_of_error ha) rfl

theorem fate?_finish (hid : s.flight? id = some f) (action : Action V E) :
    s.fate? kindOf (.finish id action) = some
      (if s.circuit.panicsOn kindOf action then .lost
      else if f.epoch = s.transitions then .booked else .stale) := by
  simp only [fate?, hid, Option.map_some]

theorem balances_finish (hs : s.Sound) (hb : s.transitions < UInt64.size) (kindOf : E → K)
    (id : Nat) (action : Action V E) : s.Balances kindOf (.finish id action) := by
  cases hid : s.flight? id with
  | none =>
    have hfate : s.fate? kindOf (.finish id action) = none := by
      simp only [fate?, hid, Option.map_none]
    exact balances_of_none (finish_of_none hid action) hfate .nil rfl
  | some f =>
    refine balances_of_some hs hid (finish_of_some hid action) (fate?_finish hid action) ?_ rfl
    by_cases he : f.epoch = s.transitions
    · have hg := (hs.generation_eq_iff hb (mem_of_flight? hid)).2 he
      have hne := hs.state_ne_opened hb (mem_of_flight? hid) hg
      have haccounts := Circuit.accounts_settle hg hne s.clock kindOf action
      cases hp : s.circuit.panicsOn kindOf action with
      | true => simpa [hp] using haccounts
      | false => simpa [hp, he] using haccounts
    · have hg := mt (hs.generation_eq_iff hb (mem_of_flight? hid)).1 he
      have hunbooked : (if s.circuit.panicsOn kindOf action = true then Fate.lost
          else if f.epoch = s.transitions then .booked else .stale) ≠ .booked := by
        rw [if_neg he]
        split <;> decide
      rw [(Circuit.settle_of_stale hg s.clock kindOf action).2, if_neg hunbooked]
      exact .nil

theorem balances_drop (hs : s.Sound) (kindOf : E → K) (id : Nat) :
    s.Balances kindOf (.drop id : Op K V E) := by
  cases hid : s.flight? id with
  | none =>
    have hfate : s.fate? kindOf (.drop id : Op K V E) = none := by
      simp only [fate?, hid, Option.map_none]
    exact balances_of_none (drop_of_none hid) hfate .nil rfl
  | some f =>
    have hfate : s.fate? kindOf (.drop id : Op K V E) = some .lost := by
      simp only [fate?, hid, Option.map_some]
    exact balances_of_some hs hid (drop_of_some hid) hfate
      (s.circuit.accounts_abandon s.clock f.permit) rfl

theorem balances_step (hs : s.Sound) (hb : s.transitions < UInt64.size) (kindOf : E → K)
    (op : Op K V E) : s.Balances kindOf op := by
  cases op with
  | start id => exact balances_start kindOf s id
  | finish id action => exact balances_finish hs hb kindOf id action
  | drop id => exact balances_drop hs kindOf id
  | advance | bindClassifier | snapshot => exact balances_of_none rfl rfl .nil rfl
  | forceOpen => exact balances_of_none rfl rfl (s.circuit.accounts_forceOpen s.clock) rfl
  | forceClosed | reset =>
    exact balances_of_none rfl rfl (s.circuit.accounts_forceClosed s.clock) rfl

end Operations

/-! ## Runs -/

/-- The events so far admit the calls that are in flight and those that have ended, and book those
that have ended so. -/
def Audited (s : Traffic K) (ends : List Fate) : Prop :=
  Accounts s.circuit.name (s.inFlight.length + ends.length) (ends.count .booked) s.journal

theorem audited_fresh (name : String) (policy : Policy) (now : Instant) :
    (fresh name policy now : Traffic K).Audited [] := Accounts.nil

namespace Audited

variable {ends : List Fate} {ops : List (Op K V E)}

theorem step (h : s.Audited ends) (hs : s.Sound) (hb : s.transitions < UInt64.size)
    (kindOf : E → K) (op : Op K V E) :
    (s.step kindOf op).Audited (ends ++ (s.fate? kindOf op).toList) := by
  obtain ⟨admitted, haccounts, hlength⟩ := balances_step hs hb kindOf op
  have hcourse := course_step kindOf s op
  have hall := Accounts.append h haccounts
  unfold Audited
  rw [hcourse.journal, hcourse.advance.name_eq, List.length_append, List.count_append]
  have hsum : s.inFlight.length + ends.length + admitted = (s.step kindOf op).inFlight.length +
      (ends.length + (s.fate? kindOf op).toList.length) := by omega
  rwa [← hsum]

theorem run (h : s.Audited ends) (hs : s.Sound)
    (hb : (s.run kindOf ops).transitions < UInt64.size) :
    (s.run kindOf ops).Audited (ends ++ fates kindOf s ops) := by
  induction ops generalizing s ends with
  | nil => rwa [fates, List.append_nil]
  | cons op ops ih =>
    have hb₀ : s.transitions < UInt64.size :=
      Nat.lt_of_le_of_lt (transitions_le_run kindOf s (op :: ops)) hb
    have hrun := ih (h.step hs hb₀ kindOf op) (hs.step op) hb
    rwa [List.append_assoc] at hrun

end Audited

/-! ## The gauge -/

/-- Each transition of the circuit sets its gauge. -/
theorem length_shown (name : String) {l : List Effect} (h : Effect.OnlyAbout name l) :
    (l.filterMap (Metrics.shows? name)).length = Effect.switches l := by
  rw [List.length_filterMap_eq_countP]
  refine List.countP_congr fun e he => ?_
  have hname := h e he
  cases e with
  | log entry | notify n | counted circuit o => simp [Metrics.shows?, Effect.isSwitch]
  | switched circuit source target =>
    cases hname
    simp [Metrics.shows?, Effect.isSwitch]

/-- The gauge is set by the first transition and shows the state from then on. -/
theorem shown?_of_recounted (hrecounted : s.Recounted) (hmetered : Metered s.journal)
    (hname : Effect.OnlyAbout s.circuit.name s.journal) :
    Metrics.shown? s.circuit.name s.journal =
      if s.transitions = 0 then none else some s.circuit.state := by
  have hlength : (s.journal.filterMap (Metrics.shows? s.circuit.name)).length = s.transitions :=
    length_shown s.circuit.name hname
  split
  · rename_i hnone
    have hempty := List.length_eq_zero_iff.1 (hlength.trans hnone)
    rw [Metrics.shown?, hempty]
    rfl
  · rename_i hsome
    have hne : s.journal.filterMap (Metrics.shows? s.circuit.name) ≠ [] := by
      intro hempty
      rw [hempty] at hlength
      exact hsome hlength.symm
    have hstory : ∀ n ∈ s.story, n.event.circuit = s.circuit.name := by
      intro n hn
      rw [story, Effect.story_eq_filterMap] at hn
      obtain ⟨e, he, hnotice⟩ := List.mem_filterMap.1 hn
      have hcircuit := hname e he
      cases e with
      | notify m =>
        cases hnotice
        exact Option.some.inj hcircuit
      | log entry | counted circuit o | switched circuit source target => cases hnotice
    obtain ⟨state, hstate⟩ := Option.isSome_iff_exists.1 (List.getLast?_isSome.2 hne)
    have hleads := hrecounted.leads
    rw [Effect.replay_eq_getD hstory, story, ← hmetered.shown?_eq, Metrics.shown?, hstate] at hleads
    rw [Metrics.shown?, hstate, ← hleads]
    rfl

/-! ## The metrics -/

/-- **The metrics agree with the events and account for every call**, whatever the circuits of other
names do meanwhile. -/
theorem metrics_account_for_calls (kindOf : E → K) (name : String) (policy : Policy) (now : Instant)
    (ops : List (Op K V E)) (world : List Effect) :
    let s := (fresh name policy now : Traffic K).run kindOf ops
    let ends := fates kindOf (fresh name policy now) ops
    let tally := (Metrics.ofEffects world).tally name
    s.transitions < UInt64.size → about name world = s.journal →
      (∀ o, tally.calls o = heard name o.event world) ∧
        (∀ source target,
          tally.transitions source target = heardTurns name source target world) ∧
        tally.current.map State.code =
          (if s.transitions = 0 then none else some s.circuit.state.code) ∧
        heard name .callPermitted world =
          tally.calls .success + tally.calls .ignored + tally.calls .failure +
            s.inFlight.length + ends.count .lost + ends.count .stale := by
  intro s ends tally hb hworld
  have hs : (fresh name policy now : Traffic K).Sound := sound_fresh name policy now
  have hname : s.circuit.name = name := name_run kindOf _ ops
  have haudited : s.Audited ends := (audited_fresh name policy now).run hs hb
  have hrecounted : s.Recounted := (recounted_fresh name policy now).run hs hb
  have hmetered : Metered s.journal := haudited.metered
  have htally : tally = (Metrics.ofEffects s.journal).tally name := by
    rw [← hworld]
    exact congrArg (·.getD {}) (Metrics.get?_ofEffects world name)
  have hheard : ∀ type, heard name type world = heard name type s.journal := fun type => by
    rw [← hworld, Effect.heard_about]
  have hcalls : ∀ o, tally.calls o = heard name o.event world := fun o => by
    rw [htally, Metrics.calls_ofEffects, hmetered.count_counted, hheard]
  refine ⟨hcalls, fun source target => ?_, ?_, ?_⟩
  · rw [htally, Metrics.transitions_ofEffects, hmetered.count_switched, ← hworld,
      Effect.heardTurns_about]
  · have honly : Effect.OnlyAbout s.circuit.name s.journal := by
      rw [hname, ← hworld]
      exact fun e he => of_decide_eq_true (List.mem_filter.1 he).2
    have hshown := shown?_of_recounted hrecounted hmetered honly
    rw [hname] at hshown
    rw [htally, Metrics.current_ofEffects, hshown]
    split <;> rfl
  · have hadmitted := haudited.admitted_eq
    have hbooked := haudited.booked_eq
    rw [hname] at hadmitted hbooked
    have hsuccess := (hcalls .success).trans (hheard .successRecorded)
    have hfailure := (hcalls .failure).trans (hheard .failureRecorded)
    have hignored := (hcalls .ignored).trans (hheard .failureIgnored)
    have hlength := Fate.length_eq ends
    unfold bookings at hbooked
    rw [hheard, hadmitted]
    omega

/-- Two calls overlap and the failure of one makes the other stale; a trial is dropped, the next one
succeeds, and a last call is still out. -/
def everyFate : List (Op Unit Unit Unit) :=
  [.start 0, .start 1, .finish 0 (.error ()), .finish 1 (.ok ()), .start 2,
    .advance Policy.standard.resetTimeout.nanos, .start 2, .drop 2, .start 3, .finish 3 (.ok ()),
    .start 4]

/-- A circuit of another name turns a call away before all that and opens after it. -/
theorem metrics_account_for_everyFate :
    let s : Traffic Unit := (fresh "db" .standard 0).run id everyFate
    let ends := fates id (fresh "db" .standard 0) everyFate
    let world := .counted "cache" .rejected :: s.journal ++ [.switched "cache" .closed .opened]
    let tally := (Metrics.ofEffects world).tally "db"
    ends = [.booked, .stale, .lost, .booked] ∧ s.inFlight.length = 1 ∧
      heard "db" .callRejected world = 1 ∧ tally.calls .rejected = 1 ∧
      tally.current.map State.code = some State.closed.code ∧
      heard "db" .callPermitted world = tally.calls .success + tally.calls .ignored +
        tally.calls .failure + 1 + 1 + 1 := by
  intro s ends world tally
  obtain ⟨hcalls, -, hgauge, hbalance⟩ := metrics_account_for_calls id "db" .standard 0 everyFate
    world (by decide) (by decide)
  have hrejected : heard "db" .callRejected world = 1 := by decide
  exact ⟨by decide, by decide, hrejected, (hcalls .rejected).trans hrejected, hgauge, hbalance⟩

end Traffic

end Breaker
