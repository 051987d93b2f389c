import Breaker.Proofs.Session.Admission
import Breaker.Proofs.Traffic.Fruitless

/-!
# Dropping a call in flight

What it does to drop a call is settled by its admission and by the transitions since: nothing,
unless the call is the trial that its circuit still waits for. That one gives its slot back, and the
next call gets it, however often this happens.
-/

namespace Breaker

variable {K : Type}

namespace World

open Circuit (Later)

variable {w : World K} {id : String} {route : Route K} {permit : Option Permit} {p : Permit}
  {c : Circuit K} {a : Address}

variable [DecidableEq K] {acts before since : List (Act K)} {act : Act K}

/-- To drop the call does nothing but end it. -/
def Unscathed (w : World K) (id : String) : Prop :=
  w.command (.cancel id) = (w.forget id, [], .flag true)

/-- Every call that arrives at the circuit there is admitted as a trial, on whatever way. -/
def AdmitsTrial (w : World K) (a : Address) : Prop :=
  ∀ route : Route K, route.address = a → ∃ p, (w.enter route).2.2 = .ok p ∧ p.trial = true

/-- To drop the call gives the trial slot of the circuit `c` back. -/
structure HandsBack (w : World K) (id : String) (a : Address) (c : Circuit K) : Prop where
  circuit : w.circuit? a = some c
  halfOpen : c.state = .halfOpen
  cancel : w.command (.cancel id) =
    (((w.forget id).setCircuit a (c.handedBack w.clock)).note (heard a (c.handingBack w.clock)),
      heard a (c.handingBack w.clock), .flag true)
  next : ∀ later, w.clock ≤ later →
    ({ (w.command (.cancel id)).1 with clock := later } : World K).AdmitsTrial a

/-- An opened circuit whose cooldown is over admits trials on every way. -/
theorem admitsTrial_of_opened (hc : w.circuit? a = some c) (hs : c.state = .opened)
    (hl : c.cooldownLeft? w.clock = none) : w.AdmitsTrial a := by
  rintro route rfl
  rcases w.arrives_enter route with ⟨c', harrives⟩ | ⟨hnone, -⟩
  · have hstate : c'.state = .opened ∧ c'.cooldownLeft? w.clock = none := by
      rcases harrives.found c hc with rfl | ⟨f, rfl⟩
      · exact ⟨hs, hl⟩
      · have hbound := c.undecided_bindClassifier f
        refine ⟨(Circuit.state_bindClassifier f).trans hs, ?_⟩
        exact Circuit.cooldownLeft?_mono hl (Nat.le_refl _) hbound.openedAt_eq hbound.policy_eq
    obtain ⟨p, hp, ht⟩ := Circuit.arrive_trial hstate.1 hstate.2
    exact ⟨p, (harrives.answer p).2 hp, ht⟩
  · rw [hnone] at hc
    cases hc

/-! ## One call -/

theorem cancel_of_inFlight (h : w.InFlight id route permit) :
    ∃ outcome, w.command (.cancel id) =
      ((w.drop id { route, permit, outcome }).1, (w.drop id { route, permit, outcome }).2,
        .flag true) := by
  obtain ⟨outcome, hcall⟩ := h
  refine ⟨outcome, ?_⟩
  show w.cancelCall id = _
  simp only [cancelCall, World.dropCall, hcall, Table.contains, Option.isSome_some]

theorem unscathed_of_unpolled (h : w.InFlight id route none) : w.Unscathed id := by
  obtain ⟨outcome, hcancel⟩ := cancel_of_inFlight h
  exact hcancel

theorem cancel_of_permit (h : w.InFlight id route (some p))
    (hc : w.circuit? route.address = some c) :
    w.command (.cancel id) =
      (((w.forget id).setCircuit route.address (c.abandon w.clock p).1).note
          (heard route.address (c.abandon w.clock p).2),
        heard route.address (c.abandon w.clock p).2, .flag true) := by
  obtain ⟨outcome, hcancel⟩ := cancel_of_inFlight h
  have hforget := (w.circuit?_forget id route.address).trans hc
  rw [hcancel]
  simp only [World.drop, hforget]
  rfl

theorem unscathed_of_dead (h : w.InFlight id route (some p))
    (hc : w.circuit? route.address = some c) (hdead : c.abandon w.clock p = (c, [])) :
    w.Unscathed id := by
  have hforget := (w.circuit?_forget id route.address).trans hc
  have hheard : heard route.address [] = [] := by cases route.address <;> rfl
  unfold Unscathed
  rw [cancel_of_permit h hc, hdead, hheard, setCircuit_self hforget, note_nil]

theorem handsBack_of_trial (h : w.InFlight id route (some p))
    (hc : w.circuit? route.address = some c) (hs : c.state = .halfOpen) (ht : p.trial = true)
    (hg : c.generation = p.generation) (hl : c.cooldownLeft? w.clock = none) :
    w.HandsBack id route.address c := by
  have hcancel : w.command (.cancel id) =
      (((w.forget id).setCircuit route.address (c.handedBack w.clock)).note
          (heard route.address (c.handingBack w.clock)),
        heard route.address (c.handingBack w.clock), .flag true) := by
    rw [cancel_of_permit h hc, Circuit.abandon_of_trial ht hg hs]
  have hforget := (w.circuit?_forget id route.address).trans hc
  refine ⟨hc, hs, hcancel, fun later hle => ?_⟩
  refine admitsTrial_of_opened (c := c.handedBack w.clock) ?_ rfl
    (Circuit.cooldownLeft?_mono hl hle rfl rfl)
  have hset := circuit?_setCircuit hforget (c.handedBack w.clock) route.address
  rw [if_pos rfl] at hset
  rw [hcancel, ← hset]
  cases route.address <;> rfl

/-! ## Every stage -/

theorem turnsAt_append (w : World K) (a : Address) (l m : List (Act K)) :
    w.turnsAt a (l ++ m) = w.turnsAt a l + (w.play l).turnsAt a m := by
  induction l generalizing w with
  | nil => exact (Nat.zero_add _).symm
  | cons act l ih =>
    show Effect.switches _ + (w.perform act).turnsAt a (l ++ m) = _
    rw [ih, ← Nat.add_assoc]
    rfl

/-- What it does to drop the call that is in flight after the acts, by how far it has come. -/
structure DropsByStage (w : World K) (acts : List (Act K)) (id : String) (route : Route K)
    (permit : Option Permit) : Prop where
  /-- The call has not been polled. -/
  unpolled : permit = none → (w.play acts).Unscathed id
  admitted : ∀ p, permit = some p → ∃ before act since c,
    w.Admission acts id route p before act since c ∧ (c.state = .closed ∨ c.state = .halfOpen)
  /-- It was admitted by a closed circuit, or there has been a transition since. -/
  ordinary : ∀ p before act since c, permit = some p →
    w.Admission acts id route p before act since c →
    c.state = .closed ∨ 0 < ((w.play before).perform act).turnsAt route.address since →
    (w.play acts).Unscathed id
  /-- It made the circuit half-open, and there has been no transition since. -/
  trial : ∀ p before act since c, permit = some p →
    w.Admission acts id route p before act since c →
    c.state = .halfOpen → ((w.play before).perform act).turnsAt route.address since = 0 →
    ∃ c', c'.openedAt = c.openedAt ∧ (w.play acts).HandsBack id route.address c'

/-- The circuit that admitted the call, as it is now. -/
theorem Admission.later (h : w.Admission acts id route p before act since c) :
    ∃ c', (w.play acts).circuit? route.address = some c' ∧
      Later (((w.play before).perform act).turnsAt route.address since) c c' ∧
      ((w.play before).perform act).clock ≤ (w.play acts).clock := by
  have hpasses := ((w.play before).perform act).passes_play since route.address
  have hplay : w.play acts = ((w.play before).perform act).play since := by
    rw [h.split, play_append, play_cons]
  obtain ⟨c', hc', hlater⟩ := hpasses.circuit c h.admits.circuit
  rw [hplay]
  exact ⟨c', hc', hlater, hpasses.clock_le⟩

theorem dropsByStage (hempty : ∀ id, w.calls.get? id = none)
    (h : (w.play acts).InFlight id route permit)
    (hfew : w.turnsAt route.address acts < UInt64.size) :
    w.DropsByStage acts id route permit := by
  constructor
  case unpolled =>
    rintro rfl
    exact unscathed_of_unpolled h
  case admitted =>
    rintro p rfl
    obtain ⟨before, act, since, c, hadmission⟩ := exists_admission hempty acts h
    refine ⟨before, act, since, c, hadmission, ?_⟩
    rw [hadmission.admits.grants.state_eq]
    cases p.trial with
    | false => exact .inl rfl
    | true => exact .inr rfl
  case ordinary =>
    rintro p before act since c rfl hadmission hstage
    obtain ⟨c', hc', hlater, -⟩ := hadmission.later
    have hgrants := hadmission.admits.grants
    refine unscathed_of_dead h hc' ?_
    rcases hstage with hclosed | hturned
    · refine Circuit.abandon_of_ordinary ?_ c' _
      refine Bool.eq_false_iff.2 fun ht => ?_
      cases hclosed.symm.trans (hgrants.trial_iff.1 ht)
    · refine hlater.abandon_of_turned hgrants.generation_eq hturned (Nat.lt_of_le_of_lt ?_ hfew) _
      rw [hadmission.split, turnsAt_append]
      exact Nat.le_trans (Nat.le_add_left ..) (Nat.le_add_left ..)
  case trial =>
    rintro p before act since c rfl hadmission hhalf hnone
    obtain ⟨c', hc', hlater, hle⟩ := hadmission.later
    have hgrants := hadmission.admits.grants
    have ht : p.trial = true := hgrants.trial_iff.2 hhalf
    have hgeneration : c'.generation = p.generation := by
      rw [hlater.generation_eq, hnone, hgrants.generation_eq]
      exact UInt64.add_zero _
    have hopened := hlater.openedAt_eq hnone hhalf
    have hcooled := Circuit.cooldownLeft?_mono (hgrants.cooled ht) hle hopened hlater.policy_eq
    exact ⟨c', hopened, handsBack_of_trial h hc' ((hlater.state_eq hnone).trans hhalf) ht
      hgeneration hcooled⟩

/-- A call that is made and dropped before it is polled has never been there. -/
theorem play_start_cancel (hfree : w.calls.get? id = none) (origin : Origin K)
    (outcome : Option (Action Json (Failure K))) :
    w.play [.command (.start id origin outcome true), .command (.cancel id)] = w := by
  have hdrop : w.dropCall id = (w, []) := by simp only [World.dropCall, hfree]
  show ((w.startCall id origin outcome true).1.dropCall id).1 = w
  unfold World.startCall
  cases w.route origin with
  | error answer => exact congrArg Prod.fst hdrop
  | ok route =>
    have hcalls : (w.calls.insert id { route, outcome }).erase id = w.calls := by
      rw [Table.erase_insert, Table.erase_of_get?_eq_none hfree]
    simp only [hdrop, ↓reduceIte]
    simp only [World.dropCall, Table.get?_insert_self, World.drop, World.forget, hcalls]

/-- **What it does to drop a call in flight** depends on its stage alone. One that has not been
polled is gone as if it had never been made; one that was admitted by a closed circuit or has seen a
transition leaves no trace; the trial opens its circuit again, which counts as opened when it did,
and the next call is a trial. So trials that are cancelled or panic, one after the other, neither
bar the next caller nor count. -/
theorem cancel_at_every_stage (s : Setup K) (acts : List (Act K)) :
    (∀ id route permit, (s.world.1.play acts).InFlight id route permit →
      s.world.1.turnsAt route.address acts < UInt64.size →
      s.world.1.DropsByStage acts id route permit) ∧
    (∀ id origin outcome, (s.world.1.play acts).calls.get? id = none →
      (s.world.1.play acts).play
        [.command (.start id origin outcome true), .command (.cancel id)] = s.world.1.play acts) ∧
    ∀ (name : String) (policy : Policy) (now : Instant) (before ops : List (Op K Json (Failure K)))
      (t : Instant),
      let traffic := (Traffic.fresh name policy now).run Failure.kind before
      traffic.Cooling t → traffic.deadline t ≤ traffic.clock →
      (∀ op ∈ ops, op.isFruitless = true) →
      (traffic.run Failure.kind ops).Receptive Failure.kind Json ∧
        ∀ outcome, outcome ≠ .rejected →
          ((Metrics.ofEffects (traffic.run Failure.kind ops).journal).tally name).calls outcome =
            ((Metrics.ofEffects traffic.journal).tally name).calls outcome := by
  refine ⟨fun id route permit h hfew => ?_, fun id origin outcome hfree => ?_, ?_⟩
  · refine dropsByStage (fun id => ?_) h hfew
    cases s.blueprint <;> rfl
  · exact play_start_cancel hfree origin outcome
  · intro name policy now before ops t traffic hcooling hle hops
    obtain ⟨hreceptive, hcounts⟩ :=
      Traffic.receptive_of_fruitless (V := Json) Failure.kind
        (Traffic.sound_run name policy now before) hcooling hle hops
    exact ⟨hreceptive, hcounts name⟩

def trialSetup : Setup Unit where
  hierarchy := { parent := fun _ => none, label := fun _ => "" }

/-- A circuit is opened by hand, its cooldown ends, and a trial is in flight then. -/
def trialActs : List (Act Unit) :=
  [.command (.getOrCreate "db"), .command (.circuit (.named "db") .forceOpen),
    .command (.advance Policy.standard.resetTimeout),
    .command (.start "trial" (.gateway ⟨"db", none⟩) none false)]

/-- The trial is dropped, a call that has not been polled is dropped, and two trials of a circuit
come to nothing one after the other. -/
theorem cancel_at_every_stage_trial :
    let w := trialSetup.world.1.play trialActs
    let traffic := (Traffic.fresh "db" .standard 0 : Traffic Unit).run Failure.kind
      ([.forceOpen, .advance Policy.standard.resetTimeout.nanos] :
        List (Op Unit Json (Failure Unit)))
    let ops : List (Op Unit Json (Failure Unit)) :=
      [.start 0, .advance 5, .drop 0, .advance 5, .start 1, .finish 1 (.panic ⟨"bug"⟩)]
    (∃ c, w.HandsBack "trial" (.named "db") c) ∧
      w.play [.command (.start "idle" (.gateway ⟨"new", none⟩) none true),
        .command (.cancel "idle")] = w ∧
      (traffic.run Failure.kind ops).Receptive Failure.kind Json := by
  intro w traffic ops
  obtain ⟨hdrops, hnever, hcalls⟩ := cancel_at_every_stage trialSetup trialActs
  have hstages := hdrops "trial" (.gateway ⟨"db", none⟩) (some ⟨2, true⟩) ⟨none, rfl⟩
    (by decide +kernel)
  refine ⟨?_, hnever "idle" (.gateway ⟨"new", none⟩) none rfl, ?_⟩
  · obtain ⟨c', -, hback⟩ := hstages.trial ⟨2, true⟩ (trialActs.take 3) _ [] _ rfl
      { split := rfl
        admits := ⟨⟨_, rfl, rfl, rfl⟩, rfl, ⟨rfl, rfl, fun _ => rfl⟩⟩
        stays := fun l hl => by
          rw [List.prefix_nil.1 hl]
          exact ⟨none, rfl⟩ }
      rfl rfl
    exact ⟨c', hback⟩
  · exact (hcalls "db" .standard 0 _ ops 0 ⟨by decide, by decide⟩ (by decide) (by decide)).1

end World

end Breaker
