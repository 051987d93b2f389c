import Breaker.Proofs.Circuit.Story
import Breaker.Proofs.Metrics

/-!
# The metrics follow the events

Counting a call and telling its event are two acts at different places, and so are counting a
transition and telling of it. `Metered effects` says that they go together all the same: the steps
of the metrics are those that go with the events (`Notice.metric?`), one for one and in the same
order. It holds of every operation, but for a failure that counts on an opened circuit, which is
counted and not told. `Accounts` adds how many calls the events admit and how many they book, with
one lemma for each operation.
-/

namespace Breaker

/-- The event that goes with the end of a call. -/
def CallOutcome.event : CallOutcome → EventType
  | success => .successRecorded
  | failure => .failureRecorded
  | ignored => .failureIgnored
  | rejected => .callRejected

/-- The events of calls that are booked under their outcome. -/
def EventType.books : EventType → Bool
  | successRecorded | failureRecorded | failureIgnored => true
  | _ => false

/-- The state to which the circuit has gone, where the event is a transition of it. -/
def Notice.turned? (name : String) (n : Notice) : Option State :=
  match n.event.detail with
  | .transition _ target => if n.event.circuit = name then some target else none
  | _ => none

/-- The step of the metrics that goes with an event; an admission has none. -/
def Notice.metric? (n : Notice) : Option Effect :=
  match n.event.detail with
  | .transition source target => some (.switched n.event.circuit source target)
  | .permitted _ => none
  | .rejected _ => some (.counted n.event.circuit .rejected)
  | .succeeded _ => some (.counted n.event.circuit .success)
  | .failed .. => some (.counted n.event.circuit .failure)
  | .ignored _ => some (.counted n.event.circuit .ignored)

theorem Notice.metric?_of_type {n : Notice} {o : CallOutcome} (h : n.event.type = o.event) :
    n.metric? = some (.counted n.event.circuit o) := by
  unfold Event.type at h
  cases hd : n.event.detail <;> cases o <;>
    simp_all [Notice.metric?, EventDetail.type, CallOutcome.event]

namespace Effect

def isMetric : Effect → Bool
  | counted .. | switched .. => true
  | _ => false

/-- The steps of the metrics are those that go with the events, in the same order. -/
def Metered (effects : List Effect) : Prop :=
  effects.filter isMetric = (story effects).filterMap Notice.metric?

/-- How many events of the type there are to hear of the circuit. -/
def heard (name : String) (type : EventType) (effects : List Effect) : Nat :=
  (story effects).countP fun n => n.event.circuit = name ∧ n.event.type = type

/-- How many transitions from `source` to `target` there are to hear of. -/
def heardTurns (name : String) (source target : State) (effects : List Effect) : Nat :=
  (story effects).countP fun n =>
    n.event.circuit = name ∧ n.event.detail = .transition source target

namespace Metered

variable {l m : List Effect}

theorem nil : Metered [] := rfl

theorem append (hl : Metered l) (hm : Metered m) : Metered (l ++ m) := by
  unfold Metered at hl hm ⊢
  rw [List.filter_append, story_append, List.filterMap_append, hl, hm]

/-- A call is counted, and then its event is told. -/
theorem counted {n : Notice} {name : String} {o : CallOutcome} (h : Metered l)
    (hn : n.metric? = some (.counted name o)) :
    Metered (.counted name o :: .notify n :: l) := by
  unfold Metered at h ⊢
  rw [story_counted, story_notify, List.filterMap_cons_some hn, ← h]
  rfl

/-- What is told of an admission goes with nothing. -/
theorem told {n : Notice} (h : Metered l) (hn : n.metric? = none) :
    Metered (.notify n :: l) := by
  unfold Metered at h ⊢
  rw [story_notify, List.filterMap_cons_none hn, ← h]
  rfl

end Metered

/-! ## What there is to hear -/

section Hearing

variable {name : String} {type : EventType} {l m : List Effect}

theorem heard_append (name : String) (type : EventType) (l m : List Effect) :
    heard name type (l ++ m) = heard name type l + heard name type m := by
  unfold heard
  rw [story_append, List.countP_append]

theorem heard_counted (name circuit : String) (type : EventType) (o : CallOutcome)
    (l : List Effect) : heard name type (.counted circuit o :: l) = heard name type l := rfl

theorem heard_notify (name : String) (type : EventType) (n : Notice) (l : List Effect) :
    heard name type (.notify n :: l) =
      heard name type l + if n.event.circuit = name ∧ n.event.type = type then 1 else 0 := by
  simp only [heard, story_notify, List.countP_cons, decide_eq_true_eq]

/-- How many calls of the circuit the events book under their outcome. -/
def bookings (name : String) (effects : List Effect) : Nat :=
  heard name .successRecorded effects + heard name .failureRecorded effects +
    heard name .failureIgnored effects

theorem bookings_counted (name circuit : String) (o : CallOutcome) (l : List Effect) :
    bookings name (.counted circuit o :: l) = bookings name l := rfl

theorem bookings_notify (name : String) (n : Notice) (l : List Effect) :
    bookings name (.notify n :: l) =
      bookings name l + if n.event.circuit = name ∧ n.event.type.books = true then 1 else 0 := by
  unfold bookings
  rw [heard_notify, heard_notify, heard_notify]
  by_cases hname : n.event.circuit = name
  · cases n.event.type <;> simp only [hname, EventType.books] <;> simp <;> omega
  · simp only [hname, false_and, ↓reduceIte, Nat.add_zero]

theorem bookings_append (name : String) (l m : List Effect) :
    bookings name (l ++ m) = bookings name l + bookings name m := by
  unfold bookings
  rw [heard_append, heard_append, heard_append]
  omega

end Hearing

/-- The metrics follow the events, which admit so many calls of the circuit and book so many. -/
structure Accounts (name : String) (admitted booked : Nat) (effects : List Effect) : Prop where
  metered : Metered effects
  admitted_eq : heard name .callPermitted effects = admitted
  booked_eq : bookings name effects = booked

namespace Accounts

variable {name : String} {a b a' b' : Nat} {l m : List Effect}

theorem nil : Accounts name 0 0 [] := ⟨.nil, rfl, rfl⟩

theorem append (h : Accounts name a b l) (h' : Accounts name a' b' m) :
    Accounts name (a + a') (b + b') (l ++ m) where
  metered := h.metered.append h'.metered
  admitted_eq := by rw [heard_append, h.admitted_eq, h'.admitted_eq]
  booked_eq := by rw [bookings_append, h.booked_eq, h'.booked_eq]

theorem log (h : Accounts name a b l) (entry : LogEntry) :
    Accounts name a b (.log entry :: l) := ⟨h.metered, h.admitted_eq, h.booked_eq⟩

/-- A call is turned away. -/
theorem rejected {n : Notice} (h : Accounts name a b l) (hn : n.event.type = .callRejected) :
    Accounts name a b (.counted n.event.circuit .rejected :: .notify n :: l) where
  metered := h.metered.counted (Notice.metric?_of_type hn)
  admitted_eq := by
    rw [heard_counted, heard_notify, h.admitted_eq, hn, if_neg (by simp), Nat.add_zero]
  booked_eq := by
    rw [bookings_counted, bookings_notify, h.booked_eq, hn, if_neg (by simp [EventType.books]),
      Nat.add_zero]

/-- A call is booked under its outcome. -/
theorem booked {n : Notice} {o : CallOutcome} (h : Accounts n.event.circuit a b l)
    (hn : n.event.type = o.event) (ho : o ≠ .rejected) :
    Accounts n.event.circuit a (b + 1) (.counted n.event.circuit o :: .notify n :: l) where
  metered := h.metered.counted (Notice.metric?_of_type hn)
  admitted_eq := by
    have hne : o.event ≠ .callPermitted := by cases o <;> decide
    rw [heard_counted, heard_notify, h.admitted_eq, hn, if_neg (by simp [hne]), Nat.add_zero]
  booked_eq := by
    have hbooks : o.event.books = true := by
      cases o with
      | rejected => exact absurd rfl ho
      | success | failure | ignored => rfl
    rw [bookings_counted, bookings_notify, h.booked_eq, hn, if_pos ⟨rfl, hbooks⟩]

/-- A call is let through. -/
theorem permitted {n : Notice} {state : State} (h : Accounts n.event.circuit a b l)
    (hn : n.event.detail = .permitted state) :
    Accounts n.event.circuit (a + 1) b (.notify n :: l) := by
  have htype : n.event.type = .callPermitted := congrArg EventDetail.type hn
  constructor
  case metered => exact h.metered.told (by simp only [Notice.metric?, hn])
  case admitted_eq => rw [heard_notify, h.admitted_eq, if_pos ⟨rfl, htype⟩]
  case booked_eq =>
    rw [bookings_notify, h.booked_eq, htype, if_neg (by simp [EventType.books]), Nat.add_zero]

end Accounts

end Effect

namespace Circuit

open Effect (Accounts)

variable {K V E : Type} {c : Circuit K} {now : Instant}

/-! ## The accounts of each operation -/

/-- What is said of something that happens to the circuit now. -/
def noticed (c : Circuit K) (now : Instant) (detail : EventDetail) : Notice :=
  ⟨⟨c.name, now, detail⟩, c.published⟩

theorem accounts_transition (c : Circuit K) (target : State) (now : Instant) :
    Accounts c.name 0 0 (c.transition target now).2 := by
  unfold transition
  split
  · exact .nil
  · exact ⟨rfl, by simp [notice, Effect.heard, Event.type, EventDetail.type],
      by simp [notice, Effect.bookings, Effect.heard, Event.type, EventDetail.type]⟩

theorem accounts_permit (c : Circuit K) (now : Instant) :
    Accounts c.name 1 0 (c.permit now).1 :=
  (Accounts.permitted (n := c.noticed now (.permitted c.state)) .nil rfl).log _

theorem accounts_reject (c : Circuit K) (now : Instant) (left : Duration) :
    Accounts c.name 0 0 (c.reject now left).1 :=
  (Accounts.rejected (n := c.noticed now (.rejected left)) .nil rfl).log _

theorem accounts_arrive_of_ok {p : Permit} (h : (c.arrive now).2.2 = .ok p) :
    Accounts c.name 1 0 (c.arrive now).2.1 := by
  cases hs : c.state with
  | closed =>
    rw [arrive_of_closed hs]
    exact c.accounts_permit now
  | halfOpen =>
    rw [arrive_of_halfOpen hs] at h
    cases h
  | opened =>
    cases hl : c.cooldownLeft? now with
    | some left =>
      rw [arrive_of_cooling hs hl] at h
      cases h
    | none =>
      rw [arrive_of_cooled hs hl]
      have hpermit := (c.transition .halfOpen now).1.accounts_permit now
      rw [name_transition] at hpermit
      exact (c.accounts_transition .halfOpen now).append hpermit

theorem accounts_arrive_of_error {e : OpenError} (h : (c.arrive now).2.2 = .error e) :
    Accounts c.name 0 0 (c.arrive now).2.1 := by
  cases hs : c.state with
  | closed =>
    rw [arrive_of_closed hs] at h
    cases h
  | halfOpen =>
    rw [arrive_of_halfOpen hs]
    exact c.accounts_reject now _
  | opened =>
    cases hl : c.cooldownLeft? now with
    | some left =>
      rw [arrive_of_cooling hs hl]
      exact c.accounts_reject now left
    | none =>
      rw [arrive_of_cooled hs hl] at h
      cases h

theorem accounts_settleTrial (c : Circuit K) (now : Instant) :
    Accounts c.name 0 0 (c.settleTrial now).2 := by
  unfold settleTrial
  split
  · exact c.accounts_transition .closed now
  · exact .nil

theorem accounts_recordSuccess (c : Circuit K) (now : Instant) :
    Accounts c.name 0 1 (c.recordSuccess now).2 :=
  Accounts.booked (n := c.noticed now (.succeeded c.state)) (o := .success)
    (c.accounts_settleTrial now) rfl (by decide)

theorem accounts_recordIgnored (c : Circuit K) (now : Instant) :
    Accounts c.name 0 1 (c.recordIgnored now).2 :=
  Accounts.booked (n := c.noticed now (.ignored c.state)) (o := .ignored)
    (c.accounts_settleTrial now) rfl (by decide)

theorem accounts_failureTold (c : Circuit K) (now : Instant) :
    Accounts c.name 0 1 (c.failureTold now) :=
  Accounts.booked (n := c.noticed now (.failed .closed (c.withFailure now).length)) (o := .failure)
    .nil rfl (by decide)

/-- On an opened circuit a failure would be counted and not told. -/
theorem accounts_recordFailure (h : c.state ≠ .opened) (now : Instant) :
    Accounts c.name 0 1 (c.recordFailure now).2 := by
  cases hs : c.state with
  | opened => exact absurd hs h
  | closed =>
    by_cases hf : c.policy.count ≤ (c.withFailure now).length
    · rw [recordFailure_of_filled hs hf]
      have hopens := ({ c with failures := c.withFailure now } : Circuit K).accounts_transition
        .opened now
      exact (c.accounts_failureTold now).append hopens
    · rw [recordFailure_of_short hs hf]
      exact c.accounts_failureTold now
  | halfOpen =>
    rw [recordFailure_of_halfOpen hs]
    exact Accounts.booked (n := c.noticed now (.failed .halfOpen 1)) (o := .failure)
      (c.accounts_transition .opened now) rfl (by decide)

theorem accounts_recordClassified (h : c.state ≠ .opened) (now : Instant)
    (verdict : Classification) : Accounts c.name 0 1 (c.recordClassified now verdict).2 := by
  unfold recordClassified
  split
  · exact accounts_recordFailure h now
  · exact c.accounts_recordIgnored now

theorem accounts_abandon (c : Circuit K) (now : Instant) (p : Permit) :
    Accounts c.name 0 0 (c.abandon now p).2 := by
  unfold abandon
  split
  · exact c.accounts_transition .opened now
  · exact .nil

/-- The action panics, or the classifier does on its error. -/
def panicsOn (c : Circuit K) (kindOf : E → K) : Action V E → Bool
  | .ok _ => false
  | .error e => (c.classify (kindOf e)).toOption.isNone
  | .panic _ => true

/-- A call that ends in its own generation is booked, unless it is lost to a panic. -/
theorem accounts_settle {p : Permit} (h : c.generation = p.generation) (hs : c.state ≠ .opened)
    (now : Instant) (kindOf : E → K) (action : Action V E) :
    Accounts c.name 0 (if c.panicsOn kindOf action then 0 else 1)
      (c.settle now p kindOf action).2.1 := by
  cases action with
  | ok v =>
    rw [settle_ok h]
    exact c.accounts_recordSuccess now
  | error e =>
    cases hv : c.classify (kindOf e) with
    | ok verdict =>
      have hcalm : c.panicsOn kindOf (.error e : Action V E) = false := by
        simp only [panicsOn, hv, Except.toOption, Option.isNone_some]
      rw [settle_error h hv, hcalm]
      exact accounts_recordClassified hs now verdict
    | error panic =>
      have hpanics : c.panicsOn kindOf (.error e : Action V E) = true := by
        simp only [panicsOn, hv, Except.toOption, Option.isNone_none]
      rw [settle_crashed hv, hpanics]
      exact .nil
  | panic panic =>
    rw [settle_panic]
    exact c.accounts_abandon now p

theorem accounts_forceOpen (c : Circuit K) (now : Instant) :
    Accounts c.name 0 0 (c.forceOpen now).2 := by
  unfold forceOpen
  split
  · exact .nil
  · exact c.accounts_transition .opened now

theorem accounts_forceClosed (c : Circuit K) (now : Instant) :
    Accounts c.name 0 0 (c.forceClosed now).2 := c.accounts_transition .closed now

end Circuit

namespace Effect

/-! ## What a tally says -/

section Tallies

variable {name : String} {l : List Effect}

theorem story_eq_filterMap (l : List Effect) : story l = l.filterMap notice? := by
  induction l with
  | nil => rfl
  | cons e l ih =>
    cases e with
    | notify n => exact congrArg (n :: ·) ih
    | log entry | counted name o | switched name s s' => exact ih

theorem story_about (name : String) (l : List Effect) :
    story (about name l) = (story l).filter fun n => n.event.circuit = name := by
  rw [story_eq_filterMap, story_eq_filterMap, about, List.filterMap_filter, List.filter_filterMap]
  congr 1
  funext e
  cases e with
  | notify n => simp [circuit?, notice?, Option.filter]
  | log entry | counted name o | switched name s s' => simp [notice?]

/-- Whoever asks for the events of one name hears what is told about it. -/
theorem heard_about (name : String) (type : EventType) (l : List Effect) :
    heard name type (about name l) = heard name type l := by
  unfold heard
  rw [story_about, List.countP_filter]
  exact List.countP_congr fun n _ => by simp +contextual

theorem heardTurns_about (name : String) (source target : State) (l : List Effect) :
    heardTurns name source target (about name l) = heardTurns name source target l := by
  unfold heardTurns
  rw [story_about, List.countP_filter]
  exact List.countP_congr fun n _ => by simp +contextual

namespace Metered

theorem count_counted (h : Metered l) (name : String) (o : CallOutcome) :
    l.count (.counted name o) = heard name o.event l := by
  have hfilter : (l.filter isMetric).count (.counted name o) = l.count (.counted name o) :=
    List.count_filter rfl
  rw [← hfilter, h, List.count, List.countP_filterMap]
  refine List.countP_congr fun n _ => ?_
  cases hd : n.event.detail <;> cases o <;>
    simp [Notice.metric?, Event.type, EventDetail.type, CallOutcome.event, hd]

theorem count_switched (h : Metered l) (name : String) (source target : State) :
    l.count (.switched name source target) = heardTurns name source target l := by
  have hfilter : (l.filter isMetric).count (.switched name source target) =
      l.count (.switched name source target) := List.count_filter rfl
  rw [← hfilter, h, List.count, List.countP_filterMap]
  refine List.countP_congr fun n _ => ?_
  cases hd : n.event.detail <;> simp [Notice.metric?, hd]

/-- The gauge shows where the last transition led of which there was to hear. -/
theorem shown?_eq (h : Metered l) (name : String) :
    Metrics.shown? name l = ((story l).filterMap (Notice.turned? name)).getLast? := by
  have hfilter : l.filterMap (Metrics.shows? name) =
      (l.filter isMetric).filterMap (Metrics.shows? name) := by
    rw [List.filterMap_filter]
    congr 1
    funext e
    cases e <;> rfl
  have hturned :
      (fun n => (Notice.metric? n).bind (Metrics.shows? name)) = Notice.turned? name := by
    funext n
    unfold Notice.metric? Notice.turned?
    cases n.event.detail <;> rfl
  unfold Metrics.shown?
  rw [hfilter, h, List.filterMap_filterMap, hturned]

end Metered

/-- A story about one circuit leads to where its last transition does. -/
theorem replay_eq_getD {story : List Notice} (h : ∀ n ∈ story, n.event.circuit = name)
    (state : State) :
    replay state story = ((story.filterMap (Notice.turned? name)).getLast?).getD state := by
  induction story generalizing state with
  | nil => rfl
  | cons n story ih =>
    obtain ⟨hn, hrest⟩ := List.forall_mem_cons.1 h
    rw [replay_cons, ih hrest]
    cases hd : n.event.detail with
    | transition source target =>
      have hturned : n.turned? name = some target := by
        simp only [Notice.turned?, hd, hn, ↓reduceIte]
      rw [List.filterMap_cons_some hturned, List.getLast?_cons]
      rfl
    | permitted | rejected | succeeded | failed | ignored =>
      have hstays : n.turned? name = none := by simp only [Notice.turned?, hd]
      rw [List.filterMap_cons_none hstays]
      rfl

end Tallies

end Effect

end Breaker
