import Breaker.Listener

/-!
# Stories

What a listener for everything hears of a circuit is its story. To replay a story is to follow its
transitions from one state to the next and to pass over all else. A notice `Fits` a state if a
circuit can give it there: a transition starts from that state and goes to one that follows, an
admission or an outcome names that state, which is not the opened one, and a rejection tells a
remaining time just if the circuit is opened. In a faithful story every notice fits the state that
replaying those before it leads to, and shows that state to whoever looks at the circuit meanwhile.
-/

namespace Breaker

/-! ## Hearing -/

/-- A listener that hears everything and writes it down as it is. -/
def Listener.scribe : Listener Notice where
  condition := .any
  record := id
  panics _ := false

/-- What there is to hear of the effects. -/
def Effect.story (effects : List Effect) : List Notice := Listener.recordsOf [.scribe] effects

namespace Effect

@[simp] theorem story_nil : story [] = [] := rfl

@[simp] theorem story_append (l m : List Effect) : story (l ++ m) = story l ++ story m := by
  simp only [story, Listener.recordsOf, List.filterMap_append, List.flatMap_append]

@[simp] theorem story_log (entry : LogEntry) (l : List Effect) :
    story (.log entry :: l) = story l := rfl

@[simp] theorem story_counted (name : String) (o : CallOutcome) (l : List Effect) :
    story (.counted name o :: l) = story l := rfl

@[simp] theorem story_switched (name : String) (s s' : State) (l : List Effect) :
    story (.switched name s s' :: l) = story l := rfl

@[simp] theorem story_notify (n : Notice) (l : List Effect) :
    story (.notify n :: l) = n :: story l := rfl

end Effect

/-! ## Replaying -/

/-- A change of state that a circuit makes; one of them only when it is cleared by hand. -/
inductive State.Edge (clearing : Bool) : State → State → Prop
  | trip : Edge clearing .closed .opened
  | probe : Edge clearing .opened .halfOpen
  | recover : Edge clearing .halfOpen .closed
  | relapse : Edge clearing .halfOpen .opened
  | clear (byHand : clearing = true) : Edge clearing .opened .closed

namespace EventDetail

/-- The state after the event. -/
def after (state : State) : EventDetail → State
  | transition _ target => target
  | _ => state

/-- The event can happen to a circuit in this state. -/
def Fits (clearing : Bool) (state : State) : EventDetail → Prop
  | transition source target => source = state ∧ State.Edge clearing source target
  | permitted s | succeeded s | failed s _ | ignored s => s = state ∧ state ≠ .opened
  | rejected remaining =>
    (state = .opened ∧ 0 < remaining.nanos) ∨ (state = .halfOpen ∧ remaining = .zero)

end EventDetail

/-- The event can happen to a circuit in this state, which is the one that it shows meanwhile. -/
structure Notice.Fits (clearing : Bool) (state : State) (n : Notice) : Prop where
  shown : n.published = state
  detail : n.event.detail.Fits clearing state

/-- The state that the story leads to from this one. -/
def replay (state : State) (story : List Notice) : State :=
  story.foldl (fun state n => n.event.detail.after state) state

/-- Every notice of the story fits the state that those before it lead to. -/
def Faithful (clearing : Bool) (state : State) (story : List Notice) : Prop :=
  ∀ before n later, story = before ++ n :: later → n.Fits clearing (replay state before)

section Stories

variable {clearing : Bool} {state : State} {n : Notice} {l m : List Notice}

@[simp] theorem replay_nil : replay state [] = state := rfl

@[simp] theorem replay_cons : replay state (n :: l) = replay (n.event.detail.after state) l := rfl

theorem replay_append : replay state (l ++ m) = replay (replay state l) m := List.foldl_append

theorem faithful_nil : Faithful clearing state [] := by
  intro before n later h
  exact absurd h.symm (List.append_ne_nil_of_right_ne_nil before (List.cons_ne_nil n later))

theorem faithful_cons (h : n.Fits clearing state)
    (hl : Faithful clearing (n.event.detail.after state) l) : Faithful clearing state (n :: l) := by
  intro before k later heq
  cases before with
  | nil =>
    cases heq
    exact h
  | cons first before =>
    cases heq
    exact hl before k later rfl

/-- What can happen otherwise can happen by hand. -/
theorem Notice.Fits.byHand (h : n.Fits clearing state) : n.Fits true state := by
  refine ⟨h.shown, ?_⟩
  have hdetail := h.detail
  cases hd : n.event.detail with
  | transition source target =>
    rw [hd] at hdetail
    obtain ⟨hsource, hedge⟩ := hdetail
    refine ⟨hsource, ?_⟩
    cases hedge with
    | trip => exact .trip
    | probe => exact .probe
    | recover => exact .recover
    | relapse => exact .relapse
    | clear => exact .clear rfl
  | permitted s | succeeded s | failed s k | ignored s | rejected left =>
    rw [hd] at hdetail
    exact hdetail

theorem Faithful.byHand (h : Faithful clearing state l) : Faithful true state l :=
  fun before n later heq => (h before n later heq).byHand

theorem Faithful.append (hl : Faithful clearing state l)
    (hm : Faithful clearing (replay state l) m) : Faithful clearing state (l ++ m) := by
  intro before n later heq
  rcases List.append_eq_append_iff.1 heq with ⟨rest, rfl, hrest⟩ | ⟨rest, rfl, hrest⟩
  · rw [replay_append]
    exact hm rest n later hrest
  · cases rest with
    | nil =>
      rw [List.append_nil] at hm
      exact hm [] n later hrest.symm
    | cons k rest =>
      cases hrest
      exact hl before n rest rfl

end Stories

end Breaker
