import Breaker.Proofs.Circuit.Metered
import Breaker.Proofs.Circuit.Strokes
import Mathlib.Data.List.Nodup

/-!
# Deliveries

A `Subscriber` is a listener as it is registered: code of any kind, behind wrappers and callbacks
that let through what its condition admits. What an audience keeps after some notices is one fold
over the notices and, for each of them, over the audience (`Hearer.keep`); that is what the strokes
of an operation leave outside (`outside_after`). To see who gets what, each subscriber takes a note
of a notice before its code runs. The notes say that everybody gets what its own condition admits,
and that nobody else has a say in it (`Subscriber.Delivered`).
-/

namespace Breaker

open Effect (story)

variable {K σ ι R : Type}

/-- Hands a notice on if the condition admits it: each wrapper looks at the name of the circuit
before it asks the one inside, each callback looks at the type of the event. -/
def Condition.passing : Condition → Hearer σ → Hearer σ
  | any, inner => inner
  | never, _ => fun _ => pure ()
  | ofType t, inner => fun n => if n.event.type = t then inner n else pure ()
  | ofCircuit name condition, inner => fun n =>
    if n.event.circuit = name then condition.passing inner n else pure ()

/-- However wrappers are nested, a notice gets through just if the condition admits it. -/
theorem Condition.passing_eq (condition : Condition) (inner : Hearer σ) (n : Notice) :
    condition.passing inner n = if condition.admits n.event then inner n else pure () := by
  induction condition with
  | any => rfl
  | never => rfl
  | ofType t => simp only [passing, admits, decide_eq_true_eq]
  | ofCircuit name condition ih =>
    simp only [passing, admits, ih, Bool.and_eq_true, decide_eq_true_eq]
    split
    · rename_i hname
      simp only [hname, true_and]
    · rename_i hname
      simp only [hname, false_and, ↓reduceIte]

/-! ## What an audience keeps -/

namespace Hearer

/-- What is kept once the listener has got the notice, whether it has returned or panicked. -/
def leaves (hearer : Hearer σ) (n : Notice) (kept : σ) : σ :=
  match hearer n kept with
  | .ok () kept => kept
  | .error _ kept => kept

/-- What is kept once all have got the notice, one after the other. -/
def keepOne (audience : List (Hearer σ)) (kept : σ) (n : Notice) : σ :=
  audience.foldl (fun kept hearer => hearer.leaves n kept) kept

/-- What is kept once all have got all of the notices. -/
def keep (audience : List (Hearer σ)) (kept : σ) (told : List Notice) : σ :=
  told.foldl (keepOne audience) kept

theorem keep_append (audience : List (Hearer σ)) (kept : σ) (l m : List Notice) :
    keep audience kept (l ++ m) = keep audience (keep audience kept l) m := List.foldl_append

end Hearer

namespace Scene

variable (audience : List (Hearer σ)) (s : Scene K σ)

theorem outside_attend (n : Notice) (hearer : Hearer σ) :
    (s.attend n hearer).outside = hearer.leaves n s.outside := by
  unfold attend Hearer.leaves
  cases hearer n s.outside <;> rfl

theorem outside_foldl_attend (n : Notice) :
    (audience.foldl (attend n) s).outside = Hearer.keepOne audience s.outside n := by
  unfold Hearer.keepOne
  induction audience generalizing s with
  | nil => rfl
  | cons hearer audience ih => rw [List.foldl_cons, List.foldl_cons, ih, outside_attend]

/-- The strokes of an operation leave outside what the audience keeps of the notices in them. -/
theorem outside_after (c : Circuit K) (effects : List Effect) :
    (s.after audience c effects).outside = Hearer.keep audience s.outside (story effects) := by
  show (effects.foldl (witness audience) s).outside = _
  induction effects generalizing s with
  | nil => rfl
  | cons e effects ih =>
    rw [List.foldl_cons, ih]
    cases e with
    | notify n =>
      show Hearer.keep audience (audience.foldl (attend n) s).outside (story effects) = _
      rw [outside_foldl_attend]
      rfl
    | log entry | counted name o | switched name source target => rfl

end Scene

/-! ## Subscribers -/

/-- A listener as it is registered. -/
structure Subscriber (σ : Type) where
  condition : Condition
  /-- What it does with a notice that gets through. -/
  react : Hearer σ

namespace Subscriber

variable {n : Notice} {notes : List (ι × Notice)} {kept : σ}

def hearer (s : Subscriber σ) : Hearer σ := s.condition.passing s.react

def admits (s : Subscriber σ) (n : Notice) : Bool := s.condition.admits n.event

/-- The subscriber takes a note of what gets through to it, under its place, and does as before. -/
def noting (s : Subscriber σ) (place : ι) : Subscriber (List (ι × Notice) × σ) where
  condition := s.condition
  react n := fun (notes, kept) =>
    match s.react n kept with
    | .ok () kept => .ok () (notes ++ [(place, n)], kept)
    | .error panic kept => .error panic (notes ++ [(place, n)], kept)

theorem leaves_hearer (s : Subscriber σ) (n : Notice) (kept : σ) :
    s.hearer.leaves n kept = if s.admits n then s.react.leaves n kept else kept := by
  unfold hearer Hearer.leaves admits
  rw [Condition.passing_eq]
  cases s.condition.admits n.event <;> rfl

/-- Whether the code returns or panics, there is a note of the notice, and all else is as it was. -/
theorem leaves_noting (s : Subscriber σ) (place : ι) :
    (s.noting place).hearer.leaves n (notes, kept) =
      (notes ++ if s.admits n then [(place, n)] else [], s.hearer.leaves n kept) := by
  have hadmits : (s.noting place).admits n = s.admits n := rfl
  rw [leaves_hearer, leaves_hearer, hadmits]
  split
  · unfold Hearer.leaves noting
    cases hreact : s.react n kept <;> simp only [hreact]
  · rw [List.append_nil]

/-- The notes that subscribers at these places take of one notice. -/
def notesOf (subscriber : ι → Subscriber σ) (places : List ι) (n : Notice) : List (ι × Notice) :=
  (places.filter fun place => (subscriber place).admits n).map fun place => (place, n)

theorem keepOne_noting (subscriber : ι → Subscriber σ) (places : List ι) (n : Notice)
    (notes : List (ι × Notice)) (kept : σ) :
    Hearer.keepOne (places.map fun place => ((subscriber place).noting place).hearer)
        (notes, kept) n =
      (notes ++ notesOf subscriber places n,
        Hearer.keepOne (places.map fun place => (subscriber place).hearer) kept n) := by
  unfold Hearer.keepOne
  induction places generalizing notes kept with
  | nil => exact Prod.ext (List.append_nil notes).symm rfl
  | cons place places ih =>
    rw [List.map_cons, List.foldl_cons, leaves_noting, ih, List.map_cons, List.foldl_cons,
      List.append_assoc]
    congr 2
    unfold notesOf
    rw [List.filter_cons]
    split <;> rfl

theorem keep_noting (subscriber : ι → Subscriber σ) (places : List ι) (told : List Notice)
    (notes : List (ι × Notice)) (kept : σ) :
    Hearer.keep (places.map fun place => ((subscriber place).noting place).hearer)
        (notes, kept) told =
      (notes ++ told.flatMap (notesOf subscriber places),
        Hearer.keep (places.map fun place => (subscriber place).hearer) kept told) := by
  unfold Hearer.keep
  induction told generalizing notes kept with
  | nil => exact Prod.ext (List.append_nil notes).symm rfl
  | cons n told ih =>
    rw [List.foldl_cons, keepOne_noting, ih, List.foldl_cons, List.flatMap_cons, List.append_assoc]

/-- At each place there is one subscriber, who takes one note at most. -/
theorem notesOf_at [DecidableEq ι] (subscriber : ι → Subscriber σ) {places : List ι}
    (hplaces : places.Nodup) {place : ι} (hplace : place ∈ places) (n : Notice) :
    ((notesOf subscriber places n).filter (·.1 = place)).map Prod.snd =
      if (subscriber place).admits n then [n] else [] := by
  have hhere : places.filter (· = place) = [place] := by
    rw [List.filter_eq, List.count_eq_one_of_mem hplaces hplace]
    rfl
  calc ((notesOf subscriber places n).filter (·.1 = place)).map Prod.snd
    _ = ((places.filter (· = place)).filter fun p => (subscriber p).admits n).map fun _ => n := by
      simp only [notesOf, List.filter_map, List.map_map, List.filter_filter, Function.comp_def,
        Bool.and_comm]
    _ = if (subscriber place).admits n then [n] else [] := by
      rw [hhere, List.filter_cons]
      split <;> rfl

theorem notes_at [DecidableEq ι] (subscriber : ι → Subscriber σ) {places : List ι}
    (hplaces : places.Nodup) {place : ι} (hplace : place ∈ places) (told : List Notice) :
    ((told.flatMap (notesOf subscriber places)).filter (·.1 = place)).map Prod.snd =
      told.filter (subscriber place).admits := by
  induction told with
  | nil => rfl
  | cons n told ih =>
    rw [List.flatMap_cons, List.filter_append, List.map_append, ih,
      notesOf_at subscriber hplaces hplace, List.filter_cons]
    split <;> rfl

/-! ## A list of subscribers -/

variable (subscribers : List (Subscriber σ))

/-- The places of the subscribers, in the order of registration. -/
abbrev places : List (Fin subscribers.length) := List.finRange subscribers.length

/-- The audience that the subscribers make up. -/
def audience : List (Hearer σ) := subscribers.map hearer

/-- The same audience, with everybody taking notes. -/
def noted : List (Hearer (List (Fin subscribers.length × Notice) × σ)) :=
  (places subscribers).map fun place => (subscribers[place].noting place).hearer

/-- Who has got what, in the order of the deliveries. -/
def deliveries (kept : σ) (told : List Notice) : List (Fin subscribers.length × Notice) :=
  (Hearer.keep (noted subscribers) ([], kept) told).1

/-- How the notices have come to the subscribers. -/
structure Delivered (kept : σ) (told : List Notice) : Prop where
  /-- Each has got what its condition admits, in order and each once. -/
  each : ∀ place, ((deliveries subscribers kept told).filter (·.1 = place)).map Prod.snd =
    told.filter subscribers[place].admits
  /-- For each notice the deliveries come in the order of registration, before those of the next. -/
  order : deliveries subscribers kept told = told.flatMap fun n =>
    ((places subscribers).filter fun place => subscribers[place].admits n).map
      fun place => (place, n)
  /-- The notes make no difference to what else is kept. -/
  unnoticed : (Hearer.keep (noted subscribers) ([], kept) told).2 =
    Hearer.keep (audience subscribers) kept told

theorem delivered (kept : σ) (told : List Notice) : Delivered subscribers kept told := by
  have hkeep := keep_noting (fun place : Fin subscribers.length => subscribers[place])
    (places subscribers) told [] kept
  have horder : deliveries subscribers kept told =
      told.flatMap (notesOf (fun place => subscribers[place]) (places subscribers)) :=
    congrArg Prod.fst hkeep
  constructor
  case each =>
    intro place
    rw [horder]
    exact notes_at _ (List.nodup_finRange _) (List.mem_finRange place) told
  case order => exact horder
  case unnoticed =>
    have haudience : ((places subscribers).map fun place => subscribers[place].hearer) =
        audience subscribers := by
      conv_rhs => rw [audience, ← List.map_getElem_finRange subscribers, List.map_map]
      rfl
    rw [← haudience]
    exact congrArg Prod.snd hkeep

/-- The first one panics each time; the other one is for one type of event of one circuit. -/
example :
    let told : List Notice := [⟨⟨"db", 0, .permitted .closed⟩, .closed⟩,
      ⟨⟨"mail", 0, .permitted .closed⟩, .closed⟩, ⟨⟨"db", 0, .succeeded .closed⟩, .closed⟩]
    let subscribers : List (Subscriber Unit) := [⟨.any, fun _ => throw ⟨"listener"⟩⟩,
      ⟨.ofCircuit "db" (.ofType .callPermitted), fun _ => pure ()⟩]
    (deliveries subscribers () told).map (fun d => (d.1.val, d.2.event.circuit)) =
      [(0, "db"), (1, "db"), (0, "mail"), (0, "db")] := rfl

/-- How an audience is served while the circuit is worked on. -/
structure Served (K : Type) : Prop where
  /-- Every operation goes on to its end, and all of its notices come to everybody. -/
  uninterrupted : Strokes.Uninterrupted K (audience subscribers)
  outside : ∀ (scene : Scene K σ) (c : Circuit K) (effects : List Effect),
    (scene.after (audience subscribers) c effects).outside =
      Hearer.keep (audience subscribers) scene.outside (story effects)

theorem served (K : Type) : Served subscribers K where
  uninterrupted := Strokes.uninterrupted K _
  outside scene := scene.outside_after _

end Subscriber

/-! ## The listeners of a session -/

namespace Listener

/-- A listener that records, as it is registered. -/
def subscriber (l : Listener R) : Subscriber (List R) where
  condition := l.condition
  react n := do
    modify (· ++ [l.record n])
    if l.panics n then throw ⟨"listener"⟩

theorem hearer_subscriber (l : Listener R) : l.subscriber.hearer = l.hearer := by
  funext n
  unfold Subscriber.hearer
  rw [Condition.passing_eq]
  rfl

theorem recordsOf_eq (listeners : List (Listener R)) (effects : List Effect) :
    recordsOf listeners effects = (story effects).flatMap (records listeners) := by
  rw [recordsOf, Effect.story_eq_filterMap]

/-- They keep the records that are reported of the effects. -/
theorem keep_records (listeners : List (Listener R)) (kept : List R) (effects : List Effect) :
    Hearer.keep (Subscriber.audience (listeners.map subscriber)) kept (story effects) =
      kept ++ recordsOf listeners effects := by
  have haudience : Subscriber.audience (listeners.map subscriber) = listeners.map hearer := by
    rw [Subscriber.audience, List.map_map]
    exact List.map_congr_left fun l _ => l.hearer_subscriber
  let scene : Scene Unit (List R) := { circuit := .create "" .standard 0, outside := kept }
  rw [haudience]
  exact (scene.outside_after _ scene.circuit effects).symm.trans
    (congrArg Prod.fst (left_after listeners scene scene.circuit effects))

end Listener

end Breaker
