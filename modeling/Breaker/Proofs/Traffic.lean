import Breaker.Proofs.Circuit.Advance

/-!
# A circuit under traffic

`Traffic` is one circuit on a clock, with the calls in flight, which are those
whose action has been started and has not ended, and a journal of all effects so
far. An `Op` is whatever can happen next: time passes, a call arrives, the
action of a call in flight ends with a value, an error or a panic, the future of
a call is dropped before that, or the circuit itself is told something. `run`
takes any operations in any order, so calls overlap as they like, and a call
made blockingly is a `start` and a `finish` with what happens meanwhile in
between.
-/

namespace Breaker

/-- A call in flight. -/
structure Flight where
  id : Nat
  permit : Permit
  /-- How many transitions there had been once the call was admitted. -/
  epoch : Nat
  deriving DecidableEq

/-- What can happen to a circuit under traffic. -/
inductive Op (K V E : Type) where
  | advance (nanos : Nat)
  | start (id : Nat)
  | finish (id : Nat) (action : Action V E)
  | drop (id : Nat)
  | bindClassifier (f : Classifier K)
  | snapshot
  | forceOpen
  | forceClosed
  | reset

/-- Whether the operation overrides the circuit by hand. -/
def Op.isManual {K V E : Type} : Op K V E → Bool
  | forceOpen | forceClosed | reset => true
  | _ => false

/-- What an operation answers. -/
inductive Reply (V E : Type) where
  | done
  /-- The call to be ended is not in flight, or the one to be started is. -/
  | misnamed
  | admitted
  | rejected (e : OpenError)
  | ended (result : CallResult V E)
  | bound (took : Bool)
  | viewed (s : Snapshot)

structure Traffic (K : Type) where
  circuit : Circuit K
  clock : Instant
  inFlight : List Flight := []
  /-- All effects since the circuit was made. -/
  journal : List Effect := []

namespace Traffic

variable {K V E : Type}

/-- A circuit that has just been made. -/
def fresh (name : String) (policy : Policy) (now : Instant) : Traffic K where
  circuit := .create name policy now
  clock := now

def transitions (s : Traffic K) : Nat := Effect.switches s.journal

def flight? (s : Traffic K) (id : Nat) : Option Flight := s.inFlight.find? fun f => f.id == id

/-- The circuit has become `c`, with these effects. -/
def book (s : Traffic K) (c : Circuit K) (effects : List Effect) : Traffic K :=
  { s with circuit := c, journal := s.journal ++ effects }

/-- The call has been admitted. -/
def board (s : Traffic K) (id : Nat) (p : Permit) : Traffic K :=
  { s with inFlight := s.inFlight ++ [⟨id, p, s.transitions⟩] }

/-- The call has ended. -/
def land (s : Traffic K) (id : Nat) : Traffic K :=
  { s with inFlight := s.inFlight.filter fun f => f.id != id }

def start (s : Traffic K) (id : Nat) : Traffic K × List Effect × Reply V E :=
  match s.flight? id with
  | some _ => (s, [], .misnamed)
  | none =>
    match s.circuit.arrive s.clock with
    | (c, effects, .ok p) => ((s.book c effects).board id p, effects, .admitted)
    | (c, effects, .error e) => (s.book c effects, effects, .rejected e)

def finish (kindOf : E → K) (s : Traffic K) (id : Nat) (action : Action V E) :
    Traffic K × List Effect × Reply V E :=
  match s.flight? id with
  | none => (s, [], .misnamed)
  | some f =>
    let (c, effects, result) := s.circuit.settle s.clock f.permit kindOf action
    ((s.land id).book c effects, effects, .ended result)

def drop (s : Traffic K) (id : Nat) : Traffic K × List Effect × Reply V E :=
  match s.flight? id with
  | none => (s, [], .misnamed)
  | some f =>
    let (c, effects) := s.circuit.abandon s.clock f.permit
    ((s.land id).book c effects, effects, .done)

/-- What an operation leads to: the traffic after it, its effects and its answer. -/
def perform (kindOf : E → K) (s : Traffic K) : Op K V E → Traffic K × List Effect × Reply V E
  | .advance nanos => ({ s with clock := s.clock + nanos }, [], .done)
  | .start id => s.start id
  | .finish id action => s.finish kindOf id action
  | .drop id => s.drop id
  | .bindClassifier f =>
    let (c, took) := s.circuit.bindClassifier f
    (s.book c [], [], .bound took)
  | .snapshot =>
    let (c, view) := s.circuit.snapshot s.clock
    (s.book c [], [], .viewed view)
  | .forceOpen =>
    let (c, effects) := s.circuit.forceOpen s.clock
    (s.book c effects, effects, .done)
  | .forceClosed | .reset =>
    let (c, effects) := s.circuit.forceClosed s.clock
    (s.book c effects, effects, .done)

def step (kindOf : E → K) (s : Traffic K) (op : Op K V E) : Traffic K := (s.perform kindOf op).1

def effects (kindOf : E → K) (s : Traffic K) (op : Op K V E) : List Effect :=
  (s.perform kindOf op).2.1

def reply (kindOf : E → K) (s : Traffic K) (op : Op K V E) : Reply V E :=
  (s.perform kindOf op).2.2

/-- The traffic after the operations, in their order. -/
def run (kindOf : E → K) (s : Traffic K) (ops : List (Op K V E)) : Traffic K :=
  ops.foldl (step kindOf) s

variable {kindOf : E → K} {s : Traffic K} {id : Nat} {f : Flight}

@[simp] theorem run_nil : s.run kindOf ([] : List (Op K V E)) = s := rfl

theorem run_cons (kindOf : E → K) (s : Traffic K) (op : Op K V E) (ops : List (Op K V E)) :
    s.run kindOf (op :: ops) = (s.step kindOf op).run kindOf ops := rfl

theorem run_append (kindOf : E → K) (s : Traffic K) (l m : List (Op K V E)) :
    s.run kindOf (l ++ m) = (s.run kindOf l).run kindOf m := List.foldl_append

theorem run_snoc (kindOf : E → K) (s : Traffic K) (ops : List (Op K V E)) (op : Op K V E) :
    s.run kindOf (ops ++ [op]) = (s.run kindOf ops).step kindOf op := run_append ..

/-! ## Calls in flight -/

theorem mem_of_flight? (h : s.flight? id = some f) : f ∈ s.inFlight := List.mem_of_find?_eq_some h

theorem id_of_flight? (h : s.flight? id = some f) : f.id = id := by
  simpa using List.find?_some h

theorem id_ne_of_flight?_eq_none (h : s.flight? id = none) : ∀ f ∈ s.inFlight, f.id ≠ id := by
  intro f hf
  simpa using List.find?_eq_none.1 h f hf

theorem mem_land : f ∈ (s.land id).inFlight ↔ f ∈ s.inFlight ∧ f.id ≠ id := by
  simp only [land, List.mem_filter, bne_iff_ne]

theorem flight?_land_of_ne {other : Nat} (h : other ≠ id) :
    (s.land other).flight? id = s.flight? id := by
  simp only [flight?, land, List.find?_filter]
  congr 1
  funext f
  by_cases hf : f.id = id
  · simp [hf, Ne.symm h]
  · simp [hf]

theorem flight?_board_of_some {p : Permit} {other : Nat} (h : s.flight? id = some f) :
    (s.board other p).flight? id = some f := by
  simp only [flight?, board, List.find?_append] at h ⊢
  rw [h]
  rfl

theorem flight?_board_of_none {p : Permit} (h : s.flight? id = none) :
    (s.board id p).flight? id = some ⟨id, p, s.transitions⟩ := by
  simp only [flight?, board, List.find?_append] at h ⊢
  rw [h]
  simp

@[simp] theorem transitions_book (c : Circuit K) (effects : List Effect) :
    (s.book c effects).transitions = s.transitions + Effect.switches effects :=
  Effect.switches_append ..

@[simp] theorem transitions_land : (s.land id).transitions = s.transitions := rfl

@[simp] theorem transitions_board (p : Permit) : (s.board id p).transitions = s.transitions := rfl

theorem book_nil (s : Traffic K) : s.book s.circuit [] = s := by
  simp only [book, List.append_nil]

/-! ## Operations one by one -/

theorem start_of_ok {p : Permit} (hid : s.flight? id = none)
    (h : (s.circuit.arrive s.clock).2.2 = .ok p) :
    (s.start id : Traffic K × List Effect × Reply V E) =
      ((s.book (s.circuit.arrive s.clock).1 (s.circuit.arrive s.clock).2.1).board id p,
        (s.circuit.arrive s.clock).2.1, .admitted) := by
  unfold start
  rcases ha : s.circuit.arrive s.clock with ⟨c, effects, answer⟩
  rw [ha] at h
  cases h
  rw [hid]

theorem start_of_error {e : OpenError} (hid : s.flight? id = none)
    (h : (s.circuit.arrive s.clock).2.2 = .error e) :
    (s.start id : Traffic K × List Effect × Reply V E) =
      (s.book s.circuit (s.circuit.arrive s.clock).2.1, (s.circuit.arrive s.clock).2.1,
        .rejected e) := by
  have hc := Circuit.arrive_fst_of_error h
  unfold start
  rcases ha : s.circuit.arrive s.clock with ⟨c, effects, answer⟩
  rw [ha] at h hc
  cases h
  rw [hid, ← hc]

theorem start_of_taken (hid : s.flight? id = some f) :
    (s.start id : Traffic K × List Effect × Reply V E) = (s, [], .misnamed) := by
  simp only [start, hid]

theorem finish_of_some (hid : s.flight? id = some f) (action : Action V E) :
    s.finish kindOf id action =
      ((s.land id).book (s.circuit.settle s.clock f.permit kindOf action).1
          (s.circuit.settle s.clock f.permit kindOf action).2.1,
        (s.circuit.settle s.clock f.permit kindOf action).2.1,
        .ended (s.circuit.settle s.clock f.permit kindOf action).2.2) := by
  simp only [finish, hid]

theorem finish_of_none (hid : s.flight? id = none) (action : Action V E) :
    s.finish kindOf id action = (s, [], .misnamed) := by
  simp only [finish, hid]

theorem drop_of_some (hid : s.flight? id = some f) :
    (s.drop id : Traffic K × List Effect × Reply V E) =
      ((s.land id).book (s.circuit.abandon s.clock f.permit).1
          (s.circuit.abandon s.clock f.permit).2,
        (s.circuit.abandon s.clock f.permit).2, .done) := by
  simp only [drop, hid]

theorem drop_of_none (hid : s.flight? id = none) :
    (s.drop id : Traffic K × List Effect × Reply V E) = (s, [], .misnamed) := by
  simp only [drop, hid]

end Traffic

end Breaker
