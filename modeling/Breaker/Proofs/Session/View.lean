import Breaker.Proofs.Registry.Local
import Breaker.Proofs.Session.Beside

/-!
# What a name sees of a world

All that steps at a name may depend on is its `View`: the entry of the name, the calls in flight
that belong to it, what the journal tells about it, and what all names have in common. `Confined`
says of something done in two worlds that the name sees alike that it comes to the same in both,
that the name sees them alike afterwards, and that no other name sees it at all. Here this is proved
of all that calls consist of. Calls in flight are told apart by their identifiers, so an identifier
belongs to one name for good (`owner`).
-/

namespace Breaker

open Effect (about OnlyAbout)

variable {K : Type}

/-- The service without the requests that it got. -/
def Service.plain {E : Type} (s : Service K E) : Service K E := { s with requests := [] }

theorem Service.map_plain_modify {E : Type} (l : List (Service K E)) (number : Nat) (i : Instance) :
    (l.modify number (·.request i)).map plain = l.map plain := by
  induction l generalizing number with
  | nil => cases number <;> rfl
  | cons s l ih =>
    cases number with
    | zero => rfl
    | succ number => exact congrArg (s.plain :: ·) (ih number)

/-- What all names have in common and no step at a name changes. -/
structure Surroundings (K : Type) where
  hierarchy : Hierarchy K
  clock : Instant
  mapper : Option (ErrorMapper K)
  standing : Policy
  listeners : List (Listener Record)
  serviceIds : Table Nat
  services : List (Service K (Failure K))

structure View (K : Type) where
  surroundings : Surroundings K
  entry : Option (Entry K)
  /-- The calls in flight that belong to the name. -/
  call? : String → Option (Call K)
  /-- What has been told about the name. -/
  journal : List Effect

namespace World

def surroundings (w : World K) : Surroundings K where
  hierarchy := w.hierarchy
  clock := w.clock
  mapper := w.gateway.mapper
  standing := w.gateway.registry.standing
  listeners := w.listeners
  serviceIds := w.serviceIds
  services := w.services.map Service.plain

def view (owner : String → Option String) (w : World K) (name : String) : View K where
  surroundings := w.surroundings
  entry := w.gateway.registry.entries.get? name
  call? id := if owner id = some name then w.calls.get? id else none
  journal := about name w.journal

/-- What belongs to the name leads to it: its circuit bears it, and its calls are on their way to
it. -/
structure Proper (owner : String → Option String) (name : String) (w : World K) : Prop where
  bears : w.gateway.registry.Bears name
  keeps : ∀ id call, owner id = some name → w.calls.get? id = some call →
    call.route.address = .named name

/-- The name sees both worlds alike. -/
structure Agree (owner : String → Option String) (name : String) (w v : World K) : Prop where
  view_eq : v.view owner name = w.view owner name
  proper : w.Proper owner name

/-- `w'` comes of `w` by a change at the name alone. -/
structure Apart (owner : String → Option String) (name : String) (w w' : World K) : Prop where
  surroundings : w'.surroundings = w.surroundings
  entries : ∀ n, n ≠ name → w'.gateway.registry.entries.get? n = w.gateway.registry.entries.get? n
  calls : ∀ id, owner id ≠ some name → w'.calls.get? id = w.calls.get? id
  journal : ∀ n, n ≠ name → about n w'.journal = about n w.journal
  standalone : w'.standalone = w.standalone
  standaloneIds : w'.standaloneIds = w.standaloneIds

/-- Two worlds that the name sees alike go on to `w'` and `v'` by a change at the name alone. -/
structure Moves (owner : String → Option String) (name : String) (w w' v' : World K) : Prop where
  agree : w'.Agree owner name v'
  apart : w.Apart owner name w'

/-- What is done comes to the same in both worlds and concerns the name alone. -/
structure Confined (owner : String → Option String) (name : String) (w : World K) {α : Type}
    (out out' : World K × List Effect × α) : Prop where
  moves : w.Moves owner name out.1 out'.1
  /-- The effects are the same, and so is the answer. -/
  same : out'.2 = out.2
  onlyAbout : OnlyAbout name out.2.1

variable {owner : String → Option String} {name n id : String} {w w' w'' v v' : World K}
  {call : Call K} {c : Circuit K} {α β ε : Type} {out out' : World K × List Effect × α}

/-! ## Views -/

theorem view_eq_of (haround : v.surroundings = w.surroundings)
    (hentry : v.gateway.registry.entries.get? name = w.gateway.registry.entries.get? name)
    (hcalls : ∀ id, owner id = some name → v.calls.get? id = w.calls.get? id)
    (hjournal : about name v.journal = about name w.journal) :
    v.view owner name = w.view owner name := by
  unfold view
  congr 1
  funext id
  split
  · rename_i hid
    exact hcalls id hid
  · rfl

namespace Agree

theorem surroundings (h : w.Agree owner name v) : v.surroundings = w.surroundings :=
  congrArg View.surroundings h.view_eq

theorem clock (h : w.Agree owner name v) : v.clock = w.clock :=
  congrArg Surroundings.clock h.surroundings

theorem standing (h : w.Agree owner name v) :
    v.gateway.registry.standing = w.gateway.registry.standing :=
  congrArg Surroundings.standing h.surroundings

theorem entry (h : w.Agree owner name v) :
    v.gateway.registry.entries.get? name = w.gateway.registry.entries.get? name :=
  congrArg View.entry h.view_eq

theorem journal (h : w.Agree owner name v) : about name v.journal = about name w.journal :=
  congrArg View.journal h.view_eq

theorem call?_eq (h : w.Agree owner name v) (hid : owner id = some name) :
    v.calls.get? id = w.calls.get? id := by
  have hcall := congrFun (congrArg View.call? h.view_eq) id
  simp only [view, hid, ↓reduceIte] at hcall
  exact hcall

theorem circuit? (h : w.Agree owner name v) :
    v.circuit? (.named name) = w.circuit? (.named name) := congrArg (Option.map _) h.entry

theorem rejection (h : w.Agree owner name v) (ctx : CallContext K) (e : OpenError) :
    (v.gateway.rejection ctx e : CallResult Json (Failure K)) = w.gateway.rejection ctx e := by
  have hmapper : v.gateway.mapper = w.gateway.mapper := congrArg Surroundings.mapper h.surroundings
  unfold Gateway.rejection
  rw [hmapper]

theorem self (h : w.Proper owner name) : w.Agree owner name w := ⟨rfl, h⟩

end Agree

namespace Apart

theorem refl (owner : String → Option String) (name : String) (w : World K) :
    w.Apart owner name w := ⟨rfl, fun _ _ => rfl, fun _ _ => rfl, fun _ _ => rfl, rfl, rfl⟩

theorem trans (h : w.Apart owner name w') (h' : w'.Apart owner name w'') :
    w.Apart owner name w'' where
  surroundings := h'.surroundings.trans h.surroundings
  entries n hne := (h'.entries n hne).trans (h.entries n hne)
  calls id hid := (h'.calls id hid).trans (h.calls id hid)
  journal n hne := (h'.journal n hne).trans (h.journal n hne)
  standalone := h'.standalone.trans h.standalone
  standaloneIds := h'.standaloneIds.trans h.standaloneIds

/-- Other names do not see the change. -/
theorem view_eq (h : w.Apart owner name w') (hne : n ≠ name) :
    w'.view owner n = w.view owner n := by
  refine view_eq_of h.surroundings (h.entries n hne) (fun id hid => h.calls id ?_) (h.journal n hne)
  rw [hid, ne_eq, Option.some.injEq]
  exact hne

end Apart

theorem Moves.trans (h : w.Moves owner name w' v) (h' : w'.Moves owner name w'' v') :
    w.Moves owner name w'' v' := ⟨h'.agree, h.apart.trans h'.apart⟩

namespace Confined

/-- Nothing happens, and the answer depends on what the name sees. -/
theorem still (h : w.Agree owner name v) {answer answer' : α} (hanswer : answer' = answer) :
    Confined owner name w (w, [], answer) (v, [], answer') :=
  ⟨⟨h, .refl owner name w⟩, congrArg (Prod.mk []) hanswer, .nil⟩

theorem map (h : Confined owner name w out out') {f f' : α → β} (hf : f' = f) :
    Confined owner name w (out.1, out.2.1, f out.2.2) (out'.1, out'.2.1, f' out'.2.2) :=
  ⟨h.moves, by rw [hf, h.same], h.onlyAbout⟩

/-- Something follows that is confined as well. -/
theorem andThen (h : Confined owner name w out out') {next next' : World K × List Effect × β}
    (h' : Confined owner name out.1 next next') :
    Confined owner name w (next.1, out.2.1 ++ next.2.1, next.2.2)
      (next'.1, out'.2.1 ++ next'.2.1, next'.2.2) :=
  ⟨h.moves.trans h'.moves, by rw [h.same, h'.same], h.onlyAbout.append h'.onlyAbout⟩

end Confined

/-! ## Operations of the registry -/

open Registry (Local)

theorem surroundings_onRegistry {op : Registry K → Instant → Registry K × List Effect × α}
    (hop : Local name (op · w.clock)) : (w.onRegistry op).1.surroundings = w.surroundings := by
  have hstanding := hop.standing w.gateway.registry
  show (⟨_, _, _, (op w.gateway.registry w.clock).1.standing, _, _, _⟩ : Surroundings K) = _
  rw [hstanding]
  rfl

theorem Apart.onRegistry {op : Registry K → Instant → Registry K × List Effect × α}
    (h : w.Proper owner name) (hop : Local name (op · w.clock)) :
    w.Apart owner name (w.onRegistry op).1 where
  surroundings := surroundings_onRegistry hop
  entries := hop.others w.gateway.registry
  calls _ _ := rfl
  journal n hne := by
    have habout := (hop.onlyAbout w.gateway.registry h.bears).about_of_ne hne
    exact (Effect.about_append ..).trans ((congrArg (_ ++ ·) habout).trans (List.append_nil _))
  standalone := rfl
  standaloneIds := rfl

/-- An operation on the name is confined to it. -/
theorem Agree.onRegistry (h : w.Agree owner name v)
    (op : Registry K → Instant → Registry K × List Effect × α) (hop : Local name (op · w.clock)) :
    Confined owner name w (w.onRegistry op) (v.onRegistry op) := by
  have hop' : Local name (op · v.clock) := by
    rw [h.clock]
    exact hop
  have haround : (v.onRegistry op).1.surroundings = (w.onRegistry op).1.surroundings :=
    (surroundings_onRegistry hop').trans (h.surroundings.trans (surroundings_onRegistry hop).symm)
  have hsame : (v.onRegistry op).2 = (w.onRegistry op).2 := by
    show (op v.gateway.registry v.clock).2 = _
    rw [h.clock]
    exact hop.answer _ _ h.standing h.entry
  refine ⟨⟨⟨view_eq_of haround ?_ (fun id hid => h.call?_eq hid) ?_, ?_⟩, .onRegistry h.proper hop⟩,
    hsame, hop.onlyAbout _ h.proper.bears⟩
  · show (op v.gateway.registry v.clock).1.entries.get? name = _
    rw [h.clock]
    exact hop.entry _ _ h.standing h.entry
  · show about name (v.journal ++ (v.onRegistry op).2.1) = _
    rw [hsame, Effect.about_append, h.journal]
    exact (Effect.about_append ..).symm
  · exact ⟨hop.bears _ h.proper.bears, h.proper.keeps⟩

theorem Agree.onCircuit (h : w.Agree owner name v) (hc : w.circuit? (.named name) = some c)
    (op : Circuit K → Instant → Circuit K × List Effect × α)
    (hname : (op c w.clock).1.name = c.name) (habout : OnlyAbout c.name (op c w.clock).2.1) :
    Confined owner name w (w.onCircuit (.named name) c op) (v.onCircuit (.named name) c op) := by
  have hbears : c.name = name := h.proper.bears c hc
  rw [hbears] at hname habout
  exact h.onRegistry (fun r now => (r.setCircuit name (op c now).1, (op c now).2))
    (Registry.local_setCircuit hname habout)

/-! ## Motions of calls -/

theorem surroundings_begin (w : World K) (route : Route K) :
    (w.begin route).surroundings = w.surroundings := by
  cases route with
  | gateway ctx => rfl
  | direct a => rfl
  | service number ctx inner =>
    unfold begin surroundings
    congr 1
    exact Service.map_plain_modify w.services number inner

theorem moves_begin (h : w.Agree owner name v) (route : Route K) :
    w.Moves owner name (w.begin route) (v.begin route) := by
  have haround : (v.begin route).surroundings = (w.begin route).surroundings :=
    (v.surroundings_begin route).trans (h.surroundings.trans (w.surroundings_begin route).symm)
  have happart : w.Apart owner name (w.begin route) := by
    have hrefl := Apart.refl owner name w
    cases route <;>
      exact ⟨w.surroundings_begin _, hrefl.entries, hrefl.calls, hrefl.journal, rfl, rfl⟩
  refine ⟨⟨view_eq_of haround ?_ ?_ ?_, ?_⟩, happart⟩
  · cases route <;> exact h.entry
  · intro id hid
    cases route <;> exact h.call?_eq hid
  · cases route <;> exact h.journal
  · cases route <;> exact ⟨h.proper.bears, h.proper.keeps⟩

theorem Confined.begun {out out' : World K × List Effect × Except ε Permit}
    (h : Confined owner name w out out') (route : Route K) :
    Confined owner name w (begun route out) (begun route out') := by
  obtain ⟨w₁, effects, answer⟩ := out
  obtain ⟨v₁, rest⟩ := out'
  obtain ⟨hmoves, rfl, habout⟩ := h
  cases answer with
  | ok p => exact ⟨hmoves.trans (moves_begin hmoves.agree route), rfl, habout⟩
  | error e => exact ⟨hmoves, rfl, habout⟩

/-- What goes under one identifier of the name changes in both worlds alike. -/
theorem moves_calls (h : w.Agree owner name v) (hid : owner id = some name)
    {calls calls' : Table (Call K)}
    (hcalls : ∀ i, calls.get? i = if i = id then calls.get? id else w.calls.get? i)
    (hcalls' : ∀ i, calls'.get? i = if i = id then calls.get? id else v.calls.get? i)
    (hroute : ∀ call, calls.get? id = some call → call.route.address = .named name) :
    w.Moves owner name { w with calls } { v with calls := calls' } := by
  have hrefl := Apart.refl owner name w
  refine ⟨⟨view_eq_of h.surroundings h.entry (fun i hi => ?_) h.journal, h.proper.bears, ?_⟩,
    rfl, hrefl.entries, fun i hi => ?_, hrefl.journal, rfl, rfl⟩
  · show calls'.get? i = calls.get? i
    rw [hcalls, hcalls', h.call?_eq hi]
  · intro i call hi hcall
    change calls.get? i = some call at hcall
    rw [hcalls] at hcall
    split at hcall
    · exact hroute call hcall
    · exact h.proper.keeps i call hi hcall
  · have hne : i ≠ id := fun hn => hi (hn ▸ hid)
    exact (hcalls i).trans (if_neg hne)

theorem moves_forget (h : w.Agree owner name v) (hid : owner id = some name) :
    w.Moves owner name (w.forget id) (v.forget id) := by
  have hnone : (w.calls.erase id).get? id = none := (Table.get?_erase ..).trans (if_pos rfl)
  refine moves_calls h hid (fun i => ?_) (fun i => ?_) fun call hcall => ?_
  · rw [hnone, Table.get?_erase]
  · rw [hnone, Table.get?_erase]
  · rw [hnone] at hcall
    cases hcall

theorem moves_board (h : w.Agree owner name v) (hid : owner id = some name)
    (hcall : call.route.address = .named name) :
    w.Moves owner name { w with calls := w.calls.insert id call }
      { v with calls := v.calls.insert id call } := by
  refine moves_calls h hid (fun i => ?_) (fun i => ?_) fun call' hcall' => ?_
  · rw [Table.get?_insert_self, Table.get?_insert]
  · rw [Table.get?_insert_self, Table.get?_insert]
  · rw [Table.get?_insert_self, Option.some.injEq] at hcall'
    rw [← hcall']
    exact hcall

theorem confined_settle (h : w.Agree owner name v) (p : Permit)
    (action : Action Json (Failure K)) :
    Confined owner name w (w.settle (.named name) p action) (v.settle (.named name) p action) := by
  unfold World.settle
  rw [h.circuit?]
  cases hc : w.circuit? (.named name) with
  | none => exact .still h rfl
  | some c =>
    exact h.onCircuit hc _ (c.advance_settle w.clock p Failure.kind action).name_eq
      (c.onlyAbout_settle w.clock p Failure.kind action)

theorem confined_abandonAt (h : w.Agree owner name v) (p : Permit) :
    Confined owner name w (w.abandonAt (.named name) p) (v.abandonAt (.named name) p) := by
  unfold World.abandonAt
  rw [h.circuit?]
  cases hc : w.circuit? (.named name) with
  | none => exact .still h rfl
  | some c =>
    exact h.onCircuit hc (fun c now => ((c.abandon now p).1, (c.abandon now p).2, ()))
      (c.advance_abandon w.clock p).name_eq (c.onlyAbout_abandon w.clock p)

variable [DecidableEq K]

theorem enterGateway_eq (w : World K) (ctx : CallContext K) :
    w.enterGateway ctx =
      let out := w.onRegistry (Registry.arrive ctx.name (ctx.rule.map (.ofRule w.hierarchy)))
      (out.1, out.2.1, out.2.2.mapError fun e => w.gateway.rejection ctx e) := by
  unfold World.enterGateway
  rw [Gateway.arrive_eq]
  rfl

theorem confined_enterGateway {ctx : CallContext K} (h : w.Agree owner ctx.name v) :
    Confined owner ctx.name w (w.enterGateway ctx) (v.enterGateway ctx) := by
  have hhierarchy : v.hierarchy = w.hierarchy := congrArg Surroundings.hierarchy h.surroundings
  rw [enterGateway_eq, enterGateway_eq, hhierarchy]
  have harrive := h.onRegistry _ (Registry.local_arrive ctx.name
    (ctx.rule.map (.ofRule w.hierarchy)) w.clock)
  exact harrive.map (funext fun x => congrArg x.mapError (funext (h.rejection ctx)))

theorem confined_enter (h : w.Agree owner name v) {route : Route K}
    (hroute : route.address = .named name) :
    Confined owner name w (w.enter route) (v.enter route) := by
  cases route with
  | gateway ctx =>
    cases hroute
    rw [enter_gateway, enter_gateway]
    exact (confined_enterGateway h).begun _
  | service number ctx inner =>
    cases hroute
    rw [enter_service, enter_service]
    exact (confined_enterGateway h).begun _
  | direct a =>
    cases hroute
    cases hc : w.circuit? (.named name) with
    | none =>
      rw [enter_direct_of_none hc, enter_direct_of_none (h.circuit?.trans hc)]
      exact .still h rfl
    | some c =>
      rw [enter_direct_of_some hc, enter_direct_of_some (h.circuit?.trans hc)]
      have harrive := h.onCircuit hc Circuit.arrive (c.advance_arrive w.clock).name_eq
        (c.onlyAbout_arrive w.clock)
      have hmapped := harrive.map (f := fun answer => answer.mapError fun e =>
        (CallResult.error (.rejected e) : CallResult Json (Failure K))) rfl
      exact hmapped.begun (.direct (.named name))

end World

end Breaker
