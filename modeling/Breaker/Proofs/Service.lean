import Breaker.Service
import Mathlib.Data.List.Forall2

/-!
# Services up to their requests

A request leaves its mark on the service alone, in the list of its requests. `Service.Alike`
compares services without that list, or with it if `exact`; whatever is done to alike services, at
the same place in two lists of them, leaves them alike.
-/

namespace Breaker

variable {K : Type}

/-- The services differ in nothing but the requests they got, and not in these if `exact`. -/
structure Service.Alike {E : Type} (exact : Bool) (s s' : Service K E) : Prop where
  name_eq : s'.name = s.name
  rule_eq : s'.rule = s.rule
  inner_eq : s'.inner = s.inner
  readiness_eq : s'.readiness = s.readiness
  requests_eq : exact = true → s'.requests = s.requests

namespace Service

variable {E : Type} {exact : Bool} {s s' : Service K E} {l l' : List (Service K E)}

theorem Alike.refl (exact : Bool) (s : Service K E) : s.Alike exact s :=
  ⟨rfl, rfl, rfl, rfl, fun _ => rfl⟩

theorem alike_request (s : Service K E) (i : Instance) : s.Alike false (s.request i) :=
  ⟨rfl, rfl, rfl, rfl, nofun⟩

theorem Alike.request (h : s.Alike exact s') (i : Instance) :
    (s.request i).Alike exact (s'.request i) where
  name_eq := h.name_eq
  rule_eq := h.rule_eq
  inner_eq := h.inner_eq
  readiness_eq := h.readiness_eq
  requests_eq hexact := congrArg (· ++ [i.ready]) (h.requests_eq hexact)

theorem Alike.poll (h : s.Alike exact s') (readiness : Readiness E) :
    ({ s with readiness }.poll.1).Alike exact { s' with readiness }.poll.1 where
  name_eq := h.name_eq
  rule_eq := h.rule_eq
  inner_eq := congrArg (·.polled readiness) h.inner_eq
  readiness_eq := rfl
  requests_eq := h.requests_eq

theorem Alike.eq (h : s.Alike true s') : s' = s := by
  cases s
  cases s'
  obtain ⟨rfl, rfl, rfl, rfl, hrequests⟩ := h
  cases hrequests rfl
  rfl

theorem alike_refl (exact : Bool) (l : List (Service K E)) : List.Forall₂ (Alike exact) l l :=
  List.forall₂_same.2 fun s _ => .refl exact s

theorem alike_getElem? (h : List.Forall₂ (Alike exact) l l') (n : Nat) :
    (l[n]? = none ∧ l'[n]? = none) ∨
      ∃ s s', l[n]? = some s ∧ l'[n]? = some s' ∧ s.Alike exact s' := by
  induction h generalizing n with
  | nil => exact .inl ⟨rfl, rfl⟩
  | cons hs _ ih =>
    cases n with
    | zero => exact .inr ⟨_, _, rfl, rfl, hs⟩
    | succ n => exact ih n

theorem alike_modify (h : List.Forall₂ (Alike exact) l l') (n : Nat) (i : Instance) :
    List.Forall₂ (Alike exact) (l.modify n (·.request i)) (l'.modify n (·.request i)) := by
  induction h generalizing n with
  | nil => cases n <;> exact .nil
  | cons hs hl ih =>
    cases n with
    | zero => exact .cons (hs.request i) hl
    | succ n => exact .cons hs (ih n)

theorem alike_modify_self (l : List (Service K E)) (n : Nat) (i : Instance) :
    List.Forall₂ (Alike false) l (l.modify n (·.request i)) := by
  induction l generalizing n with
  | nil => cases n <;> exact .nil
  | cons s l ih =>
    cases n with
    | zero => exact .cons (s.alike_request i) (alike_refl false l)
    | succ n => exact .cons (.refl false s) (ih n)

theorem alike_set (h : List.Forall₂ (Alike exact) l l') (hs : s.Alike exact s') (n : Nat) :
    List.Forall₂ (Alike exact) (l.set n s) (l'.set n s') := by
  induction h generalizing n with
  | nil => exact .nil
  | cons hs₀ hl ih =>
    cases n with
    | zero => exact .cons hs hl
    | succ n => exact .cons hs₀ (ih n)

theorem eq_of_alike (h : List.Forall₂ (Alike true) l l') : l' = l := by
  induction h with
  | nil => rfl
  | cons hs _ ih => rw [hs.eq, ih]

end Service

end Breaker
