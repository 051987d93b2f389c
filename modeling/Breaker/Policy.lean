import Breaker.Time

/-!
# Policies

A policy says when a circuit opens and how long it stays open: it opens on the
`threshold`-th tripping failure within the trailing `window`, or since it was
last closed if there is no window, and lets a trial through once
`resetTimeout` has passed.
-/

namespace Breaker

/-- When a circuit opens and for how long. -/
@[ext] structure Policy where
  threshold : UInt64
  window : Option Duration
  resetTimeout : Duration
  threshold_ne_zero : threshold ≠ 0
  deriving DecidableEq

/-- Why numbers make no policy. -/
inductive PolicyError where
  | zeroThreshold
  | emptyWindow
  deriving DecidableEq

def PolicyError.message : PolicyError → String
  | zeroThreshold => "threshold must be at least 1"
  | emptyWindow => "window must be positive"

namespace Policy

/-- Counts failures within `period`; a zero `frequency` is raised to one. -/
def windowed (frequency : UInt64) (period reset : Duration) : Policy where
  threshold := if frequency = 0 then 1 else frequency
  window := some period
  resetTimeout := reset
  threshold_ne_zero := by split <;> simp_all

/-- Opens on the first tripping failure. -/
def single (reset : Duration) : Policy := ⟨1, none, reset, by decide⟩

/-- The policy of circuits that were given none. -/
def standard : Policy := single (.ofSeconds 15)

instance : Inhabited Policy := ⟨standard⟩

/-- The policy with these parts, unless the threshold is zero or the window is empty. -/
def validate (threshold : UInt64) (window : Option Duration) (reset : Duration) :
    Except PolicyError Policy :=
  if h : threshold = 0 then .error .zeroThreshold
  else if window = some .zero then .error .emptyWindow
  else .ok ⟨threshold, window, reset, h⟩

/-- How many tripping failures open the circuit. -/
def count (p : Policy) : Nat := p.threshold.toNat

theorem one_le_count (p : Policy) : 1 ≤ p.count := by
  have h := p.threshold_ne_zero
  have h0 : p.threshold.toNat ≠ 0 := fun e => h (UInt64.toNat_inj.1 (by simpa using e))
  simp only [count]
  omega

end Policy

end Breaker
