/-!
# Instants and durations

The clock counts whole nanoseconds and never runs backwards. An `Instant` is a reading of it;
readings end at `Instant.limit`. A `Duration` is a span of at most `2 ^ 64 - 1` whole seconds and
`10 ^ 9 - 1` nanoseconds, the range in which spans are written down; spans that would exceed it are
cut to the longest one.
-/

namespace Breaker

/-- A reading of the clock, in nanoseconds. -/
abbrev Instant := Nat

namespace Duration

def nanosPerSecond : Nat := 1000000000

/-- The number of distinct durations. -/
def limit : Nat := 18446744073709551616 * nanosPerSecond

end Duration

@[ext] structure Duration where
  nanos : Nat
  nanos_lt : nanos < Duration.limit
  deriving DecidableEq

namespace Duration

/-- The span of `n` nanoseconds, cut to the longest duration. -/
def ofNanos (n : Nat) : Duration where
  nanos := min n (limit - 1)
  nanos_lt := by simp only [limit, nanosPerSecond]; omega

def zero : Duration := ⟨0, by decide⟩

instance : Inhabited Duration := ⟨zero⟩

def ofMillis (n : Nat) : Duration := ofNanos (n * 1000000)

def ofSeconds (n : Nat) : Duration := ofNanos (n * nanosPerSecond)

def ofParts (secs nanos : Nat) : Duration := ofNanos (secs * nanosPerSecond + nanos)

/-- The span with these parts, if it is in range; excess nanoseconds carry into the seconds. -/
def ofParts? (secs nanos : Nat) : Option Duration :=
  if h : secs * nanosPerSecond + nanos < limit then some ⟨_, h⟩ else none

def secs (d : Duration) : Nat := d.nanos / nanosPerSecond

/-- The nanoseconds beyond the last whole second. -/
def subsecNanos (d : Duration) : Nat := d.nanos % nanosPerSecond

/-- What is left of `d` after `elapsed` nanoseconds. -/
def remainingAfter (d : Duration) (elapsed : Nat) : Duration where
  nanos := d.nanos - elapsed
  nanos_lt := Nat.lt_of_le_of_lt (Nat.sub_le ..) d.nanos_lt

/-- The span from `start` to `now`. -/
def between (start now : Instant) : Duration := ofNanos (now - start)

theorem nanos_ofNanos {n : Nat} (h : n < limit) : (ofNanos n).nanos = n :=
  Nat.min_eq_left (by omega)

@[simp] theorem nanos_remainingAfter (d : Duration) (elapsed : Nat) :
    (d.remainingAfter elapsed).nanos = d.nanos - elapsed := rfl

@[simp] theorem nanos_zero : zero.nanos = 0 := rfl

theorem secs_lt (d : Duration) : d.secs < 18446744073709551616 :=
  Nat.div_lt_of_lt_mul (by rw [Nat.mul_comm]; exact d.nanos_lt)

theorem subsecNanos_lt (d : Duration) : d.subsecNanos < nanosPerSecond :=
  Nat.mod_lt _ (by decide)

theorem secs_mul_add_subsecNanos (d : Duration) :
    d.secs * nanosPerSecond + d.subsecNanos = d.nanos :=
  Nat.div_add_mod' ..

/-- A duration is put together again from its parts. -/
theorem ofParts?_secs_subsecNanos (d : Duration) : ofParts? d.secs d.subsecNanos = some d := by
  have h := d.secs_mul_add_subsecNanos
  simp only [ofParts?, h, d.nanos_lt, ↓reduceDIte]

end Duration

namespace Instant

/-- How long the clock has been running at the reading 0. -/
def lead : Nat := 60 * Duration.nanosPerSecond

/-- The end of the clock's range, in which it counts fewer than `2 ^ 63` seconds in all. -/
def limit : Nat := 9223372036854775808 * Duration.nanosPerSecond - lead

/-- The reading `span` after `now`, if the clock goes that far. -/
def after? (now : Instant) (span : Duration) : Option Instant :=
  if now + span.nanos < limit then some (now + span.nanos) else none

theorem after?_eq_some_iff {now later : Instant} {span : Duration} :
    after? now span = some later ↔ later = now + span.nanos ∧ later < limit := by
  simp only [after?]
  split
  · rename_i h
    constructor
    · rintro ⟨⟩
      exact ⟨rfl, h⟩
    · rintro ⟨rfl, _⟩
      rfl
  · rename_i h
    constructor
    · rintro ⟨⟩
    · rintro ⟨rfl, hlt⟩
      exact absurd hlt h

theorem le_of_after?_eq_some {now later : Instant} {span : Duration}
    (h : after? now span = some later) : now ≤ later := by
  rw [(after?_eq_some_iff.1 h).1]
  exact Nat.le_add_right ..

end Instant

end Breaker
