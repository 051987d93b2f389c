import Breaker.Circuit.Control
import Breaker.Proofs.Policy.Encoding
import Breaker.Proofs.Policy.Loading

/-!
# Policies that survive

A policy survives if its parts are valid and make it again, and if it is decoded from its encoding,
alone and in a snapshot. What decides this is the window, which must not be empty
(`Policy.survives_iff`). Validation and properties let no empty window pass, and the policies for a
single failure have none. `Policy.windowed` raises a zero frequency but takes every period, and with
an empty one it makes a policy that can be used and written down, but not read back.
-/

namespace Breaker

theorem Duration.ofMillis_ne_zero {n : Nat} (h : 0 < n) : ofMillis n ≠ .zero := by
  intro hzero
  have hnanos := congrArg Duration.nanos hzero
  simp only [ofMillis, ofNanos, nanos_zero, limit, nanosPerSecond] at hnanos
  omega

theorem Snapshot.field?_policy (s : Snapshot) :
    s.toJson.field? "policy" = some s.policy.toJson := by
  simp [toJson, Json.ofFields, Json.setField, Json.field?, Json.lookField]

namespace Policy

/-- A way to make a policy. -/
inductive Way where
  | windowed (frequency : UInt64) (period reset : Duration)
  | single (reset : Duration)
  | standard
  | validated (threshold : UInt64) (window : Option Duration) (reset : Duration)
  | loaded (pairs : List (String × String)) (name : String)

/-- The policy is made that way. -/
def Way.Makes : Way → Policy → Prop
  | windowed frequency period reset, p => p = .windowed frequency period reset
  | single reset, p => p = .single reset
  | standard, p => p = .standard
  | validated threshold window reset, p => validate threshold window reset = .ok p
  | loaded pairs name, p => (Properties.load pairs).policies.get? name = some p

variable {p : Policy} {t : UInt64} {w : Option Duration} {r : Duration} {name : String}
  {pairs : List (String × String)}

/-- Nothing of the policy is lost when it is taken apart, encoded or shown in a snapshot. -/
structure Survives (p : Policy) : Prop where
  validated : validate p.threshold p.window p.resetTimeout = .ok p
  decoded : ofJson p.toJson = .ok p
  shown : ∀ s : Snapshot, s.policy = p →
    ∃ j, s.toJson.field? "policy" = some j ∧ ofJson j = .ok p

theorem survives_iff : Survives p ↔ p.window ≠ some .zero := by
  constructor
  · intro h
    exact window_ne_of_ofJson h.decoded
  · intro hw
    refine ⟨validate_parts hw, ofJson_toJson hw, ?_⟩
    rintro s rfl
    exact ⟨_, s.field?_policy, ofJson_toJson hw⟩

/-- With an empty window neither the parts nor the encoding make a policy. -/
theorem lost_of_empty (hw : p.window = some .zero) :
    validate p.threshold p.window p.resetTimeout = .error .emptyWindow ∧
      ofJson p.toJson = .error (.invalid .emptyWindow) := by
  have hspells := p.spells_toJson
  rw [hw] at hspells ⊢
  exact ⟨validate_empty p.threshold_ne_zero _,
    ofJson_of_decodes (.emptyWindow hspells p.threshold_ne_zero)⟩

theorem survives_single (r : Duration) : Survives (single r) := survives_iff.2 nofun

theorem survives_windowed_iff {frequency : UInt64} {period : Duration} :
    Survives (windowed frequency period r) ↔ period ≠ .zero := by
  rw [survives_iff, windowed, Ne, Option.some.injEq]

theorem survives_of_validate (h : validate t w r = .ok p) : Survives p := by
  unfold validate at h
  split at h
  · cases h
  · split at h
    · cases h
    · rename_i hw
      cases h
      exact survives_iff.2 hw

theorem survives_of_load (h : (Properties.load pairs).policies.get? name = some p) :
    Survives p := by
  obtain ⟨f, period, reset, -, -, -, -, hperiod, -, rfl⟩ :=
    ((Properties.load_amounts pairs).policies name p).1 h
  exact survives_windowed_iff.2 (Duration.ofMillis_ne_zero (by omega))

/-- Every policy that can be made survives, but for those that are windowed with an empty period:
these are refused wherever policies are validated. -/
theorem constructed_survives (way : Way) (h : way.Makes p) :
    (Survives p ↔ ∀ frequency reset, way ≠ .windowed frequency .zero reset) ∧
      (¬ Survives p → validate p.threshold p.window p.resetTimeout = .error .emptyWindow ∧
        ofJson p.toJson = .error (.invalid .emptyWindow)) := by
  refine ⟨?_, fun hlost => lost_of_empty (not_not.1 (mt survives_iff.2 hlost))⟩
  cases way with
  | windowed frequency period reset =>
    cases h
    simp [survives_windowed_iff]
  | single reset =>
    cases h
    exact iff_of_true (survives_single reset) nofun
  | standard =>
    cases h
    exact iff_of_true (survives_single _) nofun
  | validated threshold window reset =>
    exact iff_of_true (survives_of_validate h) nofun
  | loaded pairs name => exact iff_of_true (survives_of_load h) nofun

/-- The shortest period and the longest reset that properties can give. -/
def corners : List (String × String) :=
  [("circuit.db.frequency", "1"), ("circuit.db.period", "1"),
    ("circuit.db.reset", "9223372036854775807")]

/-- The highest threshold, no window and no time to wait. -/
def lasting : Policy := ⟨18446744073709551615, none, .zero, by decide⟩

theorem constructed_survives_corners :
    (Properties.load corners).policies.get? "db" =
        some (.windowed 1 (.ofMillis 1) (.ofMillis 9223372036854775807)) ∧
      Survives (.windowed 1 (.ofMillis 1) (.ofMillis 9223372036854775807)) ∧
      validate lasting.threshold none .zero = .ok lasting ∧ Survives lasting ∧
      Survives (.windowed 0 (.ofNanos 1) .zero) ∧ ¬ Survives (.windowed 0 .zero .zero) := by
  have hcorners : (Properties.load corners).policies.get? "db" =
      some (.windowed 1 (.ofMillis 1) (.ofMillis 9223372036854775807)) := by decide
  have hlasting : validate lasting.threshold none .zero = .ok lasting :=
    validate_parts (p := lasting) nofun
  have hloaded := (constructed_survives (.loaded corners "db") hcorners).1.2 nofun
  have hvalidated := (constructed_survives (.validated _ none .zero) hlasting).1.2 nofun
  have hwindowed := (constructed_survives (.windowed 0 (.ofNanos 1) .zero) rfl).1.2
    fun _ _ heq => absurd (Way.windowed.inj heq).2.1 (by decide)
  have hempty := (constructed_survives (.windowed 0 .zero .zero) rfl).1
  exact ⟨hcorners, hloaded, hlasting, hvalidated, hwindowed, fun h => hempty.1 h 0 .zero rfl⟩

/-- A policy that can be made and not read back. -/
def emptied : Policy := .windowed 2 .zero (.ofSeconds 1)

theorem emptied_lost :
    validate emptied.threshold emptied.window emptied.resetTimeout = .error .emptyWindow ∧
      ofJson emptied.toJson = .error (.invalid .emptyWindow) ∧ ¬ Survives emptied :=
  ⟨(lost_of_empty rfl).1, (lost_of_empty rfl).2, fun h => window_ne_of_ofJson h.decoded rfl⟩

end Policy

end Breaker
