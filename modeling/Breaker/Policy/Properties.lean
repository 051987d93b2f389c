import Breaker.Policy.ConfigError
import Breaker.Table
import Breaker.Text.Blank
import Breaker.Text.Integer

/-!
# Policies from flat properties

Properties are pairs of texts. The keys `circuit.<name>.frequency`,
`circuit.<name>.period` and `circuit.<name>.reset` set the numbers of one
circuit, the last two in milliseconds; keys that do not start with `circuit.`
are none of ours. A later value of a key replaces an earlier one. A circuit whose
three numbers are present and positive gets a windowed policy. Every other
problem is reported and costs only the entry it is in.
-/

namespace Breaker

inductive Property where
  | frequency
  | period
  | reset
  deriving DecidableEq

namespace Property

def name : Property → String
  | frequency => "frequency"
  | period => "period"
  | reset => "reset"

def ofName? (s : List Char) : Option Property :=
  if s = frequency.name.toList then some frequency
  else if s = period.name.toList then some period
  else if s = reset.name.toList then some reset
  else none

end Property

namespace Settings

def get? (s : Settings) : Property → Option Int
  | .frequency => s.frequency
  | .period => s.period
  | .reset => s.reset

def set (s : Settings) (p : Property) (n : Int) : Settings :=
  match p with
  | .frequency => { s with frequency := some n }
  | .period => { s with period := some n }
  | .reset => { s with reset := some n }

/-- The policy with these numbers, if all three are there and positive. -/
def policy? (s : Settings) : Option Policy :=
  match s.frequency, s.period, s.reset with
  | some f, some p, some r =>
    if 0 < f ∧ 0 < p ∧ 0 < r then
      some (.windowed (UInt64.ofNat f.toNat) (.ofMillis p.toNat) (.ofMillis r.toNat))
    else none
  | _, _, _ => none

end Settings

namespace Properties

/-- What every key of a circuit starts with. -/
def keyStart : List Char := ['c', 'i', 'r', 'c', 'u', 'i', 't', '.']

/-- What one pair says. -/
inductive Reading where
  | foreign
  | refused (error : ConfigError)
  | setting (name : String) (property : Property) (value : Int)

/-- The part of a key after its start, if it has that start. -/
def afterStart? (key : List Char) : Option (List Char) :=
  if keyStart.isPrefixOf key then some (key.drop keyStart.length) else none

/-- The parts before and after the first dot, if there is a dot and neither part is empty. -/
def split? (cs : List Char) : Option (List Char × List Char) :=
  match cs.takeWhile (· ≠ '.'), cs.dropWhile (· ≠ '.') with
  | [], _ => none
  | _, [] => none
  | _, [_] => none
  | name, _ :: rest => some (name, rest)

def read (key value : String) : Reading :=
  match afterStart? key.toList with
  | none => .foreign
  | some rest =>
    match split? rest with
    | none => .refused (.malformedKey key)
    | some (name, property) =>
      match Property.ofName? property with
      | none => .refused (.unknownProperty key)
      | some p =>
        match Text.integer? (Text.trim value.toList) with
        | none => .refused (.invalidNumber key value)
        | some n => .setting (String.ofList name) p n

end Properties

/-- What a list of properties amounts to. -/
structure Loaded where
  policies : Table Policy
  errors : List ConfigError

namespace Properties

def errorOf (pair : String × String) : Option ConfigError :=
  match read pair.1 pair.2 with
  | .refused e => some e
  | _ => none

/-- The settings after one more pair. -/
def apply (table : Table Settings) (pair : String × String) : Table Settings :=
  match read pair.1 pair.2 with
  | .setting name p n => table.insert name (((table.get? name).getD {}).set p n)
  | _ => table

def settings (pairs : List (String × String)) : Table Settings := pairs.foldl apply ∅

def policies (table : Table Settings) : Table Policy :=
  .ofList (table.entries.filterMap fun e => e.2.policy?.map (e.1, ·))

def incompletes (table : Table Settings) : List ConfigError :=
  table.entries.filterMap fun e =>
    match e.2.policy? with
    | some _ => none
    | none => some (.incomplete e.1 e.2)

/-- Reads the pairs in order; errors come in the order of the pairs, then by name. -/
def load (pairs : List (String × String)) : Loaded where
  policies := policies (settings pairs)
  errors := pairs.filterMap errorOf ++ incompletes (settings pairs)

end Properties

end Breaker
