/-!
# Inspection text

The layout in which values show their parts: `Name { field: value }` for
records, `[a, b]` for lists, `{a, b}` for sets, `None` and `Some(value)` for
options.
-/

namespace Breaker.Inspect

def commas (items : List String) : String := ", ".intercalate items

def list (items : List String) : String := "[" ++ commas items ++ "]"

def set (items : List String) : String := "\x7b" ++ commas items ++ "\x7d"

def option : Option String → String
  | none => "None"
  | some text => "Some(" ++ text ++ ")"

/-- A record with at least one field. -/
def record (name : String) (fields : List (String × String)) : String :=
  name ++ " \x7b " ++ commas (fields.map fun f => f.1 ++ ": " ++ f.2) ++ " \x7d"

end Breaker.Inspect
