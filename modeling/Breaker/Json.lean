/-!
# JSON values

Whole numbers written without fraction and exponent are integers; every other
number keeps its text, since nothing here computes with it. The fields of an
object keep their order, and no name occurs twice.
-/

namespace Breaker

inductive Json where
  | null
  | bool (value : Bool)
  | int (value : Int)
  | real (text : String)
  | str (value : String)
  | arr (items : List Json)
  | obj (fields : List (String × Json))

namespace Json

instance : Inhabited Json := ⟨null⟩

/-- Sets a field in place, or adds it at the end. -/
def setField (name : String) (value : Json) : List (String × Json) → List (String × Json)
  | [] => [(name, value)]
  | (n, v) :: rest => if n = name then (n, value) :: rest else (n, v) :: setField name value rest

/-- The object with these fields; of two fields with one name the later value counts. -/
def ofFields (fields : List (String × Json)) : Json :=
  obj (fields.foldl (fun acc f => setField f.1 f.2 acc) [])

/-- The value of a field in a list of fields. -/
def lookField (name : String) : List (String × Json) → Option Json
  | [] => none
  | (n, v) :: rest => if name = n then some v else lookField name rest

/-- The value of a field, if the value is an object that has it. -/
def field? (j : Json) (name : String) : Option Json :=
  match j with
  | obj fields => lookField name fields
  | _ => none

def nat (n : Nat) : Json := int n

/-- A list of strings. -/
def strings (l : List String) : Json := arr (l.map str)

/-- The value under the option, or `null`. -/
def ofOption : Option Json → Json
  | none => null
  | some j => j

end Json

end Breaker
