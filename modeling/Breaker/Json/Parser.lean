import Breaker.Json
import Breaker.Text.Integer

/-!
# Reading JSON

`Json.parse?` accepts exactly one value with blanks around it. Every reader
takes the characters that are left and gives back what it read with the rest.
Values nest, so the readers of values, items and fields call each other; the
count that bounds them is twice the number of characters, since of two calls in
a row at least one reads a character.
-/

namespace Breaker.Json

/-- Drops the blanks of the grammar. -/
def skipBlanks : List Char → List Char
  | [] => []
  | c :: rest =>
    if c = ' ' ∨ c = '\n' ∨ c = '\r' ∨ c = '\t' then skipBlanks rest else c :: rest

/-! ## Strings -/

def hexDigit? (c : Char) : Option Nat :=
  if '0' ≤ c ∧ c ≤ '9' then some (c.toNat - '0'.toNat)
  else if 'a' ≤ c ∧ c ≤ 'f' then some (c.toNat - 'a'.toNat + 10)
  else if 'A' ≤ c ∧ c ≤ 'F' then some (c.toNat - 'A'.toNat + 10)
  else none

/-- The code unit that four hexadecimal digits stand for. -/
def unit? (a b c d : Char) : Option Nat := do
  let w ← hexDigit? a
  let x ← hexDigit? b
  let y ← hexDigit? c
  let z ← hexDigit? d
  return ((w * 16 + x) * 16 + y) * 16 + z

/-- The character that a letter after a backslash stands for. -/
def shortEscape? (c : Char) : Option Nat :=
  match c with
  | '"' => some 34
  | '\\' => some 92
  | '/' => some 47
  | 'b' => some 8
  | 'f' => some 12
  | 'n' => some 10
  | 'r' => some 13
  | 't' => some 9
  | _ => none

/-- The units up to the closing quote: escaped ones as written, other characters by code point. -/
def units? : List Char → Option (List Nat × List Char)
  | [] => none
  | '"' :: rest => some ([], rest)
  | '\\' :: 'u' :: a :: b :: c :: d :: rest => do
    let n ← unit? a b c d
    let (ns, rest) ← units? rest
    return (n :: ns, rest)
  | '\\' :: e :: rest => do
    let n ← shortEscape? e
    let (ns, rest) ← units? rest
    return (n :: ns, rest)
  | c :: rest => do
    if c.toNat < 32 then none
    let (ns, rest) ← units? rest
    return (c.toNat :: ns, rest)

/-- Joins surrogate pairs; a surrogate on its own is no character. -/
def joinUnits? : List Nat → Option (List Char)
  | [] => some []
  | [n] => if 0xD800 ≤ n ∧ n < 0xE000 then none else some [Char.ofNat n]
  | m :: n :: rest =>
    if 0xD800 ≤ m ∧ m < 0xDC00 then
      if 0xDC00 ≤ n ∧ n < 0xE000 then
        (joinUnits? rest).map (Char.ofNat (0x10000 + (m - 0xD800) * 1024 + (n - 0xDC00)) :: ·)
      else none
    else if 0xDC00 ≤ m ∧ m < 0xE000 then none
    else (joinUnits? (n :: rest)).map (Char.ofNat m :: ·)

/-- The rest of a string after its opening quote. -/
def string? (cs : List Char) : Option (String × List Char) := do
  let (ns, rest) ← units? cs
  let chars ← joinUnits? ns
  return (String.ofList chars, rest)

/-! ## Numbers -/

/-- The digits at the front, and the rest. -/
def digits (cs : List Char) : List Char × List Char :=
  (cs.takeWhile Char.isDigit, cs.dropWhile Char.isDigit)

/-- A fraction, if there is a point: the point with at least one digit. -/
def fraction? : List Char → Option (List Char × List Char)
  | '.' :: rest =>
    match digits rest with
    | ([], _) => none
    | (ds, rest) => some ('.' :: ds, rest)
  | rest => some ([], rest)

/-- The digits of an exponent after its sign. -/
def exponentDigits? (front : List Char) (cs : List Char) : Option (List Char × List Char) :=
  match digits cs with
  | ([], _) => none
  | (ds, rest) => some (front ++ ds, rest)

/-- An exponent, if there is one. -/
def exponent? : List Char → Option (List Char × List Char)
  | e :: '+' :: rest =>
    if e = 'e' ∨ e = 'E' then exponentDigits? [e, '+'] rest else some ([], e :: '+' :: rest)
  | e :: '-' :: rest =>
    if e = 'e' ∨ e = 'E' then exponentDigits? [e, '-'] rest else some ([], e :: '-' :: rest)
  | e :: rest => if e = 'e' ∨ e = 'E' then exponentDigits? [e] rest else some ([], e :: rest)
  | [] => some ([], [])

/-- A number after its sign. A negative zero is no integer. -/
def number? (negative : Bool) (cs : List Char) : Option (Json × List Char) := do
  let (whole, rest) := digits cs
  if whole = [] ∨ (whole.head? = some '0' ∧ whole ≠ ['0']) then none
  let (frac, rest) ← fraction? rest
  let (exp, rest) ← exponent? rest
  let sign := if negative then ['-'] else []
  let n := Text.decimal whole
  if frac = [] ∧ exp = [] ∧ ¬ (negative ∧ n = 0) then
    return (int (if negative then -n else n), rest)
  return (real (String.ofList (sign ++ whole ++ frac ++ exp)), rest)

/-! ## Values -/

mutual

def value? : Nat → List Char → Option (Json × List Char)
  | 0, _ => none
  | fuel + 1, cs =>
    match skipBlanks cs with
    | 'n' :: 'u' :: 'l' :: 'l' :: rest => some (null, rest)
    | 't' :: 'r' :: 'u' :: 'e' :: rest => some (bool true, rest)
    | 'f' :: 'a' :: 'l' :: 's' :: 'e' :: rest => some (bool false, rest)
    | '"' :: rest => (string? rest).map fun (s, rest) => (str s, rest)
    | '[' :: rest =>
      match skipBlanks rest with
      | ']' :: rest => some (arr [], rest)
      | rest => (items? fuel rest).map fun (items, rest) => (arr items, rest)
    | '\x7b' :: rest =>
      match skipBlanks rest with
      | '\x7d' :: rest => some (obj [], rest)
      | rest => (fields? fuel rest).map fun (fields, rest) => (ofFields fields, rest)
    | '-' :: rest => number? true rest
    | rest => number? false rest

/-- Items up to the closing bracket. -/
def items? : Nat → List Char → Option (List Json × List Char)
  | 0, _ => none
  | fuel + 1, cs => do
    let (item, rest) ← value? fuel cs
    match skipBlanks rest with
    | ',' :: rest =>
      let (items, rest) ← items? fuel rest
      return (item :: items, rest)
    | ']' :: rest => return ([item], rest)
    | _ => none

/-- Fields up to the closing brace. -/
def fields? : Nat → List Char → Option (List (String × Json) × List Char)
  | 0, _ => none
  | fuel + 1, cs => do
    match skipBlanks cs with
    | '"' :: rest =>
      let (name, rest) ← string? rest
      match skipBlanks rest with
      | ':' :: rest =>
        let (value, rest) ← value? fuel rest
        match skipBlanks rest with
        | ',' :: rest =>
          let (fields, rest) ← fields? fuel rest
          return ((name, value) :: fields, rest)
        | '\x7d' :: rest => return ([(name, value)], rest)
        | _ => none
      | _ => none
    | _ => none

end

def parse? (text : String) : Option Json := do
  let cs := text.toList
  let (value, rest) ← value? (2 * cs.length + 2) cs
  if skipBlanks rest = [] then return value else none

end Breaker.Json
