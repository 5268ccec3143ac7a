import BuildFleet.Json.Number

/-!
# Reading JSON texts

A reader of JSON texts by recursive descent over the characters. Each reader takes the
characters that are left and gives back a value and the rest, or nothing if the text breaks
the grammar. The number of characters bounds the depth of the descent.
-/

namespace BuildFleet.Json.Parser

/-- Blanks between tokens. -/
def isBlank (c : Char) : Bool := c == ' ' || c == '\n' || c == '\t' || c == '\r'

/-- The text after leading blanks. -/
def skip (cs : List Char) : List Char := cs.dropWhile isBlank

/-- The value of a hexadecimal digit. -/
def hexDigit? (c : Char) : Option Nat :=
  if '0' ≤ c ∧ c ≤ '9' then some (c.toNat - '0'.toNat)
  else if 'a' ≤ c ∧ c ≤ 'f' then some (c.toNat - 'a'.toNat + 10)
  else if 'A' ≤ c ∧ c ≤ 'F' then some (c.toNat - 'A'.toNat + 10)
  else none

/-- Four hexadecimal digits. -/
def hex4? : List Char → Option (Nat × List Char)
  | a :: b :: c :: d :: rest => do
    let a ← hexDigit? a
    let b ← hexDigit? b
    let c ← hexDigit? c
    let d ← hexDigit? d
    return (((a * 16 + b) * 16 + c) * 16 + d, rest)
  | _ => none

/-- The character after a backslash and `u`; one beyond 16 bits is written as two halves. -/
def unicode? (cs : List Char) : Option (Char × List Char) := do
  let (n, rest) ← hex4? cs
  if 0xD800 ≤ n ∧ n < 0xDC00 then
    match rest with
    | '\\' :: 'u' :: rest =>
      let (m, rest) ← hex4? rest
      if 0xDC00 ≤ m ∧ m < 0xE000 then
        return (Char.ofNat (0x10000 + (n - 0xD800) * 0x400 + (m - 0xDC00)), rest)
      else none
    | _ => none
  else if 0xDC00 ≤ n ∧ n < 0xE000 then none
  else return (Char.ofNat n, rest)

/-- The characters of a string up to its closing quote, collected in reverse. -/
def chars (acc : List Char) : Nat → List Char → Option (String × List Char)
  | 0, _ => none
  | _ + 1, [] => none
  | _ + 1, '"' :: rest => some (String.ofList acc.reverse, rest)
  | fuel + 1, '\\' :: c :: rest =>
    match c with
    | '"' => chars ('"' :: acc) fuel rest
    | '\\' => chars ('\\' :: acc) fuel rest
    | '/' => chars ('/' :: acc) fuel rest
    | 'b' => chars ('\x08' :: acc) fuel rest
    | 'f' => chars ('\x0c' :: acc) fuel rest
    | 'n' => chars ('\n' :: acc) fuel rest
    | 'r' => chars ('\r' :: acc) fuel rest
    | 't' => chars ('\t' :: acc) fuel rest
    | 'u' => (unicode? rest).bind fun (c, rest) => chars (c :: acc) fuel rest
    | _ => none
  | fuel + 1, c :: rest => if c.toNat < 0x20 then none else chars (c :: acc) fuel rest

/-- The string after its opening quote. -/
def string? (cs : List Char) : Option (String × List Char) := chars [] (cs.length + 1) cs

/-- The decimal digits at the front. -/
def digits (cs : List Char) : List Nat × List Char :=
  ((cs.takeWhile Char.isDigit).map fun c => c.toNat - '0'.toNat, cs.dropWhile Char.isDigit)

/-- The digits after the point of a number, if there is one. -/
def fraction? : List Char → Option (Option (List Nat) × List Char)
  | '.' :: rest =>
    let (ds, rest) := digits rest
    if ds.isEmpty then none else some (some ds, rest)
  | cs => some (none, cs)

/-- The exponent of a number, if there is one. -/
def exponent? : List Char → Option (Option (Bool × List Nat) × List Char)
  | c :: rest =>
    if c == 'e' || c == 'E' then
      let (negative, rest) := match rest with
        | '+' :: rest => (false, rest)
        | '-' :: rest => (true, rest)
        | rest => (false, rest)
      let (ds, rest) := digits rest
      if ds.isEmpty then none else some (some (negative, ds), rest)
    else some (none, c :: rest)
  | [] => some (none, [])

/-- A number; only a zero may start with a zero. -/
def number? (cs : List Char) : Option (Json × List Char) := do
  let (negative, cs) := match cs with
    | '-' :: rest => (true, rest)
    | cs => (false, cs)
  let (whole, cs) := digits cs
  if whole.isEmpty ∨ (whole.head? = some 0 ∧ 1 < whole.length) then none
  let (fraction, cs) ← fraction? cs
  let (exponent, cs) ← exponent? cs
  let v ← Number.value? ⟨negative, whole, fraction, exponent⟩
  return (v, cs)

mutual

/-- A value, after leading blanks. -/
def value? : Nat → List Char → Option (Json × List Char)
  | 0, _ => none
  | fuel + 1, cs =>
    match skip cs with
    | 'n' :: 'u' :: 'l' :: 'l' :: rest => some (.null, rest)
    | 't' :: 'r' :: 'u' :: 'e' :: rest => some (.bool true, rest)
    | 'f' :: 'a' :: 'l' :: 's' :: 'e' :: rest => some (.bool false, rest)
    | '"' :: rest => (string? rest).map fun (s, rest) => (.str s, rest)
    | '[' :: rest =>
      match skip rest with
      | ']' :: rest => some (.arr [], rest)
      | rest => (items? fuel rest).map fun (items, rest) => (.arr items, rest)
    | '\x7b' :: rest =>
      match skip rest with
      | '\x7d' :: rest => some (.obj [], rest)
      | rest => (members? fuel rest).map fun (fields, rest) => (.obj fields, rest)
    | cs => number? cs

/-- The items of a list up to its closing bracket. -/
def items? : Nat → List Char → Option (List Json × List Char)
  | 0, _ => none
  | fuel + 1, cs => do
    let (v, rest) ← value? fuel cs
    match skip rest with
    | ',' :: rest => (items? fuel rest).map fun (items, rest) => (v :: items, rest)
    | ']' :: rest => some ([v], rest)
    | _ => none

/-- The members of an object up to its closing brace. -/
def members? : Nat → List Char → Option (List (String × Json) × List Char)
  | 0, _ => none
  | fuel + 1, cs =>
    match skip cs with
    | '"' :: rest => do
      let (k, rest) ← string? rest
      match skip rest with
      | ':' :: rest => do
        let (v, rest) ← value? fuel rest
        match skip rest with
        | ',' :: rest => (members? fuel rest).map fun (fields, rest) => ((k, v) :: fields, rest)
        | '\x7d' :: rest => some ([(k, v)], rest)
        | _ => none
      | _ => none
    | _ => none

end

end Parser

/-- Reads a text that holds one JSON value and blanks around it, into canonical form. -/
def parse? (s : String) : Option Json :=
  let cs := s.toList
  match Parser.value? (2 * cs.length + 2) cs with
  | some (v, rest) => if (Parser.skip rest).isEmpty then some v.canonical else none
  | none => none

end BuildFleet.Json
