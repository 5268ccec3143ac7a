import BuildFleet.Json.Basic
import BuildFleet.Text.Blank
import BuildFleet.Time.Instant

/-!
# Instants as texts

Instants are written as in RFC 3339, in Coordinated Universal Time with a `Z`, and with as
many groups of three fraction digits as they need. The reader takes any offset, and is
lenient about blanks between the parts, the case of the letters and the number of digits. The
date has to be in range both where the offset applies and in Coordinated Universal Time.
-/

namespace BuildFleet.Instant

/-- Reads from one to `most` decimal digits. -/
def digits? (most : Nat) (cs : List Char) : Option (Nat × List Char) :=
  let run := (cs.take most).takeWhile Char.isDigit
  if run.isEmpty then none
  else some (run.foldl (fun n c => n * 10 + (c.toNat - '0'.toNat)) 0, cs.drop run.length)

/-- A number of at most two digits, after blanks. -/
def pair? (cs : List Char) : Option (Nat × List Char) := digits? 2 (Text.skipBlanks cs)

/-- A year: four digits at most, or any number of them after a sign. -/
def year? (cs : List Char) : Option (Int × List Char) :=
  match Text.skipBlanks cs with
  | '-' :: rest => (digits? rest.length rest).map fun (n, rest) => (-(n : Int), rest)
  | '+' :: rest => (digits? rest.length rest).map fun (n, rest) => ((n : Int), rest)
  | rest => (digits? 4 rest).map fun (n, rest) => ((n : Int), rest)

/-- A given mark, after blanks. -/
def mark? (c : Char) (cs : List Char) : Option (List Char) :=
  match Text.skipBlanks cs with
  | c' :: rest => if c' = c then some rest else none
  | [] => none

/-- Billionths of a second: the first nine digits after a point, and the rest is dropped. -/
def fraction? : List Char → Option (Nat × List Char)
  | '.' :: rest =>
    (digits? 9 rest).map fun (n, after) =>
      (n * Nat.pow 10 (9 - (rest.length - after.length)), after.dropWhile Char.isDigit)
  | cs => some (0, cs)

/-- Two digits with nothing around them. -/
def exactPair? : List Char → Option (Nat × List Char)
  | a :: b :: rest =>
    if a.isDigit ∧ b.isDigit then
      some ((a.toNat - '0'.toNat) * 10 + (b.toNat - '0'.toNat), rest)
    else none
  | _ => none

/-- The offset from Coordinated Universal Time in minutes. -/
def offset? (cs : List Char) : Option (Int × List Char) :=
  match cs with
  | 'Z' :: rest => some (0, rest)
  | 'z' :: rest => some (0, rest)
  | a :: b :: c :: rest =>
    if a.toUpper = 'U' ∧ b.toUpper = 'T' ∧ c.toUpper = 'C' then some (0, rest) else signed? cs
  | _ => signed? cs
where
  /-- A sign, hours and minutes, with or without a colon between them. -/
  signed? (cs : List Char) : Option (Int × List Char) := do
    let (negative, cs) ← match cs with
      | '+' :: rest => some (false, rest)
      | '-' :: rest => some (true, rest)
      | '\u2212' :: rest => some (true, rest)
      | _ => none
    let (hours, cs) ← exactPair? cs
    let (minutes, cs) ← exactPair? (cs.dropWhile fun c => c == ':' || Text.isBlank c)
    if 60 ≤ minutes ∨ 24 ≤ hours then none
    else
      let m : Int := hours * 60 + minutes
      return (if negative then -m else m, cs)

/-- Reads an instant. -/
def ofText? (s : String) : Option Instant := do
  let (year, cs) ← year? s.toList
  let cs ← mark? '-' cs
  let (month, cs) ← pair? cs
  let cs ← mark? '-' cs
  let (day, cs) ← pair? cs
  let cs ← match cs with
    | 't' :: rest => some rest
    | 'T' :: rest => some rest
    | ' ' :: rest => some rest
    | _ => none
  let (hour, cs) ← pair? cs
  let cs ← mark? ':' cs
  let (minute, cs) ← pair? cs
  let cs ← mark? ':' cs
  let (second, cs) ← pair? cs
  let (nanos, cs) ← fraction? cs
  let (offset, cs) ← offset? (Text.skipBlanks cs)
  let date : Civil := ⟨year, month, day⟩
  if ¬ (Text.skipBlanks cs).isEmpty ∨ ¬ date.isValid ∨ ¬ date.inRange
      ∨ 24 ≤ hour ∨ 60 ≤ minute ∨ 61 ≤ second then none
  else
    let leap := second = 60
    let second := if leap then 59 else second
    let instant : Instant :=
      ⟨date.toDays * 86400 + hour * 3600 + minute * 60 + second - offset * 60,
        if leap then nanos + 1000000000 else nanos⟩
    if instant.date.inRange then return instant else none

/-- A number with zeros before it up to the width. -/
def padded (width n : Nat) : String :=
  let ds := Nat.toDigits 10 n
  String.ofList (List.replicate (width - ds.length) '0' ++ ds)

/-- A year; one outside four digits has a sign. -/
def yearText (year : Int) : String :=
  if 0 ≤ year ∧ year ≤ 9999 then padded 4 year.toNat
  else (if year < 0 then "-" else "+") ++ padded 4 year.natAbs

/-- The fraction of a second in no, three, six or nine digits. -/
def fractionText (nanos : Nat) : String :=
  if nanos = 0 then ""
  else if nanos % 1000000 = 0 then "." ++ padded 3 (nanos / 1000000)
  else if nanos % 1000 = 0 then "." ++ padded 6 (nanos / 1000)
  else "." ++ padded 9 nanos

/-- Writes an instant. -/
def toText (i : Instant) : String :=
  let date := i.date
  let ofDay := (Int.fmod i.seconds 86400).toNat
  let leap := 1000000000 ≤ i.nanos
  let second := ofDay % 60 + (if leap then 1 else 0)
  let nanos := if leap then i.nanos - 1000000000 else i.nanos
  yearText date.year ++ "-" ++ padded 2 date.month ++ "-" ++ padded 2 date.day ++ "T"
    ++ padded 2 (ofDay / 3600) ++ ":" ++ padded 2 (ofDay / 60 % 60) ++ ":" ++ padded 2 second
    ++ fractionText nanos ++ "Z"

/-- Reads an instant from a string. -/
def ofJson? (j : Json) : Option Instant := j.text?.bind ofText?

/-- Writes an instant as a string. -/
def toJson (i : Instant) : Json := .str i.toText

end BuildFleet.Instant
