/-!
# IP addresses as texts

Version 4 addresses are four decimal numbers, without leading zeros, between points. Version
6 addresses are eight groups of up to four hexadecimal digits between colons; one run of
zero groups may be left out between two colons, and the last two groups may be spelled as a
version 4 address. Addresses are written in one form each: version 6 in lower case, without
leading zeros, and with the first of the longest runs of zero groups left out, if it has
more than one.
-/

namespace BuildFleet

/-- An address of the Internet Protocol. -/
inductive Address where
  /-- Version 4, as four bytes. -/
  | v4 (a b c d : Nat)
  /-- Version 6, as eight groups of 16 bits. -/
  | v6 (groups : List Nat)
  deriving DecidableEq, Repr

namespace Address

/-- The value of a digit in a base of at most sixteen. -/
def digit? (base : Nat) (c : Char) : Option Nat :=
  let v? : Option Nat :=
    if '0' ≤ c ∧ c ≤ '9' then some (c.toNat - '0'.toNat)
    else if 'a' ≤ c ∧ c ≤ 'f' then some (c.toNat - 'a'.toNat + 10)
    else if 'A' ≤ c ∧ c ≤ 'F' then some (c.toNat - 'A'.toNat + 10)
    else none
  v?.bind fun v => if v < base then some v else none

/-- All the digits at the front, of which there may be at most so many. -/
def number? (base most : Nat) (cs : List Char) : Option (Nat × List Char) :=
  let run := cs.takeWhile fun c => (digit? base c).isSome
  if run.isEmpty ∨ most < run.length then none
  else some (run.foldl (fun n c => n * base + (digit? base c).getD 0) 0, cs.drop run.length)

/-- One byte in decimal digits. -/
def byte? (cs : List Char) : Option (Nat × List Char) := do
  let (n, rest) ← number? 10 3 cs
  if 255 < n ∨ (cs.head? = some '0' ∧ rest.length + 1 < cs.length) then none else return (n, rest)

/-- The byte after a point. -/
def nextByte? : List Char → Option (Nat × List Char)
  | '.' :: rest => byte? rest
  | _ => none

/-- The four bytes of a version 4 address. -/
def bytes? (cs : List Char) : Option ((Nat × Nat × Nat × Nat) × List Char) := do
  let (a, cs) ← byte? cs
  let (b, cs) ← nextByte? cs
  let (c, cs) ← nextByte? cs
  let (d, cs) ← nextByte? cs
  return ((a, b, c, d), cs)

/-- The text after a colon, which the first group does not have. -/
def afterColon? (first : Bool) (cs : List Char) : Option (List Char) :=
  if first then some cs
  else match cs with
    | ':' :: rest => some rest
    | _ => none

/-- Two groups that are spelled as a version 4 address. -/
def embedded? (first : Bool) (cs : List Char) : Option ((Nat × Nat) × List Char) := do
  let ((a, b, c, d), rest) ← bytes? (← afterColon? first cs)
  return ((a * 256 + b, c * 256 + d), rest)

/-- One group in hexadecimal digits. -/
def group? (first : Bool) (cs : List Char) : Option (Nat × List Char) := do
  number? 16 4 (← afterColon? first cs)

/-- As many groups as there are, up to a limit; whether they end in a version 4 address; and
the rest. -/
def groups : Nat → Bool → List Char → List Nat × Bool × List Char
  | 0, _, cs => ([], false, cs)
  | room + 1, first, cs =>
    match if room = 0 then none else embedded? first cs with
    | some ((a, b), rest) => ([a, b], true, rest)
    | none =>
      match group? first cs with
      | none => ([], false, cs)
      | some (g, rest) =>
        let (gs, ended, rest) := groups room false rest
        (g :: gs, ended, rest)

/-- The eight groups of a version 6 address. Two colons stand for at least one group. -/
def sixteens? (cs : List Char) : Option (List Nat × List Char) :=
  let (front, ended, rest) := groups 8 true cs
  if front.length = 8 then some (front, rest)
  else if ended then none
  else match rest with
    | ':' :: ':' :: rest =>
      let (back, _, rest) := groups (7 - front.length) true rest
      some (front ++ List.replicate (8 - front.length - back.length) 0 ++ back, rest)
    | _ => none

/-- Reads an address, which has to be the whole text. -/
def ofText? (s : String) : Option Address :=
  match bytes? s.toList with
  | some ((a, b, c, d), []) => some (.v4 a b c d)
  | some _ => none
  | none =>
    match sixteens? s.toList with
    | some (gs, []) => some (.v6 gs)
    | _ => none

/-- A version 4 address as a text. -/
def bytesText (a b c d : Nat) : String :=
  toString a ++ "." ++ toString b ++ "." ++ toString c ++ "." ++ toString d

/-- A group as a text. -/
def groupText (g : Nat) : String := String.ofList (Nat.toDigits 16 g)

/-- Groups as a text. -/
def groupsText (gs : List Nat) : String := ":".intercalate (gs.map groupText)

/-- How many zero groups come first. -/
def zeroRun (gs : List Nat) : Nat := (gs.takeWhile (· == 0)).length

/-- Start and length of the first of the longest runs of zero groups. -/
def longestZeroRun : Nat → List Nat → Nat × Nat
  | _, [] => (0, 0)
  | start, g :: rest =>
    let here := zeroRun (g :: rest)
    let later := longestZeroRun (start + 1) rest
    if later.2 ≤ here then (start, here) else later

/-- A version 6 address as a text. One that stands for a version 4 address ends in that. -/
def sixteensText (gs : List Nat) : String :=
  match gs with
  | [0, 0, 0, 0, 0, 0xffff, a, b] =>
    "::ffff:" ++ bytesText (a / 256) (a % 256) (b / 256) (b % 256)
  | gs =>
    let (start, length) := longestZeroRun 0 gs
    if length ≤ 1 then groupsText gs
    else groupsText (gs.take start) ++ "::" ++ groupsText (gs.drop (start + length))

/-- Writes an address. -/
def text : Address → String
  | v4 a b c d => bytesText a b c d
  | v6 gs => sixteensText gs

/-- The address in front of a port, where version 6 has brackets. -/
def authorityText : Address → String
  | v4 a b c d => bytesText a b c d
  | v6 gs => "[" ++ sixteensText gs ++ "]"

end Address

/-- Where a daemon serves. A host that is an address is written in its one form, if the port
is one; any other host is written as it is. -/
def endpointText (host : String) (port : Int) : String :=
  let authority := match Address.ofText? host with
    | some a => if 0 ≤ port ∧ port ≤ 65535 then a.authorityText else host
    | none => host
  "tcp://" ++ authority ++ ":" ++ toString port

end BuildFleet
