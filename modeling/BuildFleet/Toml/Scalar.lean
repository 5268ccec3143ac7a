import BuildFleet.Decimal.Shortest
import BuildFleet.Toml.Text

/-!
# Numbers, dates and times of TOML

Readers for the values of TOML that are neither strings nor collections. Only whether a
value is right matters here, so each gives back the text after it. Integers have to fit 64
signed bits, a float must not round to positive infinity, and dates have to be in the
calendar.
-/

namespace BuildFleet.Toml

/-- Digits with single underscores between them; at least one digit, and none after an
underscore is an error. -/
def underscored? (isDigit : Char → Bool) : List Char → Option (List Char × List Char)
  | [] => none
  | c :: rest => if isDigit c then go [c] rest else none
where
  /-- The digits after the first, collected in reverse. -/
  go (acc : List Char) : List Char → Option (List Char × List Char)
    | [] => some (acc.reverse, [])
    | '_' :: c :: rest => if isDigit c then go (c :: acc) rest else none
    | c :: rest =>
      if isDigit c then go (c :: acc) rest
      else if c = '_' then none
      else some (acc.reverse, c :: rest)

/-- The number that digits of a base spell. -/
def numeral (base : Nat) (ds : List Char) : Nat :=
  ds.foldl (fun n c => n * base + (hexDigit? c).getD 0) 0

/-- An optional sign. -/
def sign : List Char → Bool × List Char
  | '-' :: rest => (true, rest)
  | '+' :: rest => (false, rest)
  | cs => (false, cs)

/-- Decimal digits without leading zeros. -/
def decimalDigits? : List Char → Option (List Char × List Char)
  | '0' :: rest => some (['0'], rest)
  | cs => underscored? Char.isDigit cs

/-- An integer in another base, after its two letters. -/
def basedInteger? (base : Nat) (isDigit : Char → Bool) (cs : List Char) : Option (List Char) := do
  let (ds, rest) ← underscored? isDigit cs
  if numeral base ds ≤ 0x7fffffffffffffff then return rest else none

/-- An integer. -/
def integer? (cs : List Char) : Option (List Char) :=
  match cs with
  | '0' :: 'x' :: rest => basedInteger? 16 (fun c => (hexDigit? c).isSome) rest
  | '0' :: 'o' :: rest => basedInteger? 8 (fun c => '0' ≤ c && c ≤ '7') rest
  | '0' :: 'b' :: rest => basedInteger? 2 (fun c => c == '0' || c == '1') rest
  | _ => do
    let (negative, rest) := sign cs
    let (ds, rest) ← decimalDigits? rest
    let n := numeral 10 ds
    if n ≤ 0x7fffffffffffffff ∨ (negative ∧ n = 0x8000000000000000) then return rest else none

/-- The exponent of a float, if there is one. -/
def floatExponent? (cs : List Char) : Option (Option Int × List Char) :=
  match cs with
  | c :: rest =>
    if c = 'e' ∨ c = 'E' then do
      let (negative, rest) := sign rest
      let (ds, rest) ← underscored? Char.isDigit rest
      let n : Int := numeral 10 ds
      return (some (if negative then -n else n), rest)
    else some (none, cs)
  | [] => some (none, [])

/-- Whether `digits * 10 ^ e` is beyond the greatest binary64 value. -/
def overflows (digits : Nat) (e : Int) : Bool :=
  let size := (Decimal.digitCount digits : Int) + e
  if digits = 0 ∨ size < 0 then false
  else if 310 < size then true
  else
    (if 0 ≤ e then Binary64.nearest? (digits * Nat.pow 10 e.toNat) 1
      else Binary64.nearest? digits (Nat.pow 10 (-e).toNat)).isNone

/-- A float: digits with a fraction, an exponent or both. -/
def float? (cs : List Char) : Option (List Char) := do
  let (negative, rest) := sign cs
  let (whole, rest) ← decimalDigits? rest
  let (fraction, rest) ← match rest with
    | '.' :: rest => underscored? Char.isDigit rest
    | rest => some ([], rest)
  let (exponent, rest) ← floatExponent? rest
  if fraction.isEmpty ∧ exponent.isNone then none
  let e : Int := exponent.getD 0 - fraction.length
  if ¬ negative ∧ overflows (numeral 10 (whole ++ fraction)) e then none else return rest

/-- Infinity or not-a-number, with an optional sign. -/
def specialFloat? (cs : List Char) : Option (List Char) :=
  match (sign cs).2 with
  | 'i' :: 'n' :: 'f' :: rest => some rest
  | 'n' :: 'a' :: 'n' :: rest => some rest
  | _ => none

/-- A number of so many digits. -/
def exactly? (width : Nat) (cs : List Char) : Option (Nat × List Char) :=
  let ds := cs.take width
  if ds.length = width ∧ ds.all Char.isDigit then some (numeral 10 ds, cs.drop width) else none

/-- How many days a month has. -/
def monthLength (year month : Nat) : Nat :=
  if month = 2 then
    if year % 4 = 0 ∧ (year % 100 ≠ 0 ∨ year % 400 = 0) then 29 else 28
  else if month = 4 ∨ month = 6 ∨ month = 9 ∨ month = 11 then 30
  else 31

/-- A date. -/
def date? (cs : List Char) : Option (List Char) := do
  let (year, rest) ← exactly? 4 cs
  match rest with
  | '-' :: rest =>
    let (month, rest) ← exactly? 2 rest
    match rest with
    | '-' :: rest =>
      let (day, rest) ← exactly? 2 rest
      if 1 ≤ month ∧ month ≤ 12 ∧ 1 ≤ day ∧ day ≤ monthLength year month then return rest else none
    | _ => none
  | _ => none

/-- Whether a time starts here: an hour and a colon. -/
def startsTime (cs : List Char) : Bool :=
  match exactly? 2 cs with
  | some (hour, ':' :: _) => hour < 24
  | _ => false

/-- Hours, minutes and seconds, of which there may be sixty. -/
def clock? (cs : List Char) : Option (List Char) := do
  let (hour, rest) ← exactly? 2 cs
  match rest with
  | ':' :: rest =>
    let (minute, rest) ← exactly? 2 rest
    match rest with
    | ':' :: rest =>
      let (second, rest) ← exactly? 2 rest
      if hour < 24 ∧ minute < 60 ∧ second ≤ 60 then return rest else none
    | _ => none
  | _ => none

/-- A time of day, with seconds and perhaps a fraction. -/
def time? (cs : List Char) : Option (List Char) := do
  match ← clock? cs with
  | '.' :: c :: rest =>
    return if c.isDigit then rest.dropWhile Char.isDigit else '.' :: c :: rest
  | rest => return rest

/-- The text after an offset from Coordinated Universal Time, if one starts here. -/
def skipOffset? (cs : List Char) : Option (List Char) :=
  match cs with
  | 'Z' :: rest => some rest
  | 'z' :: rest => some rest
  | c :: rest =>
    if c = '+' ∨ c = '-' then do
      let (hour, rest) ← exactly? 2 rest
      match rest with
      | ':' :: rest =>
        let (minute, rest) ← exactly? 2 rest
        if hour < 24 ∧ minute < 60 then return rest else none
      | _ => none
    else some cs
  | [] => some []

/-- A date, a time or both. -/
def dateTime? (cs : List Char) : Option (List Char) :=
  match date? cs with
  | some rest =>
    match rest with
    | c :: after =>
      if (c = 'T' ∨ c = 't' ∨ c = ' ') ∧ startsTime after then (time? after).bind skipOffset?
      else some rest
    | [] => some []
  | none => time? cs

/-- A value that is neither a string nor a collection. -/
def scalar? (cs : List Char) : Option (List Char) :=
  match cs with
  | 't' :: 'r' :: 'u' :: 'e' :: rest => some rest
  | 'f' :: 'a' :: 'l' :: 's' :: 'e' :: rest => some rest
  | _ => (dateTime? cs).or ((float? cs).or ((integer? cs).or (specialFloat? cs)))

end BuildFleet.Toml
