import BuildFleet.Json.Basic
import BuildFleet.Decimal.Shortest

/-!
# Writing JSON texts

Values are written on one line without blanks. Quotes, backslashes and control characters of
strings are escaped; a binary64 value is written with the fewest digits that read back, of two
such numbers equally near the even one, and always shows that it is not an integer.
-/

namespace BuildFleet.Json

/-- A hexadecimal digit. -/
def hexDigit (n : Nat) : Char := (Nat.toDigits 16 n).headD '0'

/-- A character inside a string. -/
def escapeChar (c : Char) : List Char :=
  if c == '"' then ['\\', '"']
  else if c == '\\' then ['\\', '\\']
  else if c == '\n' then ['\\', 'n']
  else if c == '\r' then ['\\', 'r']
  else if c == '\t' then ['\\', 't']
  else if c.toNat < 0x20 then
    ['\\', 'u', '0', '0', hexDigit (c.toNat / 16), hexDigit (c.toNat % 16)]
  else [c]

/-- A string with its quotes. -/
def quote (s : String) : String := String.ofList ('"' :: s.toList.flatMap escapeChar ++ ['"'])

/-- A binary64 value: positional up to sixteen digits before the point and five zeros after
it, with an exponent beyond. -/
def floatText (x : Binary64) : String :=
  let sign := if x.negative then "-" else ""
  if x.mantissa = 0 then sign ++ "0.0"
  else
    let d := Decimal.shortest .toEven x
    let ds := Nat.toDigits 10 d.digits
    let point : Int := ds.length + d.exponent
    if 0 ≤ d.exponent ∧ point ≤ 16 then sign ++ d.positional ++ ".0"
    else if -5 < point ∧ point ≤ 16 then sign ++ d.positional
    else
      let mantissa := match ds with
        | [c] => String.ofList [c]
        | c :: rest => String.ofList (c :: '.' :: rest)
        | [] => "0"
      sign ++ mantissa ++ "e" ++ toString (point - 1)

mutual

/-- The text of a value. -/
def render : Json → String
  | null => "null"
  | bool true => "true"
  | bool false => "false"
  | int n => toString n
  | float x => floatText x
  | str s => quote s
  | arr items => "[" ++ ",".intercalate (renderItems items) ++ "]"
  | obj fields => "\x7b" ++ ",".intercalate (renderFields fields) ++ "\x7d"

/-- The texts of the items of a list. -/
def renderItems : List Json → List String
  | [] => []
  | v :: rest => v.render :: renderItems rest

/-- The texts of the members of an object. -/
def renderFields : List (String × Json) → List String
  | [] => []
  | (k, v) :: rest => (quote k ++ ":" ++ v.render) :: renderFields rest

end

end BuildFleet.Json
