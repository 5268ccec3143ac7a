import BuildFleet.Text.Blank

/-!
# How a quantity is spelled

A quantity is an optional sign, digits with at most one point and at least one digit, and a
suffix: a power of ten (`n`, `u`, `m`, none, `k`, `M`, `G`, `T`, `P`, `E`, or `e` or `E`
before an integer of 32 bits) or a power of two (`Ki`, `Mi`, `Gi`, `Ti`, `Pi`, `Ei`). This
file takes a text apart into these pieces and decides nothing about their value.
-/

namespace BuildFleet.Quantity

/-- What the digits are multiplied by. -/
inductive Suffix where
  /-- A power of ten. -/
  | decimal (exponent : Int)
  /-- A power of two. -/
  | binary (bits : Nat)
  deriving DecidableEq, Repr

/-- The pieces of a quantity. -/
structure Spelling where
  /-- Whether a minus sign comes first. -/
  negative : Bool
  /-- The digits before the point. -/
  whole : List Nat
  /-- The digits after the point. -/
  fraction : List Nat
  /-- What the digits are multiplied by. -/
  suffix : Suffix
  deriving DecidableEq, Repr

/-- The value of a decimal digit. -/
def digit? (c : Char) : Option Nat :=
  if c.isDigit then some (c.toNat - '0'.toNat) else none

/-- The values of a run of decimal digits; none if any character is something else. -/
def digits? (cs : List Char) : Option (List Nat) := cs.mapM digit?

/-- The number that decimal digits spell. -/
def numeral (ds : List Nat) : Nat := ds.foldl (fun n d => n * 10 + d) 0

/-- An integer of 32 signed bits, with an optional sign. -/
def exponent? (cs : List Char) : Option Int :=
  let (negative, ds) := match cs with
    | '-' :: rest => (true, rest)
    | '+' :: rest => (false, rest)
    | _ => (false, cs)
  if ds.isEmpty then none
  else (digits? ds).bind fun ds =>
    let n := numeral ds
    if negative then if n ≤ 0x80000000 then some (-(n : Int)) else none
    else if n ≤ 0x7fffffff then some n else none

/-- The multiplier that a suffix stands for. A lone `E` is the unit of that name; before an
integer it starts an exponent. -/
def suffix? (cs : List Char) : Option Suffix :=
  match cs with
  | [] => some (.decimal 0)
  | ['n'] => some (.decimal (-9))
  | ['u'] => some (.decimal (-6))
  | ['m'] => some (.decimal (-3))
  | ['k'] => some (.decimal 3)
  | ['M'] => some (.decimal 6)
  | ['G'] => some (.decimal 9)
  | ['T'] => some (.decimal 12)
  | ['P'] => some (.decimal 15)
  | ['E'] => some (.decimal 18)
  | ['K', 'i'] => some (.binary 10)
  | ['M', 'i'] => some (.binary 20)
  | ['G', 'i'] => some (.binary 30)
  | ['T', 'i'] => some (.binary 40)
  | ['P', 'i'] => some (.binary 50)
  | ['E', 'i'] => some (.binary 60)
  | 'e' :: rest => (exponent? rest).map .decimal
  | 'E' :: rest => (exponent? rest).map .decimal
  | _ => none

/-- Whether the character can stand in the digits of a quantity. -/
def isNumeric (c : Char) : Bool := c.isDigit || c == '.'

/-- Takes the sign off. -/
def sign (cs : List Char) : Bool × List Char :=
  match cs with
  | '-' :: rest => (true, rest)
  | '+' :: rest => (false, rest)
  | _ => (false, cs)

/-- The pieces of a text without blanks around it; none if it is not a quantity. The digits
end at the first character that is neither a digit nor a point, and they are parted at their
first point. -/
def spelling? (cs : List Char) : Option Spelling :=
  let (negative, rest) := sign cs
  let number := rest.takeWhile isNumeric
  let whole := number.takeWhile (· != '.')
  let fraction := (number.dropWhile (· != '.')).drop 1
  if whole.isEmpty ∧ fraction.isEmpty then none
  else do
    let whole ← digits? whole
    let fraction ← digits? fraction
    let suffix ← suffix? (rest.dropWhile isNumeric)
    return ⟨negative, whole, fraction, suffix⟩

end BuildFleet.Quantity
