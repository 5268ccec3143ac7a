import BuildFleet.Decimal.Binary64

/-!
# The fewest digits that read back

Every binary64 value is the nearest one to all numbers of an interval around it. `shortest`
gives the number of that interval with the fewest significant digits, and of several with
that many the nearest to the value. It walks the decimal grids of one, two, … significant
digits: if any point of a grid lies in the interval, then so does one of the two grid points
on either side of the value, so testing those two suffices. A value halfway between two points
that both read back has two shortest numbers; a `Tie` says which of them is written.
-/

namespace BuildFleet

/-- A positive decimal number `digits * 10 ^ exponent`; the digits end in no zero. -/
structure Decimal where
  /-- The significant digits as one number. -/
  digits : Nat
  /-- The power of ten they are scaled by. -/
  exponent : Int
  deriving DecidableEq

namespace Decimal

/-- Which of two grid points is taken for a value halfway between them. -/
inductive Tie where
  /-- The one whose last digit is even. -/
  | toEven
  /-- The one farther from zero. -/
  | awayFromZero
  deriving DecidableEq

/-- Whether a tie between the grid points `below` and `below + 1` goes to the lower one. -/
def Tie.goesBelow (tie : Tie) (below : Nat) : Bool :=
  match tie with
  | .toEven => below % 2 = 0
  | .awayFromZero => false

/-- How many decimal digits the number has; zero has one. -/
def digitCount (n : Nat) : Nat := (Nat.toDigits 10 n).length

/-- Moves trailing zeros of the digits into the exponent. -/
def trim (fuel : Nat) (d : Decimal) : Decimal :=
  match fuel with
  | 0 => d
  | fuel + 1 =>
    if d.digits ≠ 0 ∧ d.digits % 10 = 0 then trim fuel ⟨d.digits / 10, d.exponent + 1⟩ else d

/-- The exponent of the greatest power of ten that is at most `num / den`, both positive. -/
def floorLog10 (num den : Nat) : Int :=
  if den ≤ num then (digitCount (num / den) : Int) - 1
  else -(digitCount ((den + num - 1) / num - 1) : Int)

/-- An interval of positive rationals around `num / den`, all three over one denominator. -/
structure Interval where
  /-- Numerator of the lower end. -/
  lower : Nat
  /-- Numerator of the value. -/
  value : Nat
  /-- Numerator of the upper end. -/
  upper : Nat
  /-- The common denominator. -/
  den : Nat
  /-- Whether the ends belong to the interval. -/
  closed : Bool

/-- The numbers whose nearest binary64 value is the given one. Below a power of two the
neighbours lie half as far apart, and a tie is rounded to the even mantissa, so the ends
belong to it if its mantissa is even. -/
def Interval.around (x : Binary64) : Interval :=
  let (a, b) := Binary64.scaled x.mantissa x.exponent
  let (u, _) := Binary64.scaled 1 x.exponent
  let narrow := x.mantissa = Binary64.leastNormal ∧ Binary64.minExponent < x.exponent
  ⟨4 * a - (if narrow then u else 2 * u), 4 * a, 4 * a + 2 * u, 4 * b, x.mantissa % 2 = 0⟩

/-- Whether `n * unitNum / unitDen` lies in the interval. -/
def Interval.holds (i : Interval) (n unitNum unitDen : Nat) : Bool :=
  let v := n * unitNum * i.den
  if i.closed then i.lower * unitDen ≤ v ∧ v ≤ i.upper * unitDen
  else i.lower * unitDen < v ∧ v < i.upper * unitDen

/-- The point of the grid of multiples of `10 ^ e` that lies in the interval and is nearest
to the value. -/
def Interval.pick (tie : Tie) (i : Interval) (e : Int) : Option Decimal :=
  let (un, ud) := if 0 ≤ e then (Nat.pow 10 e.toNat, 1) else (1, Nat.pow 10 (-e).toNat)
  let below := (i.value * ud) / (i.den * un)
  let above := below + 1
  let hasBelow := below ≠ 0 ∧ i.holds below un ud
  let hasAbove := i.holds above un ud
  let toBelow := i.value * ud - below * un * i.den
  let toAbove := above * un * i.den - i.value * ud
  if hasBelow ∧ (¬ hasAbove ∨ toBelow < toAbove ∨ (toBelow = toAbove ∧ tie.goesBelow below)) then
    some ⟨below, e⟩
  else if hasAbove then some ⟨above, e⟩
  else none

/-- Tries the grids of `n`, `n + 1`, … significant digits below the power of ten `p`. -/
def Interval.search (tie : Tie) (i : Interval) (p : Int) (n : Nat) : Nat → Decimal
  | 0 => ⟨0, 0⟩
  | fuel + 1 =>
    match i.pick tie (p - n + 1) with
    | some d => d
    | none => i.search tie p (n + 1) fuel

/-- The shortest decimal number that reads back as the magnitude of the value, which is not
zero; of two that are equally near, the one the tie names. Seventeen digits always suffice. -/
def shortest (tie : Tie) (x : Binary64) : Decimal :=
  let i := Interval.around x
  trim 400 (i.search tie (floorLog10 i.value i.den) 1 20)

/-- The digits as text. -/
def digitText (d : Decimal) : String := String.ofList (Nat.toDigits 10 d.digits)

/-- Written without an exponent: zeros fill up to the units place, and a point is written
only before a fraction. -/
def positional (d : Decimal) : String :=
  let ds := Nat.toDigits 10 d.digits
  if 0 ≤ d.exponent then String.ofList (ds ++ List.replicate d.exponent.toNat '0')
  else
    let places := (-d.exponent).toNat
    if places < ds.length then
      String.ofList (ds.take (ds.length - places)) ++ "."
        ++ String.ofList (ds.drop (ds.length - places))
    else "0." ++ String.ofList (List.replicate (places - ds.length) '0' ++ ds)

end Decimal

/-- Written in full, without an exponent and without a fraction of zeros: a tie goes away from
zero, and a negative zero keeps its sign. -/
def Binary64.positional (x : Binary64) : String :=
  (if x.negative then "-" else "") ++
    (if x.mantissa = 0 then "0" else (Decimal.shortest .awayFromZero x).positional)

end BuildFleet
