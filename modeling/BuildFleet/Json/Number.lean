import BuildFleet.Json.Basic

/-!
# Numbers in JSON texts

A number is an integer if it is written without fraction and exponent and fits 64 bits,
signed if it is negative and unsigned if not; every other number is a binary64 value, `-0`
included. A binary64 value is read from at most as many digits as fit 64 unsigned bits,
times a power of ten: the digits are rounded to a binary64 value, and then multiplied or
divided by the rounded power of ten. Two roundings may differ from the nearest value in the
last bit; readers of the number agree on this rule.
-/

namespace BuildFleet.Json.Number

/-- A number as it is written. -/
structure Spelling where
  /-- Whether a minus sign comes first. -/
  negative : Bool
  /-- The digits before the point. -/
  whole : List Nat
  /-- The digits after the point, if there is one. -/
  fraction : Option (List Nat)
  /-- Sign and digits of the exponent, if there is one. -/
  exponent : Option (Bool × List Nat)

/-- The greatest integer of 64 unsigned bits. -/
def maxDigits : Nat := 0xffffffffffffffff

/-- Digits taken into one number for as long as it fits 64 bits, and how many were taken and
left out. -/
structure Taken where
  /-- The number made of the digits taken. -/
  value : Nat
  /-- How many digits were taken. -/
  count : Nat
  /-- How many digits were left out. -/
  dropped : Nat

/-- Appends the digits to a number until one does not fit any more. -/
def take (value count : Nat) : List Nat → Taken
  | [] => ⟨value, count, 0⟩
  | d :: rest =>
    if value * 10 + d ≤ maxDigits then take (value * 10 + d) (count + 1) rest
    else ⟨value, count, rest.length + 1⟩

/-- The greatest integer of 32 signed bits, beyond which an exponent is not read. -/
def maxExponent : Nat := 0x7fffffff

/-- The number that the digits of an exponent spell; none if it is beyond 32 bits. -/
def exponentOf (digits : List Nat) : Option Nat :=
  digits.foldl (fun acc d => acc.bind fun n =>
    if n * 10 + d ≤ maxExponent then some (n * 10 + d) else none) (some 0)

/-- Scales by a power of ten. A negative power beyond the table of 308 is taken in steps of
308 until the value is zero, which takes at most two steps, because digits of 64 bits are
below `10 ^ 20`. None if the result is too great. -/
def scale (x : Binary64) (e : Int) : Nat → Option Binary64
  | 0 => some x
  | steps + 1 =>
    if e.natAbs ≤ 308 then
      (Binary64.powTen? e.natAbs).bind fun p => if 0 ≤ e then x.mul? p else x.div? p
    else if x.mantissa = 0 then some x
    else if 0 ≤ e then none
    else (Binary64.powTen? 308).bind fun p => (x.div? p).bind fun y => scale y (e + 308) steps

/-- The binary64 value of digits and a power of ten. -/
def float? (negative : Bool) (digits : Nat) (e : Int) : Option Json :=
  (Binary64.ofNat? digits).bind fun x =>
    (scale x e 4).map fun y => .float (y.withSign negative)

/-- An integer without fraction and exponent. -/
def integer? (negative : Bool) (digits : Nat) : Option Json :=
  if ¬ negative then some (.int digits)
  else if digits ≠ 0 ∧ digits ≤ 0x8000000000000000 then some (.int (-(digits : Int)))
  else float? true digits 0

/-- The value of a number; none if it is too great for a binary64 value. -/
def value? (s : Spelling) : Option Json :=
  let whole := take 0 0 s.whole
  match s.fraction, s.exponent with
  | none, none =>
    if whole.dropped = 0 then integer? s.negative whole.value
    else float? s.negative whole.value whole.dropped
  | fraction, exponent =>
    let all := take whole.value 0 (fraction.getD [])
    let e : Int := (whole.dropped : Int) - all.count
    match exponent with
    | none => float? s.negative all.value e
    | some (negativeExponent, digits) =>
      match exponentOf digits with
      | some n => float? s.negative all.value (if negativeExponent then e - n else e + n)
      | none =>
        if all.value ≠ 0 ∧ ¬ negativeExponent then none
        else some (.float (Binary64.zero s.negative))

end BuildFleet.Json.Number
