/-!
# Finite binary64 values

A finite number of the format is a sign and `mantissa * 2 ^ exponent`. Everything here is
exact arithmetic on natural numbers: a quotient of two of them is rounded to the nearest
value of the format (`nearest?`), a tie going to the even mantissa, and products and
quotients are formed exactly before they are rounded.
-/

namespace BuildFleet

/-- A finite binary64 value: `mantissa * 2 ^ exponent`, negated if `negative` holds. The
mantissa is below `2 ^ 53` and the exponent is at least `-1074`; a mantissa below `2 ^ 52`
occurs with that exponent only. -/
structure Binary64 where
  /-- The sign, which zero has too. -/
  negative : Bool
  /-- The integer significand. -/
  mantissa : Nat
  /-- The power of two it is scaled by. -/
  exponent : Int
  deriving DecidableEq, Inhabited

namespace Binary64

/-- The least exponent of the format. -/
def minExponent : Int := -1074

/-- The least mantissa of 53 bits. -/
def leastNormal : Nat := 0x10000000000000

/-- The greatest exponent of the format. -/
def maxExponent : Int := 971

/-- Zero, with a sign. -/
def zero (negative : Bool) : Binary64 := ⟨negative, 0, minExponent⟩

/-- A natural number times a power of two, as a numerator and a denominator. -/
def scaled (n : Nat) (e : Int) : Nat × Nat :=
  if 0 ≤ e then (n * Nat.pow 2 e.toNat, 1) else (n, Nat.pow 2 (-e).toNat)

/-- The quotient rounded to the nearest integer, a tie going to the even one. -/
def roundHalfEven (num den : Nat) : Nat :=
  let q := num / den
  let r := num % den
  if 2 * r < den then q
  else if den < 2 * r then q + 1
  else if q % 2 = 0 then q else q + 1

/-- The exponent of the greatest power of two that is at most `num / den`. -/
def floorLog2 (num den : Nat) : Int :=
  let k : Int := (Nat.log2 num : Int) - (Nat.log2 den : Int)
  let fits := if 0 ≤ k then den * Nat.pow 2 k.toNat ≤ num else den ≤ num * Nat.pow 2 (-k).toNat
  if fits then k else k - 1

/-- The magnitude of the format nearest to `num / den`; none if it is beyond the greatest one. -/
def nearest? (num den : Nat) : Option (Nat × Int) :=
  if num = 0 then some (0, minExponent)
  else
    let e := max (floorLog2 num den - 52) minExponent
    let (a, b) := scaled 1 (-e)
    let m := roundHalfEven (num * a) (den * b)
    let (m, e) := if m = 2 * leastNormal then (leastNormal, e + 1) else (m, e)
    if maxExponent < e then none else some (m, e)

/-- The numerator and denominator of the magnitude. -/
def ratio (x : Binary64) : Nat × Nat := scaled x.mantissa x.exponent

/-- The nearest value to a natural number; none if it is too great. -/
def ofNat? (n : Nat) : Option Binary64 :=
  (nearest? n 1).map fun (m, e) => ⟨false, m, e⟩

/-- The nearest value to the power of ten. -/
def powTen? (k : Nat) : Option Binary64 := ofNat? (Nat.pow 10 k)

/-- The product, rounded once; none if it is too great. -/
def mul? (x y : Binary64) : Option Binary64 :=
  let (a, b) := x.ratio
  let (c, d) := y.ratio
  (nearest? (a * c) (b * d)).map fun (m, e) => ⟨x.negative != y.negative, m, e⟩

/-- The quotient, rounded once; none if it is too great or the divisor is zero. -/
def div? (x y : Binary64) : Option Binary64 :=
  if y.mantissa = 0 then none
  else
    let (a, b) := x.ratio
    let (c, d) := y.ratio
    (nearest? (a * d) (b * c)).map fun (m, e) => ⟨x.negative != y.negative, m, e⟩

/-- The same magnitude with the given sign. -/
def withSign (x : Binary64) (negative : Bool) : Binary64 := { x with negative }

end Binary64

end BuildFleet
