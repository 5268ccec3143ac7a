import BuildFleet.Decimal.Shortest
import BuildFleet.Json.Basic
import BuildFleet.Quantity.Spelling

/-!
# Resource quantities

A quantity such as `500m`, `2` or `4Gi` keeps the text it was written with, and is compared
by its exact value in billionths (`nano?`), so `1000m` and `1` are equal in value though not
in text. A fraction of a billionth counts as a whole one. Values are computed in integers of
128 signed bits and exponents in ones of 32; a text whose computation leaves these ranges has
no value, like a text that is no quantity at all.

Texts without a value come after all others in the order, and are ordered among themselves
as texts.
-/

namespace BuildFleet

/-- An amount of a resource, as written. -/
structure Quantity where
  /-- The text it was written with. -/
  text : String
  deriving DecidableEq, Inhabited

namespace Quantity

/-- The greatest integer of 128 signed bits. -/
def limit : Nat := 170141183460469231731687303715884105727

/-- A number that fits 128 signed bits. -/
def within (n : Nat) : Option Nat := if n ≤ limit then some n else none

/-- The number that digits spell, each step of which has to fit. -/
def mantissa? (ds : List Nat) : Option Nat :=
  ds.foldlM (fun n d => (within (n * 10)).bind fun n => within (n + d)) 0

/-- The power of ten; above the thirty-eighth none fits. -/
def powTen? (k : Nat) : Option Nat := if k ≤ 38 then some (Nat.pow 10 k) else none

/-- The number times `10 ^ e`, rounded up if `e` is negative. A divisor that does not fit
leaves one unit of any positive number. -/
def scale? (n : Nat) (e : Int) : Option Nat :=
  if 0 ≤ e then (powTen? e.toNat).bind fun p => within (n * p)
  else match powTen? (-e).toNat with
    | none => some (if 0 < n then 1 else 0)
    | some p => some (if n % p = 0 then n / p else n / p + 1)

/-- How many digits come after the point, which has to fit 32 signed bits. -/
def Spelling.places? (s : Spelling) : Option Nat :=
  if s.fraction.length ≤ 0x7fffffff then some s.fraction.length else none

/-- The magnitude in billionths. The exponent in billionths has to fit 32 signed bits, and so does
what is left of it once the digits after the point are counted off. -/
def Spelling.magnitude? (s : Spelling) : Option Nat :=
  (mantissa? (s.whole ++ s.fraction)).bind fun m => s.places?.bind fun places =>
    match s.suffix with
    | .decimal e =>
      if e + 9 ≤ 0x7fffffff ∧ -0x80000000 ≤ e + 9 - places then scale? m (e + 9 - places) else none
    | .binary bits =>
      (within (m * Nat.pow 2 bits)).bind fun m => (within (m * 1000000000)).bind fun m =>
        scale? m (-places)

/-- The value in billionths. -/
def Spelling.nano? (s : Spelling) : Option Int :=
  s.magnitude?.map fun n => if s.negative then -(n : Int) else n

/-- The exact value in billionths; blanks around the text do not count. -/
def nano? (q : Quantity) : Option Int := (spelling? (Text.trim q.text.toList)).bind Spelling.nano?

/-- Whether the text has a value. -/
def isValid (q : Quantity) : Bool := q.nano?.isSome

/-- Compares by value; texts without one come last, in the order of texts. -/
def compare (a b : Quantity) : Ordering :=
  match a.nano?, b.nano? with
  | some x, some y => Ord.compare x y
  | some _, none => .lt
  | none, some _ => .gt
  | none, none => Ord.compare a.text b.text

/-- Whether the value is strictly greater. -/
def exceeds (a b : Quantity) : Bool := a.compare b == .gt

/-- Reads a quantity. Manifests write bare numbers too: an integer of 64 signed bits stands
for its digits, and any other number for its binary64 value in full. -/
def ofJson? : Json → Option Quantity
  | .str s => some ⟨s⟩
  | .int n =>
    if -0x8000000000000000 ≤ n ∧ n ≤ 0x7fffffffffffffff then some ⟨toString n⟩
    else (Binary64.ofNat? n.natAbs).map fun x => ⟨(x.withSign (n < 0)).positional⟩
  | .float x => some ⟨x.positional⟩
  | _ => none

/-- A quantity is written as its text. -/
def toJson (q : Quantity) : Json := .str q.text

end Quantity

end BuildFleet
