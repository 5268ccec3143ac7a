import BuildFleet.Decimal.Shortest
import Mathlib.Algebra.Order.Field.Rat
import Mathlib.Algebra.Order.Field.Power
import Mathlib.Tactic.FieldSimp
import Mathlib.Tactic.Linarith
import Mathlib.Tactic.NormNum
import Mathlib.Tactic.Positivity
import Mathlib.Tactic.Ring

/-!
# How near the fewest digits are

The fewest digits that read back are looked for on finer and finer grids. On a grid that is finer
than half the distance between two values of the format, the point after the value is still among
the numbers that read back, and at eighteen digits every grid is that fine; so the search ends with
a point that it has found.

> `Interval.pick_isSome`: a fine grid has a point in the interval;
> `shortest_near`: the digits of a value are at most half a unit of its last place away from it.
-/

namespace BuildFleet.Decimal

/-- The number that digits and exponent stand for. -/
def value (d : Decimal) : ℚ := d.digits * 10 ^ d.exponent

/-- Zeros move into the exponent without a change of the number. -/
theorem value_trim (fuel : Nat) (d : Decimal) : (trim fuel d).value = d.value := by
  induction fuel generalizing d with
  | zero => rfl
  | succ fuel ih =>
    rw [trim]
    split
    · next h =>
      have hdigits : (d.digits : ℚ) = (d.digits / 10 : ℕ) * 10 := by
        have hnat : d.digits = d.digits / 10 * 10 := by omega
        exact_mod_cast hnat
      rw [ih, value, value, zpow_add₀ (by norm_num), zpow_one, hdigits]
      ring
    · rfl

/-! ## The first digit -/

/-- A number is below the power of ten with as many zeros as it has digits. -/
theorem lt_pow_digitCount (n : Nat) : n < 10 ^ digitCount n := by
  have hpos : 0 < digitCount n := List.length_pos_of_ne_nil Nat.toDigits_ne_nil
  exact (Nat.length_toDigits_le_iff (by decide) hpos).mp (Nat.le_refl _)

/-- A positive number reaches the power of ten with one zero less than it has digits. -/
theorem pow_digitCount_le {n : Nat} (hn : 0 < n) : 10 ^ (digitCount n - 1) ≤ n := by
  by_cases hone : digitCount n ≤ 1
  · rw [Nat.sub_eq_zero_of_le hone]
    exact hn
  · rw [← Nat.not_lt]
    intro hlt
    have hlength : digitCount n ≤ digitCount n - 1 :=
      (Nat.length_toDigits_le_iff (by decide) (by omega)).mpr hlt
    omega

/-- The power of ten with the rounded logarithm does not exceed the fraction. -/
theorem pow_floorLog10_le {num den : Nat} (hnum : 0 < num) (hden : 0 < den) :
    (10 : ℚ) ^ floorLog10 num den * den ≤ num := by
  unfold floorLog10
  split
  · next hle =>
    have hpos : 0 < digitCount (num / den) := List.length_pos_of_ne_nil Nat.toDigits_ne_nil
    have hnat : 10 ^ (digitCount (num / den) - 1) * den ≤ num := calc
      10 ^ (digitCount (num / den) - 1) * den ≤ num / den * den :=
        Nat.mul_le_mul_right den (pow_digitCount_le (Nat.div_pos hle hden))
      _ ≤ num := Nat.div_mul_le_self num den
    rw [← Int.natCast_pred_of_pos hpos, zpow_natCast]
    exact_mod_cast hnat
  · next hlt =>
    -- below one, the first digit is that of the reciprocal, rounded up
    have hceil : den ≤ (den + num - 1) / num * num := by
      have hmod : (den + num - 1) % num < num := Nat.mod_lt _ hnum
      have hdiv := Nat.div_add_mod' (den + num - 1) num
      omega
    have hpow : (den + num - 1) / num ≤ 10 ^ digitCount ((den + num - 1) / num - 1) := by
      have h := lt_pow_digitCount ((den + num - 1) / num - 1)
      omega
    have hnat : den ≤ num * 10 ^ digitCount ((den + num - 1) / num - 1) := calc
      den ≤ (den + num - 1) / num * num := hceil
      _ ≤ 10 ^ digitCount ((den + num - 1) / num - 1) * num := Nat.mul_le_mul_right num hpow
      _ = num * 10 ^ digitCount ((den + num - 1) / num - 1) := Nat.mul_comm _ _
    rw [zpow_neg, zpow_natCast, inv_mul_le_iff₀ (by positivity), mul_comm]
    exact_mod_cast hnat

/-! ## Powers as quotients -/

/-- A power as a numerator and a denominator. -/
def powRatio (base : Nat) (e : Int) : Nat × Nat :=
  if 0 ≤ e then (Nat.pow base e.toNat, 1) else (1, Nat.pow base (-e).toNat)

/-- A power is the quotient of two positive integers. -/
theorem powRatio_spec {base u b : Nat} {e : Int} (hbase : 0 < base)
    (h : powRatio base e = (u, b)) : 0 < u ∧ 0 < b ∧ (u : ℚ) = base ^ e * b := by
  have hne : (base : ℚ) ≠ 0 := by exact_mod_cast Nat.ne_of_gt hbase
  unfold powRatio at h
  split at h
  · next he =>
    obtain ⟨rfl, rfl⟩ := Prod.mk.inj h
    obtain ⟨k, rfl⟩ := Int.eq_ofNat_of_zero_le he
    refine ⟨Nat.pow_pos hbase, Nat.one_pos, ?_⟩
    simp [Nat.pow_eq]
  · next he =>
    obtain ⟨rfl, rfl⟩ := Prod.mk.inj h
    obtain ⟨k, rfl⟩ : ∃ k : Nat, e = -k := ⟨(-e).toNat, by omega⟩
    refine ⟨Nat.one_pos, Nat.pow_pos hbase, ?_⟩
    simp [Nat.pow_eq, hne]

/-- A number is scaled by multiplying with the numerator of the power of two and keeping its
denominator. -/
theorem scaled_eq {u b : Nat} {e : Int} (h : powRatio 2 e = (u, b)) (n : Nat) :
    Binary64.scaled n e = (n * u, b) := by
  unfold powRatio at h
  unfold Binary64.scaled
  split at h
  · next he =>
    obtain ⟨rfl, rfl⟩ := Prod.mk.inj h
    exact if_pos he
  · next he =>
    obtain ⟨rfl, rfl⟩ := Prod.mk.inj h
    rw [if_neg he, Nat.mul_one]

/-! ## The points of a grid -/

namespace Interval

variable {tie : Tie} {i : Interval} {e : Int} {d : Decimal} {un ud : Nat}

/-- The number lies in the interval or is one of its ends. -/
def Contains (i : Interval) (v : ℚ) : Prop := i.lower ≤ v * i.den ∧ v * i.den ≤ i.upper

/-- Of the points before and after the value, one is picked that lies in the interval. -/
theorem pick_cases (hunit : powRatio 10 e = (un, ud)) (h : i.pick tie e = some d) :
    ∃ n, d = ⟨n, e⟩ ∧ i.holds n un ud = true := by
  unfold pick at h
  dsimp only at h
  rw [← powRatio, hunit] at h
  dsimp only at h
  split at h
  · next hbelow => exact ⟨_, (Option.some.inj h).symm, hbelow.1.2⟩
  · obtain ⟨habove, hd⟩ := Option.ite_none_right_eq_some.mp h
    exact ⟨_, (Option.some.inj hd).symm, habove⟩

/-- A point is picked if the one after the value lies in the interval. -/
theorem pick_isSome_of_holds (hunit : powRatio 10 e = (un, ud))
    (h : i.holds (i.value * ud / (i.den * un) + 1) un ud = true) :
    (i.pick tie e).isSome = true := by
  unfold pick
  dsimp only
  rw [← powRatio, hunit]
  dsimp only
  rw [if_pos h]
  split
  · rfl
  · rfl

/-- What the test with integers accepts lies in the interval. -/
theorem contains_of_holds (hunit : powRatio 10 e = (un, ud)) {n : Nat}
    (h : i.holds n un ud = true) : i.Contains (n * 10 ^ e) := by
  obtain ⟨-, hud, heq⟩ := powRatio_spec (by decide) hunit
  rw [Nat.cast_ofNat] at heq
  have hnat : i.lower * ud ≤ n * un * i.den ∧ n * un * i.den ≤ i.upper * ud := by
    unfold holds at h
    dsimp only at h
    split at h
    · exact of_decide_eq_true h
    · obtain ⟨hlower, hupper⟩ := of_decide_eq_true h
      exact ⟨Nat.le_of_lt hlower, Nat.le_of_lt hupper⟩
  have hpos : (0 : ℚ) < ud := by exact_mod_cast hud
  have hpoint : ((n * un * i.den : ℕ) : ℚ) = n * 10 ^ e * i.den * ud := by
    push_cast
    rw [heq]
    ring
  constructor
  · refine le_of_mul_le_mul_right ?_ hpos
    rw [← hpoint]
    exact_mod_cast hnat.1
  · refine le_of_mul_le_mul_right ?_ hpos
    rw [← hpoint]
    exact_mod_cast hnat.2

/-- What is picked is a point in the interval. -/
theorem contains_of_pick (h : i.pick tie e = some d) : i.Contains d.value := by
  obtain ⟨un, ud, hunit⟩ : ∃ un ud, powRatio 10 e = (un, ud) := ⟨_, _, rfl⟩
  obtain ⟨n, rfl, hholds⟩ := pick_cases hunit h
  exact contains_of_holds hunit hholds

/-- On a grid that is finer than the distance from the value to the upper end, the point after the
value lies in between. -/
theorem pick_isSome (hden : 0 < i.den) (hlower : i.lower < i.value)
    (hfine : (i.value + i.den * 10 ^ e : ℚ) < i.upper) : (i.pick tie e).isSome = true := by
  obtain ⟨un, ud, hunit⟩ : ∃ un ud, powRatio 10 e = (un, ud) := ⟨_, _, rfl⟩
  obtain ⟨hun, hud, heq⟩ := powRatio_spec (by decide) hunit
  rw [Nat.cast_ofNat] at heq
  have hupper : i.value * ud + i.den * un < i.upper * ud := by
    have hcast : (i.value * ud + i.den * un : ℚ) < i.upper * ud := by
      calc (i.value * ud + i.den * un : ℚ)
        _ = (i.value + i.den * 10 ^ e) * ud := by rw [heq]; ring
        _ < i.upper * ud := mul_lt_mul_of_pos_right hfine (by exact_mod_cast hud)
    exact_mod_cast hcast
  apply pick_isSome_of_holds hunit
  have hpoint : (i.value * ud / (i.den * un) + 1) * un * i.den
      = i.den * un * (i.value * ud / (i.den * un)) + i.den * un := by ring
  have hle : i.den * un * (i.value * ud / (i.den * un)) ≤ i.value * ud := Nat.mul_div_le _ _
  have hlt : i.value * ud < i.den * un * (i.value * ud / (i.den * un)) + i.den * un :=
    Nat.lt_mul_div_succ _ (Nat.mul_pos hden hun)
  have hvalue : i.lower * ud < i.value * ud := Nat.mul_lt_mul_of_pos_right hlower hud
  unfold holds
  dsimp only
  rw [hpoint]
  split
  · exact decide_eq_true ⟨by omega, by omega⟩
  · exact decide_eq_true ⟨by omega, by omega⟩

/-- The search ends with a point that it has picked if there is one on the grids that it walks. -/
theorem contains_search {p : Int} {n fuel k : Nat} (hk : n ≤ k) (hk' : k < n + fuel)
    (h : (i.pick tie (p - k + 1)).isSome = true) : i.Contains (i.search tie p n fuel).value := by
  induction fuel generalizing n with
  | zero => omega
  | succ fuel ih =>
    rw [search]
    split
    · next d hd => exact contains_of_pick hd
    · next hnone =>
      rcases Nat.eq_or_lt_of_le hk with heq | hlt
      · rw [heq] at hnone
        rw [hnone] at h
        exact absurd h Bool.false_ne_true
      · exact ih hlt (by omega)

end Interval

/-! ## The interval around a value -/

section

variable {x : Binary64} {i : Interval} {u b : Nat}

/-- The ends are half a unit of the last place away from the value, or the lower one a quarter. -/
theorem around_ends (hi : i = Interval.around x) (h : powRatio 2 x.exponent = (u, b)) :
    i.value = 4 * (x.mantissa * u) ∧ i.upper = i.value + 2 * u ∧ i.value ≤ i.lower + 2 * u
      ∧ (0 < x.mantissa → i.lower < i.value) ∧ i.den = 4 * b := by
  obtain ⟨hu, -, -⟩ := powRatio_spec (by decide) h
  subst hi
  unfold Interval.around
  rw [scaled_eq h, scaled_eq h, Nat.one_mul]
  dsimp only
  refine ⟨rfl, rfl, ?_, ?_, rfl⟩
  · split
    · omega
    · omega
  · intro hpos
    have hvalue : 0 < x.mantissa * u := Nat.mul_pos hpos hu
    split
    · omega
    · omega

/-- At eighteen digits the grid is finer than half a unit of the last place. -/
theorem grid_lt_upper (hi : i = Interval.around x) (hpos : 0 < x.mantissa)
    (hle : x.mantissa ≤ 2 ^ 53) {e : Int} (he : e + 17 = floorLog10 i.value i.den) :
    (i.value + i.den * 10 ^ e : ℚ) < i.upper := by
  obtain ⟨u, b, h⟩ : ∃ u b, powRatio 2 x.exponent = (u, b) := ⟨_, _, rfl⟩
  obtain ⟨hu, hb, -⟩ := powRatio_spec (by decide) h
  obtain ⟨hvalue, hupper, -, -, hden⟩ := around_ends hi h
  have hnum : 0 < i.value := by
    rw [hvalue]
    exact Nat.mul_pos (by decide) (Nat.mul_pos hpos hu)
  have hden' : 0 < i.den := by omega
  have hfirst := pow_floorLog10_le hnum hden'
  have hm : (x.mantissa : ℚ) ≤ 2 ^ 53 := by exact_mod_cast hle
  have hu' : (0 : ℚ) < u := by exact_mod_cast hu
  have hstep : i.den * (10 : ℚ) ^ e * 10 ^ 17 < 2 * u * 10 ^ 17 := by
    calc i.den * (10 : ℚ) ^ e * 10 ^ 17
      _ = 10 ^ (e + 17) * i.den := by
        rw [zpow_add₀ (by norm_num)]
        norm_cast
        ring
      _ ≤ i.value := by rw [he]; exact hfirst
      _ = x.mantissa * (4 * u) := by rw [hvalue]; push_cast; ring
      _ ≤ 2 ^ 53 * (4 * u) := by gcongr
      _ < 2 * u * 10 ^ 17 := by linarith
  rw [hupper]
  push_cast
  linarith

/-- The digits of a value are at most half a unit of its last place away from it. -/
theorem shortest_near (tie : Tie) (hpos : 0 < x.mantissa) (hle : x.mantissa ≤ 2 ^ 53) :
    |(shortest tie x).value - x.mantissa * 2 ^ x.exponent| ≤ 2 ^ x.exponent / 2 := by
  obtain ⟨u, b, h⟩ : ∃ u b, powRatio 2 x.exponent = (u, b) := ⟨_, _, rfl⟩
  obtain ⟨i, hi⟩ : ∃ i, i = Interval.around x := ⟨_, rfl⟩
  obtain ⟨-, hb, hu⟩ := powRatio_spec (by decide) h
  obtain ⟨hvalue, hupper, hwide, hlower, hden⟩ := around_ends hi h
  have hfound : (i.pick tie (floorLog10 i.value i.den - (18 : ℕ) + 1)).isSome = true := by
    refine Interval.pick_isSome (by omega) (hlower hpos) (grid_lt_upper hi hpos hle ?_)
    push_cast
    ring
  obtain ⟨hleft, hright⟩ : i.Contains (shortest tie x).value := by
    rw [shortest, value_trim, ← hi]
    exact Interval.contains_search (k := 18) (by decide) (by decide) hfound
  -- all in quarters of the unit
  have hb' : (0 : ℚ) < b := by exact_mod_cast hb
  have hwide' : (i.value : ℚ) ≤ i.lower + 2 * u := by exact_mod_cast hwide
  rw [Nat.cast_ofNat] at hu
  rw [hupper] at hright
  rw [hden] at hleft hright
  rw [hvalue] at hwide' hright
  push_cast at hleft hright hwide'
  rw [hu] at hright hwide'
  rw [abs_le]
  constructor
  · refine le_of_mul_le_mul_right ?_ hb'
    linarith
  · refine le_of_mul_le_mul_right ?_ hb'
    linarith

end

end BuildFleet.Decimal
