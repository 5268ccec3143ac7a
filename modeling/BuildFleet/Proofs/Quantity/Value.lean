import BuildFleet.Proofs.Quantity.Grammar
import Mathlib.Algebra.Order.Archimedean.Basic
import Mathlib.Algebra.Order.Floor.Ring
import Mathlib.Data.Rat.Floor
import Mathlib.Tactic.Linarith
import Mathlib.Tactic.Positivity

/-!
# The value of a quantity

The value of a quantity is computed in whole billionths, with integers that may run out of range on
the way. Where there is a value, it is the exact one: what the text stands for, in billionths, up to
the next whole one. Rounding is done once and on the magnitude, so a negative value is rounded away
from zero.

> `scale?_eq_ceil`: scaling by a power of ten rounds up what it comes to exactly. A power that is
> out of range is one that leaves less than a billionth;
> `Spelling.magnitude?_eq_ceil`: so the digits and the suffix make the exact magnitude;
> `nano?_exact`: a text with a value is a quantity, and has the value that it stands for.
-/

namespace BuildFleet.Quantity

/-! ## Computing in range -/

/-- A number that fits is not changed. -/
theorem within_eq_some {n m : ℕ} (h : within n = some m) : m = n ∧ n ≤ limit := by
  obtain ⟨hle, hm⟩ := Option.ite_none_right_eq_some.mp h
  exact ⟨(Option.some.inj hm).symm, hle⟩

/-- A step that does not go down is in range before if it is in range after. -/
theorem within_bind {f : ℕ → ℕ} {a : ℕ} (h : a ≤ f a) :
    ((within a).bind fun n => within (f n)) = within (f a) := by
  unfold within
  split
  · rfl
  · rw [Option.bind_none, if_neg (by omega)]

/-- More digits do not make a number smaller. -/
theorem le_foldl_numeral (ds : List ℕ) (n : ℕ) : n ≤ ds.foldl (fun n d => n * 10 + d) n := by
  induction ds generalizing n with
  | nil => exact le_refl n
  | cons d ds ih =>
    calc n ≤ n * 10 + d := by omega
      _ ≤ _ := ih (n * 10 + d)

/-- Digits only add to a number, so reading them leaves the range where the number does. -/
theorem mantissa?_eq_within (ds : List ℕ) : mantissa? ds = within (numeral ds) := by
  have step : ∀ (ds : List ℕ) (n : ℕ), n ≤ limit →
      ds.foldlM (fun n d => (within (n * 10)).bind fun n => within (n + d)) n
        = within (ds.foldl (fun n d => n * 10 + d) n) := by
    intro ds
    induction ds with
    | nil => exact fun n hn => (if_pos hn).symm
    | cons d ds ih =>
      intro n _
      rw [List.foldlM_cons, within_bind (by omega), List.foldl_cons]
      by_cases hle : n * 10 + d ≤ limit
      · rw [within, if_pos hle]
        exact ih _ hle
      · have hfold := le_foldl_numeral ds (n * 10 + d)
        rw [within, if_neg hle, within, if_neg (by omega)]
        rfl
  exact step ds 0 (Nat.zero_le _)

/-- The mantissa is the numeral of its digits, and fits. -/
theorem mantissa?_eq_numeral {ds : List ℕ} {m : ℕ} (h : mantissa? ds = some m) :
    m = numeral ds ∧ m ≤ limit := by
  rw [mantissa?_eq_within] at h
  obtain ⟨rfl, hle⟩ := within_eq_some h
  exact ⟨rfl, hle⟩

/-- A power of ten that fits is that power. -/
theorem powTen?_eq_some {k p : ℕ} (h : powTen? k = some p) : p = 10 ^ k :=
  (Option.some.inj (Option.ite_none_right_eq_some.mp h).2).symm

/-- The limit has no more than thirty-nine digits. -/
theorem limit_lt_pow : limit < 10 ^ 39 := by
  unfold limit
  norm_num

/-- A power that is out of range is above everything that is in range. -/
theorem limit_lt_of_powTen?_eq_none {k : ℕ} (h : powTen? k = none) : limit < 10 ^ k := by
  have hk : 39 ≤ k := by
    unfold powTen? at h
    split at h
    · exact nomatch h
    · omega
  calc limit < 10 ^ 39 := limit_lt_pow
    _ ≤ 10 ^ k := Nat.pow_le_pow_right (by norm_num) hk

/-! ## Rounding up -/

/-- Division that is rounded up is the ceiling of the quotient. -/
theorem ceil_div (n p : ℕ) (hp : 0 < p) :
    ((if n % p = 0 then n / p else n / p + 1 : ℕ) : ℤ) = ⌈(n : ℚ) / p⌉ := by
  have hp' : (0 : ℚ) < p := by exact_mod_cast hp
  obtain ⟨q, r, hq, hr, hn⟩ : ∃ q r, n / p = q ∧ n % p = r ∧ p * q + r = n :=
    ⟨_, _, rfl, rfl, Nat.div_add_mod n p⟩
  have hlt : (r : ℚ) < p := by exact_mod_cast hr ▸ Nat.mod_lt n hp
  rw [hq, hr, ← hn]
  symm
  rw [Int.ceil_eq_iff, lt_div_iff₀ hp', div_le_iff₀ hp']
  split
  · next h =>
    subst h
    push_cast
    constructor <;> linarith
  · next h =>
    have hpos : (0 : ℚ) < r := by exact_mod_cast Nat.pos_of_ne_zero h
    push_cast
    constructor <;> linarith

/-- What is positive and less than a whole one is rounded up to it. -/
theorem ceil_div_of_lt {n p : ℕ} (h : n < p) :
    ((if 0 < n then 1 else 0 : ℕ) : ℤ) = ⌈(n : ℚ) / p⌉ := by
  rw [← ceil_div n p (by omega), Nat.mod_eq_of_lt h, Nat.div_eq_of_lt h]
  split <;> split <;> omega

/-- Scaling rounds the exact product up. -/
theorem scale?_eq_ceil {n r : ℕ} {e : ℤ} (hn : n ≤ limit) (h : scale? n e = some r) :
    (r : ℤ) = ⌈(n : ℚ) * 10 ^ e⌉ := by
  unfold scale? at h
  split at h
  · next he =>
    obtain ⟨p, hp, h⟩ := Option.bind_eq_some_iff.mp h
    obtain rfl := powTen?_eq_some hp
    obtain ⟨rfl, -⟩ := within_eq_some h
    have hwhole : (n : ℚ) * 10 ^ e = ((n * 10 ^ e.toNat : ℕ) : ℚ) := by
      push_cast
      rw [← zpow_natCast, Int.toNat_of_nonneg he]
    rw [hwhole, Int.ceil_natCast]
  · next he =>
    have hfraction : (n : ℚ) * 10 ^ e = n / ((10 ^ (-e).toNat : ℕ) : ℚ) := by
      push_cast
      rw [← zpow_natCast, Int.toNat_of_nonneg (by omega), zpow_neg, div_inv_eq_mul]
    rw [hfraction]
    split at h
    · next hp =>
      obtain rfl := Option.some.inj h
      exact ceil_div_of_lt (hn.trans_lt (limit_lt_of_powTen?_eq_none hp))
    · next p hp =>
      obtain rfl := powTen?_eq_some hp
      obtain rfl := Option.some.inj h
      exact ceil_div n _ (by positivity)

/-! ## The magnitude -/

/-- The places are the digits behind the point. -/
theorem Spelling.places?_eq_some {s : Spelling} {n : ℕ} (h : s.places? = some n) :
    n = s.fraction.length :=
  (Option.some.inj (Option.ite_none_right_eq_some.mp h).2).symm

/-- The magnitude in billionths is the exact one rounded up. -/
theorem Spelling.magnitude?_eq_ceil {s : Spelling} {m : ℕ} (h : s.magnitude? = some m) :
    (m : ℤ) = ⌈s.magnitude * 10 ^ 9⌉ := by
  unfold magnitude? at h
  obtain ⟨n, hn, h⟩ := Option.bind_eq_some_iff.mp h
  obtain ⟨rfl, hle⟩ := mantissa?_eq_numeral hn
  rw [Option.bind_eq_some_iff] at h
  obtain ⟨_, hplaces, h⟩ := h
  obtain rfl := places?_eq_some hplaces
  unfold magnitude
  cases hsuffix : s.suffix with
  | decimal e =>
    rw [hsuffix] at h
    rw [scale?_eq_ceil hle (Option.ite_none_right_eq_some.mp h).2, Suffix.factor,
      zpow_sub₀ (by norm_num), zpow_add₀ (by norm_num), zpow_natCast]
    congr 1
    ring
  | binary bits =>
    rw [hsuffix] at h
    obtain ⟨a, ha, h⟩ := Option.bind_eq_some_iff.mp h
    obtain ⟨b, hb, h⟩ := Option.bind_eq_some_iff.mp h
    obtain ⟨rfl, -⟩ := within_eq_some ha
    obtain ⟨rfl, hle⟩ := within_eq_some hb
    rw [scale?_eq_ceil hle h, Suffix.factor, zpow_neg, zpow_natCast]
    congr 1
    push_cast [Nat.pow_eq]
    ring

/-- A text that has a value is a quantity, and the value is what it stands for in billionths, the
magnitude rounded up. -/
theorem nano?_exact {q : Quantity} {n : ℤ} (h : q.nano? = some n) :
    ∃ s x, Spells (Text.trim q.text.toList) s x ∧ n = s * ⌈x * 10 ^ 9⌉ := by
  obtain ⟨p, hp, hn⟩ := Option.bind_eq_some_iff.mp h
  obtain ⟨_, hz, rfl⟩ := Option.map_eq_some_iff.mp hn
  obtain ⟨m, hm, hz⟩ := Option.bind_eq_some_iff.mp hz
  obtain rfl := Option.some.inj hz
  refine ⟨_, _, spells_of_spelling? hp, ?_⟩
  rw [← Spelling.magnitude?_eq_ceil hm]
  unfold factor
  split
  · exact (neg_one_mul _).symm
  · exact (one_mul _).symm

/-- One and a half billionths below zero. -/
theorem nano?_exact_small :
    ∃ s x, Spells (Text.trim " -1.5e-9 ".toList) s x ∧ -2 = s * ⌈x * 10 ^ 9⌉ :=
  nano?_exact (q := ⟨" -1.5e-9 "⟩) (n := -2) (by decide)

end BuildFleet.Quantity
