import BuildFleet.Proofs.Quantity.Order
import BuildFleet.Proofs.Quantity.Reading
import BuildFleet.Proofs.Quantity.Value

/-!
# Comparing what quantities stand for

Quantities are compared in whole billionths, where a fraction of one counts as a whole one. That is
rounding away from zero, up for positive numbers and down for negative ones, and both together are
one function of the exact value (`billionths`). This function is monotone and leaves whole
billionths as they are, and that is all there is to the order:

> `Denotes.nano?_eq`: the value that is computed is the exact one, rounded;
> `compare_denoted`: so quantities are never ordered against their exact values, and those in whole
> billionths are ordered exactly like them, however they are spelled.
-/

namespace BuildFleet.Quantity

/-- The text is a quantity that stands for this number. -/
def Denotes (q : Quantity) (v : ℚ) : Prop :=
  ∃ s x, Spells (Text.trim q.text.toList) s x ∧ v = s * x

/-- A quantity is valid exactly if it has a value. -/
theorem isValid_iff {q : Quantity} : q.isValid = true ↔ ∃ n, q.nano? = some n :=
  Option.isSome_iff_exists

/-- A quantity with a value stands for one number. -/
theorem existsUnique_denotes {q : Quantity} (h : q.isValid = true) : ∃! v, q.Denotes v := by
  obtain ⟨n, hn⟩ := isValid_iff.mp h
  obtain ⟨s, x, hspells, -⟩ := nano?_exact hn
  refine ⟨s * x, ⟨s, x, hspells, rfl⟩, ?_⟩
  intro w hw
  obtain ⟨t, y, hspells', rfl⟩ := hw
  obtain ⟨rfl, rfl⟩ := hspells.unique hspells'
  rfl

/-! ## Rounding away from zero -/

/-- A number in whole billionths, a fraction of one counting as a whole one. -/
def billionths (v : ℚ) : ℤ := if 0 ≤ v then ⌈v * 10 ^ 9⌉ else ⌊v * 10 ^ 9⌋

/-- Below zero the magnitude is what is rounded up. -/
theorem billionths_neg {x : ℚ} (h : 0 ≤ x) : billionths (-x) = -⌈x * 10 ^ 9⌉ := by
  unfold billionths
  rcases h.eq_or_lt with rfl | hpos
  · simp
  · rw [if_neg (by linarith), neg_mul, Int.floor_neg]

/-- Rounding keeps the order. -/
theorem billionths_mono {v w : ℚ} (h : v ≤ w) : billionths v ≤ billionths w := by
  have hle : v * 10 ^ 9 ≤ w * 10 ^ 9 := by gcongr
  unfold billionths
  split
  · next hv =>
    rw [if_pos (hv.trans h)]
    exact Int.ceil_mono hle
  · next hv =>
    split
    · next hw =>
      -- on the two sides of zero
      have hfloor : ⌊v * 10 ^ 9⌋ ≤ 0 := Int.floor_nonpos (by linarith)
      have hceil : 0 ≤ ⌈w * 10 ^ 9⌉ := Int.ceil_nonneg (by positivity)
      omega
    · exact Int.floor_mono hle

/-- Whole billionths are not rounded. -/
theorem billionths_of_whole {v : ℚ} {n : ℤ} (h : v * 10 ^ 9 = n) : billionths v = n := by
  unfold billionths
  rw [h, Int.ceil_intCast, Int.floor_intCast, ite_self]

/-- The magnitude that a text spells is not negative. -/
theorem Spells.nonneg {cs : List Char} {s : ℤ} {x : ℚ} (h : Spells cs s x) : 0 ≤ x := by
  cases h with
  | mk _ hnumber hmultiplier => exact mul_nonneg hnumber.nonneg hmultiplier.pos.le

/-- The sign that a text spells is plus or minus one. -/
theorem Spells.sign_eq {cs : List Char} {s : ℤ} {x : ℚ} (h : Spells cs s x) : s = 1 ∨ s = -1 := by
  cases h with
  | mk hsign => cases hsign <;> decide

/-- The value that is computed is the exact one, rounded away from zero. -/
theorem Denotes.nano?_eq {q : Quantity} {v : ℚ} {n : ℤ} (hv : q.Denotes v)
    (hn : q.nano? = some n) : n = billionths v := by
  obtain ⟨s, x, hspells, rfl⟩ := nano?_exact hn
  obtain ⟨t, y, hspells', rfl⟩ := hv
  obtain ⟨rfl, rfl⟩ := hspells.unique hspells'
  have hnonneg := hspells.nonneg
  rcases hspells.sign_eq with rfl | rfl
  · rw [Int.cast_one, one_mul, one_mul, billionths, if_pos hnonneg]
  · rw [Int.cast_neg, Int.cast_one, neg_one_mul, neg_one_mul, billionths_neg hnonneg]

/-! ## The order -/

/-- Quantities with values compare as these do. -/
theorem compare_of_nano? {a b : Quantity} {m n : ℤ} (ha : a.nano? = some m)
    (hb : b.nano? = some n) : a.compare b = Ord.compare m n := by
  unfold Quantity.compare
  rw [ha, hb]

/-- A text without a value is above every quantity that has one. -/
theorem exceeds_of_not_isValid {a b : Quantity} (ha : a.isValid = true) (hb : b.isValid = false) :
    b.exceeds a = true := by
  obtain ⟨m, hm⟩ := isValid_iff.mp ha
  have hnone : b.nano? = none := Option.isNone_iff_eq_none.mp (Option.isSome_eq_false_iff.mp hb)
  unfold exceeds Quantity.compare
  rw [hm, hnone]
  rfl

/-- Not to be above each other passes on from the exact values. -/
theorem exceeds_of_denotes_le {a b : Quantity} {v w : ℚ} (ha : a.isValid = true)
    (hb : b.isValid = true) (hv : a.Denotes v) (hw : b.Denotes w) (hle : v ≤ w) :
    a.exceeds b = false := by
  obtain ⟨m, hm⟩ := isValid_iff.mp ha
  obtain ⟨n, hn⟩ := isValid_iff.mp hb
  have hmn : m ≤ n := by
    rw [hv.nano?_eq hm, hw.nano?_eq hn]
    exact billionths_mono hle
  rw [← le_iff_exceeds, le_iff_isLE, compare_of_nano? hm hn]
  exact Std.isLE_compare.mpr hmn

/-- Whole billionths are compared exactly. -/
theorem compare_of_whole {a b : Quantity} {v w : ℚ} {m n : ℤ} (ha : a.isValid = true)
    (hb : b.isValid = true) (hv : a.Denotes v) (hw : b.Denotes w) (hm : v * 10 ^ 9 = m)
    (hn : w * 10 ^ 9 = n) : a.compare b = cmp v w := by
  obtain ⟨m', hm'⟩ := isValid_iff.mp ha
  obtain ⟨n', hn'⟩ := isValid_iff.mp hb
  obtain rfl : m' = m := (hv.nano?_eq hm').trans (billionths_of_whole hm)
  obtain rfl : n' = n := (hw.nano?_eq hn').trans (billionths_of_whole hn)
  calc a.compare b = Ord.compare m' n' := compare_of_nano? hm' hn'
    _ = cmp m' n' := (cmp_eq_compare m' n').symm
    _ = cmp (m' : ℚ) n' := (Int.cast_strictMono.cmp_map_eq m' n').symm
    _ = cmp (v * 10 ^ 9) (w * 10 ^ 9) := by rw [hm, hn]
    _ = cmp v w := cmp_mul_pos_right (by norm_num) v w

/-- The order on all texts: a total preorder, in which texts without a value come last, and which
goes by the exact values. -/
theorem compare_denoted (a b c : Quantity) :
    a.compare a = .eq ∧ b.compare a = (a.compare b).swap
      ∧ (a.exceeds b = false → b.exceeds c = false → a.exceeds c = false)
      ∧ (a.isValid = true → b.isValid = false → b.exceeds a = true)
      ∧ (a.isValid = true → ∃! v, a.Denotes v)
      ∧ ∀ v w, a.isValid = true → b.isValid = true → a.Denotes v → b.Denotes w →
        (v ≤ w → a.exceeds b = false)
          ∧ ((∃ m : ℤ, v * 10 ^ 9 = m) → (∃ n : ℤ, w * 10 ^ 9 = n) → a.compare b = cmp v w) := by
  refine ⟨Std.ReflCmp.compare_self, Std.OrientedCmp.eq_swap, ?_, exceeds_of_not_isValid,
    existsUnique_denotes, ?_⟩
  · intro hab hbc
    exact le_trans (le_iff_exceeds.mpr hab) (le_iff_exceeds.mpr hbc)
  · intro v w ha hb hv hw
    refine ⟨exceeds_of_denotes_le ha hb hv hw, ?_⟩
    intro hwhole hwhole'
    obtain ⟨m, hm⟩ := hwhole
    obtain ⟨n, hn⟩ := hwhole'
    exact compare_of_whole ha hb hv hw hm hn

/-- A thousand thousandths are compared like one whole unit. -/
theorem compare_denoted_milli : (⟨"1000m"⟩ : Quantity).Denotes 1 ∧ (⟨"+1"⟩ : Quantity).Denotes 1
    ∧ (⟨"1000m"⟩ : Quantity).compare ⟨"+1"⟩ = cmp (1 : ℚ) 1
    ∧ (⟨"lots"⟩ : Quantity).exceeds ⟨"1000m"⟩ = true := by
  have hmilli : (⟨"1000m"⟩ : Quantity).Denotes 1 := by
    refine ⟨_, _, Spells.mk .none (@IsNumber.whole ['1', '0', '0', '0'] (by simp [IsDigits])
      (by decide)) (@IsMultiplier.decimal ['m'] (-3) (by decide)), ?_⟩
    rw [show decimal ['1', '0', '0', '0'] = 1000 from rfl]
    norm_num
  have hone : (⟨"+1"⟩ : Quantity).Denotes 1 := by
    refine ⟨_, _, Spells.mk .plus (@IsNumber.whole ['1'] (by simp [IsDigits]) (by decide))
      (@IsMultiplier.decimal [] 0 (by decide)), ?_⟩
    rw [show decimal ['1'] = 1 from rfl]
    norm_num
  obtain ⟨-, -, -, -, -, hcompare⟩ := compare_denoted ⟨"1000m"⟩ ⟨"+1"⟩ ⟨"lots"⟩
  obtain ⟨-, -, -, hlots, -, -⟩ := compare_denoted ⟨"1000m"⟩ ⟨"lots"⟩ ⟨"+1"⟩
  exact ⟨hmilli, hone, (hcompare 1 1 (by decide) (by decide) hmilli hone).2
    ⟨10 ^ 9, by norm_num⟩ ⟨10 ^ 9, by norm_num⟩, hlots (by decide) (by decide)⟩

end BuildFleet.Quantity
