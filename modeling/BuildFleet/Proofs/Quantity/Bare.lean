import BuildFleet.Proofs.Decimal.Shortest
import BuildFleet.Proofs.Json.Texts
import BuildFleet.Proofs.Quantity.Comparison
import BuildFleet.Proofs.Quantity.Range
import BuildFleet.Proofs.Time.Texts

/-!
# Quantities from bare numbers

A number in a manifest becomes a quantity by its digits. An integer of 64 signed bits is written as
it is, and its billionths are far from the limits of 128 bits, so it stands for itself. An integer
that fits 64 bits only without a sign is above all of those, and is written with the fewest digits
of a binary64 value next to it; these are above them, too.

> `nano?_toString`: an integer is worth its billionths if they fit;
> `isNumber_positional`: the digits of a binary64 value are a number, which is near it;
> `bare_integer_exact`: so integers of 64 signed bits keep their value and their order.
-/

namespace BuildFleet.Quantity

open Json.Parser (signed)

/-! ## Digits -/

/-- A number is written in digits. -/
theorem isDigits_toDigits (n : ℕ) : IsDigits (Nat.toDigits 10 n) :=
  fun _ hc => Json.Parser.isDigit_of_mem_toDigits hc

theorem isDigits_zeros (k : ℕ) : IsDigits (List.replicate k '0') := by
  intro c hc
  rw [List.eq_of_mem_replicate hc]
  rfl

theorem decimal_eq_ofDigitChars (cs : List Char) : decimal cs = Nat.ofDigitChars 10 cs 0 := by
  have hnumeral : decimal cs = numeral (cs.map fun c => c.toNat - '0'.toNat) := by
    rw [numeral_eq_ofDigits, decimal, List.map_reverse]
  rw [hnumeral, numeral, List.foldl_map, Nat.ofDigitChars_eq_foldl]
  simp only [Nat.mul_comm]

/-- The digits of a number spell it. -/
theorem decimal_toDigits (n : ℕ) : decimal (Nat.toDigits 10 n) = n := by
  rw [decimal_eq_ofDigitChars, Nat.ofDigitChars_ten_toDigits]

/-- Zeros spell zero. -/
theorem decimal_replicate_zero (k : ℕ) : decimal (List.replicate k '0') = 0 := by
  rw [decimal_eq_ofDigitChars, Nat.ofDigitChars_replicate_zero, Nat.mul_zero]

/-- The digits of a number are a number of the grammar, and that one. -/
theorem isNumber_toDigits (n : ℕ) : IsNumber (Nat.toDigits 10 n) n := by
  have hnumber := IsNumber.whole (isDigits_toDigits n) Nat.toDigits_ne_nil
  rw [decimal_toDigits] at hnumber
  exact hnumber

/-- Digits only have nothing after the point. -/
theorem IsDigits.places_eq {ds : List Char} (h : IsDigits ds) : places ds = 0 := by
  have hnone : ds.dropWhile (· != '.') = [] :=
    List.dropWhile_eq_nil_iff.mpr fun c hc => ne_point_of_isDigit (h c hc)
  rw [places, hnone]
  rfl

/-- Digits without a point are read as they are. -/
theorem IsDigits.unpointed_eq {ds : List Char} (h : IsDigits ds) : unpointed ds = decimal ds := by
  rw [unpointed, h.filter_eq]

/-! ## A sign and a number -/

/-- A text without blanks is not trimmed. -/
theorem trim_eq_self {cs : List Char} (h : ∀ c ∈ cs, Text.isBlank c = false) :
    Text.trim cs = cs := by
  have hskip : ∀ l : List Char, (∀ c ∈ l, Text.isBlank c = false) → Text.skipBlanks l = l := by
    intro l hl
    cases l with
    | nil => rfl
    | cons c rest => exact Instant.skipBlanks_cons (hl c List.mem_cons_self) rest
  unfold Text.trim
  rw [hskip cs h, hskip cs.reverse fun c hc => h c (List.mem_reverse.mp hc), List.reverse_reverse]

section

variable {q : Quantity} {pre number : List Char} {s : ℤ} {x : ℚ}

/-- A sign and a number have no blanks around them. -/
theorem trim_written (hsign : IsSign pre s) (hnumber : IsNumber number x) :
    Text.trim (pre ++ number) = pre ++ number := by
  apply trim_eq_self
  intro c hc
  rcases List.mem_append.mp hc with hc | hc
  · have hpre : ∀ c ∈ pre, Text.isBlank c = false := by
      cases hsign with
      | none => exact List.forall_mem_nil _
      | plus => exact List.forall_mem_singleton.mpr rfl
      | minus => exact List.forall_mem_singleton.mpr rfl
    exact hpre c hc
  · have hnumeric := hnumber.isNumeric c hc
    unfold isNumeric at hnumeric
    rcases Bool.or_eq_true_iff.mp hnumeric with hdigit | hpoint
    · exact Instant.isBlank_of_isDigit hdigit
    · rw [eq_of_beq hpoint]
      rfl

/-- A sign and a number stand for their product. -/
theorem denotes_of_written (hq : q.text.toList = pre ++ number) (hsign : IsSign pre s)
    (hnumber : IsNumber number x) : q.Denotes (s * x) := by
  have hspells := Spells.mk hsign hnumber (@IsMultiplier.decimal [] 0 (by decide))
  rw [List.append_nil, zpow_zero, mul_one, ← trim_written hsign hnumber, ← hq] at hspells
  exact ⟨s, x, hspells, rfl⟩

end

/-! ## Integers -/

/-- A signed number is a sign and its digits. -/
theorem exists_sign_signed (negative : Bool) (n : ℕ) :
    ∃ pre, signed negative n = pre ++ Nat.toDigits 10 n ∧ IsSign pre (factor negative) := by
  cases negative with
  | true => exact ⟨['-'], rfl, .minus⟩
  | false => exact ⟨[], rfl, .none⟩

/-- An integer is its sign times its magnitude. -/
theorem factor_mul_natAbs (n : ℤ) : factor (decide (n < 0)) * n.natAbs = n := by
  unfold factor
  by_cases h : n < 0
  · rw [decide_eq_true h, if_pos rfl]
    omega
  · rw [decide_eq_false h, if_neg Bool.false_ne_true]
    omega

/-- An integer stands for itself. -/
theorem denotes_toString (n : ℤ) : (⟨toString n⟩ : Quantity).Denotes n := by
  obtain ⟨pre, hpre, hsign⟩ := exists_sign_signed (decide (n < 0)) n.natAbs
  have hdenotes := denotes_of_written (q := ⟨toString n⟩) ((Json.toList_toString n).trans hpre)
    hsign (isNumber_toDigits n.natAbs)
  rw [← Int.cast_natCast, ← Int.cast_mul, factor_mul_natAbs] at hdenotes
  exact hdenotes

/-- The text of an integer has a value if that is in range. -/
theorem isValid_toString {n : ℤ} (h : n.natAbs * 10 ^ 9 ≤ limit) :
    (⟨toString n⟩ : Quantity).isValid = true := by
  obtain ⟨pre, hpre, hsign⟩ := exists_sign_signed (decide (n < 0)) n.natAbs
  have hnumber := isNumber_toDigits n.natAbs
  have htext : Text.trim (toString n).toList = pre ++ Nat.toDigits 10 n.natAbs ++ [] := by
    rw [Json.toList_toString, hpre, trim_written hsign hnumber, List.append_nil]
  have hdigits := isDigits_toDigits n.natAbs
  apply (nano?_isSome_iff htext hsign hnumber (@IsMultiplier.decimal [] 0 (by decide))).mpr
  apply (inRange_iff_of_decimal (not_mem_binaryUnits (e := 0) rfl)).mpr
  rw [hdigits.unpointed_eq, hdigits.places_eq, decimal_toDigits, zpow_zero, mul_one]
  refine ⟨by omega, by decide, by decide, by exact_mod_cast h, ?_⟩
  intro _
  decide

/-- An integer is worth its billionths if they fit. -/
theorem nano?_toString {n : ℤ} (h : n.natAbs * 10 ^ 9 ≤ limit) :
    (⟨toString n⟩ : Quantity).nano? = some (n * 10 ^ 9) := by
  obtain ⟨m, hm⟩ := isValid_iff.mp (isValid_toString h)
  have hwhole : (n : ℚ) * 10 ^ 9 = ((n * 10 ^ 9 : ℤ) : ℚ) := by push_cast; rfl
  rw [hm, (denotes_toString n).nano?_eq hm, billionths_of_whole hwhole]

/-! ## Binary64 values -/

section

variable {ds fs : List Char} {k : ℕ}

/-- Zeros after a number multiply it by a power of ten. -/
theorem isNumber_append_zeros (hds : IsDigits ds) (hne : ds ≠ []) (k : ℕ) :
    IsNumber (ds ++ List.replicate k '0') (decimal ds * 10 ^ k) := by
  have hnumber := IsNumber.whole (List.forall_mem_append.mpr ⟨hds, isDigits_zeros k⟩)
    (List.append_ne_nil_of_left_ne_nil hne _)
  rw [decimal_append, decimal_replicate_zero, List.length_replicate, Nat.add_zero] at hnumber
  push_cast at hnumber
  exact hnumber

/-- The point of a number divides it by a power of ten. -/
theorem isNumber_point (hds : IsDigits ds) (hfs : IsDigits fs) (hne : ds ≠ []) :
    IsNumber (ds ++ '.' :: fs) (decimal (ds ++ fs) * (10 ^ fs.length)⁻¹) := by
  have hvalue : (decimal (ds ++ fs) * (10 ^ fs.length)⁻¹ : ℚ)
      = decimal ds + decimal fs / 10 ^ fs.length := by
    rw [decimal_append]
    push_cast
    field_simp
  rw [hvalue]
  exact .point hds hfs (Or.inl hne)

/-- A point within digits divides by a power of ten. -/
theorem isNumber_point_within (hds : IsDigits ds) (hk : k < ds.length) :
    IsNumber (ds.take (ds.length - k) ++ '.' :: ds.drop (ds.length - k))
      (decimal ds * (10 ^ k)⁻¹) := by
  have htake : ds.take (ds.length - k) ≠ [] := by
    apply List.ne_nil_of_length_pos
    rw [List.length_take]
    omega
  have hdrop : IsDigits (ds.drop (ds.length - k)) := fun c hc => hds c (List.mem_of_mem_drop hc)
  have hnumber := isNumber_point (fun c hc => hds c (List.mem_of_mem_take hc)) hdrop htake
  rw [List.take_append_drop, List.length_drop, Nat.sub_sub_self (by omega)] at hnumber
  exact hnumber

/-- A point before digits, with zeros where needed, divides by a power of ten. -/
theorem isNumber_point_before (hds : IsDigits ds) (hk : ds.length ≤ k) :
    IsNumber ('0' :: '.' :: (List.replicate (k - ds.length) '0' ++ ds))
      (decimal ds * (10 ^ k)⁻¹) := by
  have hnumber := isNumber_point (isDigits_zeros 1)
    (List.forall_mem_append.mpr ⟨isDigits_zeros (k - ds.length), hds⟩) (List.cons_ne_nil _ _)
  rw [decimal_append, decimal_append, decimal_replicate_zero, decimal_replicate_zero,
    List.length_append, List.length_replicate, Nat.sub_add_cancel hk, Nat.zero_mul, Nat.zero_mul,
    Nat.zero_add, Nat.zero_add] at hnumber
  exact hnumber

end

/-- Written without an exponent, a decimal number is the number that it stands for. -/
theorem isNumber_positional (d : Decimal) : IsNumber d.positional.toList d.value := by
  have hds := isDigits_toDigits d.digits
  rw [Decimal.value, ← decimal_toDigits d.digits]
  unfold Decimal.positional
  by_cases he : 0 ≤ d.exponent
  · -- zeros up to the units place
    obtain ⟨k, hk⟩ := Int.eq_ofNat_of_zero_le he
    rw [if_pos he, hk]
    simpa using isNumber_append_zeros hds Nat.toDigits_ne_nil k
  · -- a point within the digits, or before all of them
    obtain ⟨k, hk⟩ : ∃ k : ℕ, d.exponent = -k := ⟨(-d.exponent).toNat, by omega⟩
    rw [if_neg he, hk, zpow_neg, zpow_natCast]
    dsimp only
    rw [neg_neg, Int.toNat_natCast]
    split
    · next hlt => simpa using isNumber_point_within hds hlt
    · next hlt => simpa using isNumber_point_before hds (by omega)

/-- Written in full, a binary64 value that is not zero stands for its shortest digits. -/
theorem denotes_positional {x : Binary64} (h : x.mantissa ≠ 0) :
    (⟨x.positional⟩ : Quantity).Denotes
      (factor x.negative * (Decimal.shortest .awayFromZero x).value) := by
  have hnumber := isNumber_positional (Decimal.shortest .awayFromZero x)
  have htext : ∃ pre, x.positional.toList
      = pre ++ (Decimal.shortest .awayFromZero x).positional.toList
        ∧ IsSign pre (factor x.negative) := by
    unfold Binary64.positional
    rw [if_neg h, String.toList_append]
    cases x.negative with
    | true => exact ⟨['-'], rfl, .minus⟩
    | false => exact ⟨[], rfl, .none⟩
  obtain ⟨pre, hpre, hsign⟩ := htext
  exact denotes_of_written (q := ⟨x.positional⟩) hpre hsign hnumber

/-! ## Unsigned integers -/

/-- A quotient is rounded to one of the two integers next to it. -/
theorem roundHalfEven_bounds (num den : ℕ) : num / den ≤ Binary64.roundHalfEven num den
    ∧ Binary64.roundHalfEven num den ≤ num / den + 1 := by
  unfold Binary64.roundHalfEven
  dsimp only
  split
  · omega
  · split
    · omega
    · split <;> omega

/-- A number that needs 64 bits has its highest one at the sixty-third. -/
theorem floorLog2_unsigned {n : ℕ} (hlow : 2 ^ 63 ≤ n) (hhigh : n < 2 ^ 64) :
    Binary64.floorLog2 n 1 = 63 := by
  have hlog : Nat.log2 n = 63 := (Nat.log2_eq_iff (by omega)).mpr ⟨hlow, hhigh⟩
  have hone : Nat.log2 1 = 0 := by decide
  have hfits : 1 * Nat.pow 2 63 ≤ n := by
    rw [Nat.one_mul]
    exact hlow
  unfold Binary64.floorLog2
  rw [hlog, hone]
  exact if_pos hfits

/-- From `2 ^ 63` to `2 ^ 64` the values of the format are the multiples of `2 ^ 11`. -/
theorem nearest?_unsigned {n : ℕ} (hlow : 2 ^ 63 ≤ n) (hhigh : n < 2 ^ 64) :
    ∃ m e, Binary64.nearest? n 1 = some (m, e)
      ∧ (e = 11 ∧ 2 ^ 52 ≤ m ∧ m < 2 ^ 53 ∨ e = 12 ∧ m = 2 ^ 52) := by
  have hnearest : Binary64.nearest? n 1
      = if Binary64.roundHalfEven n (2 ^ 11) = 2 ^ 53 then some (2 ^ 52, 12)
        else some (Binary64.roundHalfEven n (2 ^ 11), 11) := by
    have hexponent : max ((63 : ℤ) - 52) Binary64.minExponent = 11 := by decide
    have hgrid : Binary64.scaled 1 (-11) = (1, 2 ^ 11) := rfl
    unfold Binary64.nearest?
    rw [if_neg (by omega), floorLog2_unsigned hlow hhigh, hexponent]
    dsimp only
    rw [hgrid]
    dsimp only
    rw [Nat.mul_one, Nat.one_mul]
    show _ = if _ = 2 * Binary64.leastNormal then _ else _
    split
    · rfl
    · rfl
  have hround := roundHalfEven_bounds n (2 ^ 11)
  rw [hnearest]
  -- rounding up may reach the next power of two
  by_cases h : Binary64.roundHalfEven n (2 ^ 11) = 2 ^ 53
  · exact ⟨_, _, if_pos h, Or.inr ⟨rfl, rfl⟩⟩
  · exact ⟨_, _, if_neg h, Or.inl ⟨rfl, by omega, by omega⟩⟩

/-- The shortest digits of the least of these values are above it, and those of the others are
near enough to them. -/
theorem le_value_shortest {m : ℕ} {e : ℤ}
    (h : e = 11 ∧ 2 ^ 52 ≤ m ∧ m < 2 ^ 53 ∨ e = 12 ∧ m = 2 ^ 52) :
    2 ^ 63 ≤ (Decimal.shortest .awayFromZero ⟨false, m, e⟩).value := by
  by_cases hleast : m = 2 ^ 52 ∧ e = 11
  · -- half a unit below this one is less than `2 ^ 63`, so its digits have to be known
    obtain ⟨rfl, rfl⟩ := hleast
    have hdigits : Decimal.shortest .awayFromZero ⟨false, 2 ^ 52, 11⟩ = ⟨9223372036854776, 3⟩ := by
      decide
    rw [hdigits, Decimal.value]
    norm_num
  · have hnear := Decimal.shortest_near .awayFromZero (x := ⟨false, m, e⟩) (by dsimp only; omega)
      (by dsimp only; omega)
    dsimp only at hnear
    rcases h with ⟨rfl, hlow, -⟩ | ⟨rfl, rfl⟩
    · have hnext : 2 ^ 52 + 1 ≤ m := by omega
      have hm : (2 ^ 52 + 1 : ℚ) ≤ m := by exact_mod_cast hnext
      norm_num at hnear ⊢
      have hbelow := (abs_le.mp hnear).1
      linarith
    · norm_num at hnear ⊢
      have hbelow := (abs_le.mp hnear).1
      linarith

/-- An integer that fits 64 bits only without a sign is read, and stands for a number that is no
less than the least of its kind. -/
theorem exists_ofJson?_unsigned {n : ℤ} (hlow : 2 ^ 63 ≤ n) (hhigh : n < 2 ^ 64) :
    ∃ q v, ofJson? (.int n) = some q ∧ q.Denotes v ∧ 2 ^ 63 ≤ v := by
  obtain ⟨m, e, hnearest, hme⟩ := nearest?_unsigned (n := n.natAbs) (by omega) (by omega)
  have hread : ofJson? (.int n) = some ⟨(⟨false, m, e⟩ : Binary64).positional⟩ := by
    have hsign : decide (n < 0) = false := decide_eq_false (by omega)
    unfold ofJson?
    dsimp only
    rw [if_neg (by omega), Binary64.ofNat?, hnearest, hsign]
    rfl
  have hdenotes := denotes_positional (x := ⟨false, m, e⟩) (by dsimp only; omega)
  rw [factor, if_neg Bool.false_ne_true, Int.cast_one, one_mul] at hdenotes
  exact ⟨_, _, hread, hdenotes, le_value_shortest hme⟩

/-! ## Reading and comparing -/

/-- An integer of 64 signed bits is read as its text. -/
theorem ofJson?_signed {i : ℤ} (hlow : -2 ^ 63 ≤ i) (hhigh : i < 2 ^ 63) :
    ofJson? (.int i) = some ⟨toString i⟩ := by
  have hfits : -0x8000000000000000 ≤ i ∧ i ≤ 0x7fffffffffffffff := by omega
  exact if_pos hfits

/-- The billionths of an integer of 64 signed bits fit. -/
theorem natAbs_mul_le_limit {i : ℤ} (hlow : -2 ^ 63 ≤ i) (hhigh : i < 2 ^ 63) :
    i.natAbs * 10 ^ 9 ≤ limit := by
  unfold limit
  omega

/-- What stands for more billionths than the value of a quantity is above it, even where it has no
value itself. -/
theorem compare_eq_lt {a b : Quantity} {m n : ℤ} {v w : ℚ} (ha : a.nano? = some m)
    (hb : b.Denotes w) (hn : v * 10 ^ 9 = n) (hmn : m < n) (hle : v ≤ w) :
    a.compare b = .lt := by
  cases hvalue : b.nano? with
  | none =>
    unfold Quantity.compare
    rw [ha, hvalue]
  | some k =>
    have hnk : n ≤ k := by
      rw [hb.nano?_eq hvalue, ← billionths_of_whole hn]
      exact billionths_mono hle
    rw [compare_of_nano? ha hvalue]
    exact Std.compare_eq_lt.mpr (by omega)

/-- The quantity of an integer of 64 signed bits is compared like the integer with what is read
from any other. -/
theorem exists_compare_eq_cmp {i j : ℤ} (hlow : -2 ^ 63 ≤ i) (hhigh : i < 2 ^ 63)
    (hlow' : -2 ^ 63 ≤ j) (hhigh' : j < 2 ^ 64) :
    ∃ q, ofJson? (.int j) = some q ∧ (⟨toString i⟩ : Quantity).compare q = cmp i j := by
  have hi := nano?_toString (natAbs_mul_le_limit hlow hhigh)
  by_cases hsigned : j < 2 ^ 63
  · have hj := nano?_toString (natAbs_mul_le_limit hlow' hsigned)
    refine ⟨_, ofJson?_signed hlow' hsigned, ?_⟩
    calc (⟨toString i⟩ : Quantity).compare ⟨toString j⟩
        = Ord.compare (i * 10 ^ 9) (j * 10 ^ 9) := compare_of_nano? hi hj
      _ = cmp (i * 10 ^ 9) (j * 10 ^ 9) := (cmp_eq_compare _ _).symm
      _ = cmp i j := cmp_mul_pos_right (by norm_num) i j
  · -- above all signed ones, and so is what it stands for
    obtain ⟨q, v, hread, hdenotes, hv⟩ := exists_ofJson?_unsigned (by omega) hhigh'
    have hleast : (2 ^ 63 * 10 ^ 9 : ℚ) = (2 ^ 63 * 10 ^ 9 : ℤ) := by norm_num
    have hij : i < j := by omega
    exact ⟨q, hread, (compare_eq_lt hi hdenotes hleast (by omega) hv).trans
      ((cmp_eq_lt_iff i j).mpr hij).symm⟩

/-- A quantity reads back from what it is written as. -/
theorem ofJson?_toJson (q : Quantity) : Json.parse? q.toJson.render = some q.toJson
    ∧ ofJson? q.toJson = some q :=
  ⟨Json.parse?_quote q.text, rfl⟩

/-- An integer of 64 signed bits is read from its digits as a quantity worth exactly that many whole
units, which is compared with those of all other integers that can be read like the integers
themselves, and reads back from what it is written as. -/
theorem bare_integer_exact {i : ℤ} (hlow : -2 ^ 63 ≤ i) (hhigh : i < 2 ^ 63) :
    ∃ q, Json.parse? (toString i) = some (.int i) ∧ ofJson? (.int i) = some q
      ∧ q.isValid = true ∧ q.nano? = some (i * 10 ^ 9)
      ∧ (∀ s j, Json.parse? s = some (.int j) →
        ∃ q', ofJson? (.int j) = some q' ∧ q.compare q' = cmp i j)
      ∧ Json.parse? q.toJson.render = some q.toJson ∧ ofJson? q.toJson = some q := by
  have hfits := natAbs_mul_le_limit hlow hhigh
  refine ⟨_, Json.parse?_toString hlow (by omega), ofJson?_signed hlow hhigh,
    isValid_toString hfits, nano?_toString hfits, ?_, ofJson?_toJson _⟩
  intro s j hj
  obtain ⟨hlow', hhigh'⟩ := Json.range_of_parse? hj
  exact exists_compare_eq_cmp hlow hhigh hlow' hhigh'

/-- The least integer is worth its billionths, and is below the greatest, which is read as the
binary64 value next to it. -/
theorem bare_integer_exact_least :
    (⟨"-9223372036854775808"⟩ : Quantity).nano? = some (-9223372036854775808000000000)
      ∧ (⟨"-9223372036854775808"⟩ : Quantity).compare ⟨"18446744073709552000"⟩ = .lt := by
  obtain ⟨q, -, hread, -, hnano, hcompare, -, -⟩ :=
    bare_integer_exact (i := -2 ^ 63) (by decide) (by decide)
  have hleast : ofJson? (.int (-2 ^ 63)) = some ⟨"-9223372036854775808"⟩ := by decide
  have hgreatest : ofJson? (.int (2 ^ 64 - 1)) = some ⟨"18446744073709552000"⟩ := by decide
  obtain rfl := Option.some.inj (hleast.symm.trans hread)
  obtain ⟨q', hread', hlt⟩ := hcompare (toString (2 ^ 64 - 1 : ℤ)) (2 ^ 64 - 1)
    (Json.parse?_toString (by decide) (by decide))
  obtain rfl := Option.some.inj (hgreatest.symm.trans hread')
  exact ⟨hnano, hlt⟩

end BuildFleet.Quantity
