import BuildFleet.Proofs.Quantity.Reading
import BuildFleet.Proofs.Quantity.Value

/-!
# Which quantities have a value

A value is computed in integers of 128 bits and exponents in integers of 32, and a quantity has no
value if the computation leaves their range, be it on the way to a value that is in range. The
digits are read as one number without their point. With a power of ten they are then multiplied or
divided in one go, and with a power of two they are multiplied first, and what comes after the point
is divided off at the end.

> `mantissa?_eq_within`, `scale?_isSome_iff`: a step stays in range if its result does, except that
> a power of ten has to fit also where it multiplies zero;
> `nano?_isSome_iff`: so a quantity has a value exactly if its magnitude fits, its digits and its
> exponent do, and for a binary multiplier what is there before the division does.
-/

namespace BuildFleet.Quantity

/-! ## The steps -/

/-- A number fits if it is at most the limit. -/
theorem within_isSome_iff {n : ℕ} : (within n).isSome = true ↔ n ≤ limit := by
  unfold within
  split <;> simp_all

/-- A number in range stays there when it is divided by a power of ten. -/
theorem mul_zpow_le_limit {n : ℕ} {e : ℤ} (hn : n ≤ limit) (he : e ≤ 0) :
    (n : ℚ) * 10 ^ e ≤ limit := by
  have hpow : (10 : ℚ) ^ e ≤ 1 := zpow_le_one_of_nonpos₀ (by norm_num) he
  calc (n : ℚ) * 10 ^ e ≤ n * 1 := by gcongr
    _ = n := mul_one _
    _ ≤ limit := by exact_mod_cast hn

/-- Only small powers of ten leave a positive number in range. -/
theorem le_of_mul_pow_le {n k : ℕ} (hn : 0 < n) (h : n * 10 ^ k ≤ limit) : k ≤ 38 := by
  have hpow : 10 ^ k < 10 ^ 39 := calc
    10 ^ k ≤ n * 10 ^ k := Nat.le_mul_of_pos_left _ hn
    _ ≤ limit := h
    _ < 10 ^ 39 := limit_lt_pow
  have hlt : k < 39 := (Nat.pow_lt_pow_iff_right (by norm_num)).mp hpow
  omega

/-- Multiplying by a power of ten needs the power and the product to fit. -/
theorem scale?_natCast_isSome_iff {n k : ℕ} :
    (scale? n k).isSome = true ↔ k ≤ 38 ∧ n * 10 ^ k ≤ limit := by
  rw [scale?, if_pos (Int.natCast_nonneg k), Int.toNat_natCast, powTen?]
  split
  · next hk => rw [Option.bind_some, within_isSome_iff, and_iff_right hk]; rfl
  · next hk => exact iff_of_false Bool.false_ne_true fun h => hk h.1

/-- Scaling a number that is in range stays there if its result does. Of zero, too, only multiples
by a power of ten that is in range can be taken. -/
theorem scale?_isSome_iff {n : ℕ} {e : ℤ} (hn : n ≤ limit) : (scale? n e).isSome = true
    ↔ (n : ℚ) * 10 ^ e ≤ limit ∧ (n = 0 → e ≤ 38) := by
  by_cases he : 0 ≤ e
  · obtain ⟨k, rfl⟩ := Int.eq_ofNat_of_zero_le he
    have hcast : (n : ℚ) * 10 ^ (k : ℤ) ≤ limit ↔ n * 10 ^ k ≤ limit := by
      rw [zpow_natCast]
      exact_mod_cast Iff.rfl
    rw [scale?_natCast_isSome_iff, hcast, and_comm]
    refine and_congr_right fun hle => ⟨fun hk _ => by omega, fun hzero => ?_⟩
    rcases Nat.eq_zero_or_pos n with hn | hn
    · have hk := hzero hn
      omega
    · exact le_of_mul_pow_le hn hle
  · refine iff_of_true ?_ ⟨mul_zpow_le_limit hn (by omega), fun _ => by omega⟩
    rw [scale?, if_neg he]
    split <;> rfl

/-- Dividing never leaves the range. -/
theorem scale?_neg_isSome {n : ℕ} (hn : n ≤ limit) (k : ℕ) : (scale? n (-k)).isSome = true :=
  (scale?_isSome_iff hn).mpr ⟨mul_zpow_le_limit hn (by omega), fun _ => by omega⟩

/-! ## The magnitude -/

theorem isSome_guard_bind {α β : Type} {c : Prop} [Decidable c] {a : α} {f : α → Option β} :
    ((if c then some a else none).bind f).isSome = true ↔ c ∧ (f a).isSome = true := by
  split
  · next h => exact (and_iff_right h).symm
  · next h => exact iff_of_false Bool.false_ne_true fun hc => h hc.1

/-- With a power of ten the digits are multiplied or divided in one go. -/
theorem Spelling.magnitude?_decimal {s : Spelling} {e : ℤ} (h : s.suffix = .decimal e) :
    s.magnitude?.isSome = true ↔ numeral (s.whole ++ s.fraction) ≤ limit
      ∧ s.fraction.length < 2 ^ 31 ∧ (e + 9 < 2 ^ 31 ∧ -2 ^ 31 ≤ e + 9 - s.fraction.length)
      ∧ s.magnitude * 10 ^ 9 ≤ limit
      ∧ (numeral (s.whole ++ s.fraction) = 0 → e + 9 ≤ s.fraction.length + 38) := by
  have hvalue : s.magnitude * 10 ^ 9
      = numeral (s.whole ++ s.fraction) * 10 ^ (e + 9 - s.fraction.length) := by
    rw [magnitude, h, Suffix.factor, zpow_sub₀ (by norm_num), zpow_add₀ (by norm_num), zpow_natCast]
    ring
  rw [hvalue]
  unfold magnitude? places?
  rw [mantissa?_eq_within, within, isSome_guard_bind, isSome_guard_bind, h]
  refine and_congr_right fun hle => and_congr (by omega) ?_
  dsimp only
  by_cases he : e + 9 ≤ 0x7fffffff ∧ -0x80000000 ≤ e + 9 - s.fraction.length
  · rw [if_pos he, scale?_isSome_iff hle]
    refine (and_iff_right ?_).symm.trans (and_congr_right fun _ => and_congr_right fun _ => ?_)
    · omega
    · exact imp_congr_right fun _ => by omega
  · rw [if_neg he]
    exact iff_of_false Bool.false_ne_true fun hall => he (by omega)

/-- With a power of two they are multiplied first, and what comes after the point is divided off. -/
theorem Spelling.magnitude?_binary {s : Spelling} {bits : ℕ} (h : s.suffix = .binary bits) :
    s.magnitude?.isSome = true ↔ numeral (s.whole ++ s.fraction) ≤ limit
      ∧ s.fraction.length < 2 ^ 31 ∧ s.magnitude * 10 ^ 9 * 10 ^ s.fraction.length ≤ limit := by
  have hvalue : s.magnitude * 10 ^ 9 * 10 ^ s.fraction.length
      = ((numeral (s.whole ++ s.fraction) * 2 ^ bits * 10 ^ 9 : ℕ) : ℚ) := by
    rw [magnitude, h, Suffix.factor]
    push_cast
    field_simp
    norm_num
  rw [hvalue, Nat.cast_le]
  unfold magnitude? places?
  rw [mantissa?_eq_within, within, isSome_guard_bind, isSome_guard_bind, h]
  refine and_congr_right fun _ => and_congr (by omega) ?_
  dsimp only
  rw [Nat.pow_eq, within, isSome_guard_bind, within, isSome_guard_bind]
  constructor
  · intro h
    exact h.2.1
  · intro hle
    exact ⟨by omega, hle, scale?_neg_isSome hle _⟩

/-! ## The whole text -/

/-- The value of a number `x` times a multiplier `m` can be computed in range. -/
structure InRange (number multiplier : List Char) (x m : ℚ) : Prop where
  /-- The magnitude fits. -/
  magnitude : ⌈x * m * 10 ^ 9⌉ ≤ (limit : ℤ)
  /-- The digits, read without their point, fit. -/
  digits : unpointed number ≤ limit
  /-- With a binary multiplier, the magnitude fits before what comes after the point is divided
  off. -/
  undivided : ∀ bits, (multiplier, bits) ∈ binaryUnits →
    x * m * 10 ^ 9 * 10 ^ places number ≤ limit
  /-- The digits after the point can be counted in 32 bits. -/
  counted : places number < 2 ^ 31
  /-- The exponent in billionths fits 32 bits, also once the digits after the point are counted
  off. -/
  exponent : ∀ e : ℤ, m = 10 ^ e → e + 9 < 2 ^ 31 ∧ -2 ^ 31 ≤ e + 9 - places number
  /-- The power of ten that the digits are multiplied by fits even if they are all zero. -/
  zero : ∀ e : ℤ, m = 10 ^ e → x = 0 → e + 9 ≤ places number + 38

/-- With a decimal multiplier, what counts are the digits, how many come after the point, the
exponent and the magnitude. -/
theorem inRange_iff_of_decimal {number multiplier : List Char} {x : ℚ} {e : ℤ}
    (hunit : ∀ bits, (multiplier, bits) ∉ binaryUnits) :
    InRange number multiplier x (10 ^ e) ↔ unpointed number ≤ limit ∧ places number < 2 ^ 31
      ∧ (e + 9 < 2 ^ 31 ∧ -2 ^ 31 ≤ e + 9 - places number) ∧ x * 10 ^ e * 10 ^ 9 ≤ limit
      ∧ (x = 0 → e + 9 ≤ places number + 38) := by
  have hexponent : ∀ {e' : ℤ}, (10 : ℚ) ^ e = 10 ^ e' → e' = e := fun he' =>
    zpow_right_injective₀ (by norm_num) (by norm_num) he'.symm
  constructor
  · intro h
    exact ⟨h.digits, h.counted, h.exponent e rfl, by exact_mod_cast Int.ceil_le.mp h.magnitude,
      h.zero e rfl⟩
  · intro h
    obtain ⟨hdigits, hplaces, he, hvalue, hzero⟩ := h
    refine ⟨Int.ceil_le.mpr (by exact_mod_cast hvalue), hdigits,
      fun bits hbits => absurd hbits (hunit bits), hplaces, ?_, ?_⟩
    · intro e' he'
      rwa [hexponent he']
    · intro e' he'
      rwa [hexponent he']

/-- A binary unit that were a power of ten would be a small one. -/
theorem exponent_of_binaryUnits {unit : List Char} {bits : ℕ} {e : ℤ}
    (h : (unit, bits) ∈ binaryUnits) (he : (2 : ℚ) ^ bits = 10 ^ e) : 0 ≤ e ∧ e < 19 := by
  have hunits : ∀ u ∈ binaryUnits, u.2 ≤ 60 := by decide
  have hle : (10 : ℚ) ^ (0 : ℤ) ≤ 10 ^ e := calc
    (10 : ℚ) ^ (0 : ℤ) = 1 := zpow_zero _
    _ ≤ 2 ^ bits := one_le_pow₀ (by norm_num)
    _ = 10 ^ e := he
  have hlt : (10 : ℚ) ^ e < 10 ^ (19 : ℤ) := calc
    (10 : ℚ) ^ e = 2 ^ bits := he.symm
    _ ≤ 2 ^ 60 := pow_le_pow_right₀ (by norm_num) (hunits _ h)
    _ < 10 ^ (19 : ℤ) := by norm_num
  exact ⟨(zpow_le_zpow_iff_right₀ (by norm_num)).mp hle,
    (zpow_lt_zpow_iff_right₀ (by norm_num)).mp hlt⟩

/-- With a binary multiplier, what counts are the digits, how many come after the point, and the
magnitude before these are divided off. -/
theorem inRange_iff_of_binary {number multiplier : List Char} {x : ℚ} {bits : ℕ} (hx : 0 ≤ x)
    (hunit : (multiplier, bits) ∈ binaryUnits) :
    InRange number multiplier x (2 ^ bits) ↔ unpointed number ≤ limit ∧ places number < 2 ^ 31
      ∧ x * 2 ^ bits * 10 ^ 9 * 10 ^ places number ≤ limit := by
  constructor
  · intro h
    exact ⟨h.digits, h.counted, h.undivided bits hunit⟩
  · intro h
    obtain ⟨hdigits, hplaces, hvalue⟩ := h
    -- before the division there is at least what there is after it
    have hle : x * 2 ^ bits * 10 ^ 9 ≤ x * 2 ^ bits * 10 ^ 9 * 10 ^ places number :=
      le_mul_of_one_le_right (by positivity) (one_le_pow₀ (by norm_num))
    refine ⟨Int.ceil_le.mpr (by exact_mod_cast hle.trans hvalue), hdigits, fun _ _ => hvalue,
      hplaces, ?_, ?_⟩
    · intro e he
      have hsmall := exponent_of_binaryUnits hunit he
      omega
    · intro e he _
      have hsmall := exponent_of_binaryUnits hunit he
      omega

/-- A number is zero exactly if its digits are. -/
theorem IsNumber.eq_zero_iff {number : List Char} {x : ℚ} (h : IsNumber number x) :
    unpointed number = 0 ↔ x = 0 := by
  rw [h.eq_div, div_eq_zero_iff, or_iff_left (by positivity), Nat.cast_eq_zero]

/-- A suffix that is read as a power of two is a binary unit. -/
theorem mem_binaryUnits {cs : List Char} {bits : ℕ} (h : suffix? cs = some (.binary bits)) :
    (cs, bits) ∈ binaryUnits := by
  unfold suffix? at h
  split at h
  -- an exponent stands for a power of ten
  case h_17 | h_18 =>
    obtain ⟨e, -, he⟩ := Option.map_eq_some_iff.mp h
    cases he
  all_goals simp_all [binaryUnits]

/-- A suffix that is read as a power of ten is no binary unit. -/
theorem not_mem_binaryUnits {cs : List Char} {e : ℤ} (h : suffix? cs = some (.decimal e))
    (bits : ℕ) : (cs, bits) ∉ binaryUnits := by
  intro hbits
  rw [suffix?_binaryUnits _ hbits] at h
  cases h

/-- A quantity that can be read has a value if its magnitude has one. -/
theorem nano?_isSome {q : Quantity} {p : Spelling}
    (h : spelling? (Text.trim q.text.toList) = some p) :
    q.nano?.isSome = p.magnitude?.isSome := by
  unfold nano?
  rw [h, Option.bind_some, Spelling.nano?]
  cases p.magnitude? <;> rfl

/-- A quantity that is written as a sign, a number and a multiplier has a value exactly if the
computation stays in range. -/
theorem nano?_isSome_iff {q : Quantity} {pre number multiplier : List Char} {s : ℤ} {x m : ℚ}
    (hq : Text.trim q.text.toList = pre ++ number ++ multiplier) (hsign : IsSign pre s)
    (hnumber : IsNumber number x) (hmultiplier : IsMultiplier multiplier m) :
    q.nano?.isSome = true ↔ InRange number multiplier x m := by
  obtain ⟨p, hp, -, hdigits, hplaces, hk, rfl⟩ := spelling?_of_written hsign hnumber hmultiplier
  have hvalue : p.magnitude = x * p.suffix.factor := by
    rw [Spelling.magnitude, hdigits, hplaces, hnumber.eq_div]
  rw [nano?_isSome (hq ▸ hp)]
  cases hsuffix : p.suffix with
  | decimal e =>
    have hunit := not_mem_binaryUnits (hk.trans (congrArg some hsuffix))
    rw [Spelling.magnitude?_decimal hsuffix, hdigits, hplaces, hvalue, hsuffix,
      hnumber.eq_zero_iff]
    exact (inRange_iff_of_decimal hunit).symm
  | binary bits =>
    have hunit := mem_binaryUnits (hk.trans (congrArg some hsuffix))
    rw [Spelling.magnitude?_binary hsuffix, hdigits, hplaces, hvalue, hsuffix]
    exact (inRange_iff_of_binary hnumber.nonneg hunit).symm

/-- Minus one and a half `Gi`. -/
theorem nano?_isSome_iff_gibi : (⟨" -1.5Gi"⟩ : Quantity).nano?.isSome = true
    ∧ InRange ['1', '.', '5'] ['G', 'i'] (3 / 2) (2 ^ 30) := by
  have hvalue : (⟨" -1.5Gi"⟩ : Quantity).nano?.isSome = true := by decide
  have hnumber : IsNumber ['1', '.', '5'] (3 / 2) := by
    have hpoint := @IsNumber.point ['1'] ['5'] (by simp [IsDigits]) (by simp [IsDigits])
      (Or.inl (by decide))
    have hx : (decimal ['1'] + decimal ['5'] / 10 ^ 1 : ℚ) = 3 / 2 := by
      rw [show decimal ['1'] = 1 from rfl, show decimal ['5'] = 5 from rfl]
      norm_num
    exact hx ▸ hpoint
  exact ⟨hvalue, (nano?_isSome_iff (by decide) .minus hnumber (.binary (by decide))).mp hvalue⟩

-- The exponent is small enough, but not once the digits after the point are counted off.
example : (⟨"1.0000000000e-2147483648"⟩ : Quantity).nano? = none := by decide

/-- Zero has no value if it is written with a great exponent. -/
theorem nano?_zero_exponent :
    Spells "0e100".toList 1 0 ∧ (⟨"0e100"⟩ : Quantity).nano? = none := by
  refine ⟨?_, by decide⟩
  have hspells := Spells.mk .none (@IsNumber.whole ['0'] (by simp [IsDigits]) (by decide))
    (@IsMultiplier.exponent 'e' [] ['1', '0', '0'] 1 (Or.inl rfl) .none (by simp [IsDigits])
      (by decide) (by decide))
  rw [show decimal ['0'] = 0 from rfl, Nat.cast_zero, zero_mul] at hspells
  exact hspells

end BuildFleet.Quantity
