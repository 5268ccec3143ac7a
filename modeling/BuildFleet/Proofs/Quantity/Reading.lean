import BuildFleet.Proofs.Quantity.Grammar
import Mathlib.Tactic.Positivity

/-!
# Reading what is written

Every text in the notation of quantities can be taken apart. Nothing in it can be taken for
something else: the digits end before the multiplier because no multiplier starts with a digit or a
point, and a sign is told from what follows it because no number starts with one.

> `IsNumber.eq_div`: a number is told from the digits without the point (`unpointed`) and from how
> many of them come after it (`places`);
> `spelling?_of_written`: a sign, a number and a multiplier in a row are taken apart into these three;
> `Spells.unique`: so no text stands for two values.
-/

namespace BuildFleet.Quantity

/-! ## The digits of a number -/

/-- The number that the digits spell when the point is left out. -/
def unpointed (number : List Char) : ℕ := decimal (number.filter (· != '.'))

/-- How many digits come after the point. -/
def places (number : List Char) : ℕ := ((number.dropWhile (· != '.')).drop 1).length

theorem ne_point_of_isDigit {c : Char} (h : c.isDigit = true) : (c != '.') = true := by
  rw [bne_iff_ne]
  intro hc
  rw [hc] at h
  exact absurd h (by decide)

theorem isNumeric_of_isDigit {c : Char} (h : c.isDigit = true) : isNumeric c = true := by
  rw [isNumeric, h, Bool.true_or]

/-- A test that holds before some place and not in it parts the text there. -/
theorem takeWhile_dropWhile_append {p : Char → Bool} {a b : List Char} (ha : ∀ c ∈ a, p c = true)
    (hb : ∀ c, b.head? = some c → p c = false) :
    (a ++ b).takeWhile p = a ∧ (a ++ b).dropWhile p = b := by
  rw [List.takeWhile_append_of_pos ha, List.dropWhile_append_of_pos ha]
  cases b with
  | nil => exact ⟨List.append_nil a, rfl⟩
  | cons c b =>
    have hc : ¬ p c = true := by
      rw [hb c rfl]
      exact Bool.false_ne_true
    rw [List.takeWhile_cons_of_neg hc, List.dropWhile_cons_of_neg hc]
    exact ⟨List.append_nil a, rfl⟩

/-- A run of digits can be read. -/
theorem digits?_of_isDigits : ∀ {cs : List Char}, IsDigits cs →
    digits? cs = some (cs.map fun c => c.toNat - '0'.toNat)
  | [], _ => rfl
  | c :: cs, h => by
    obtain ⟨hc, hcs⟩ := List.forall_mem_cons.mp h
    exact mapM_cons_eq_some.mpr ⟨_, _, if_pos hc, digits?_of_isDigits hcs, rfl⟩

/-- More digits shift those before them. -/
theorem decimal_append (ds fs : List Char) :
    decimal (ds ++ fs) = decimal ds * 10 ^ fs.length + decimal fs := by
  unfold decimal
  rw [List.reverse_append, List.map_append, Nat.ofDigits_append, List.length_map,
    List.length_reverse]
  ring

/-- The two runs of digits that a number consists of. -/
structure Parts (number ds fs : List Char) : Prop where
  /-- What comes before the point. -/
  whole : number.takeWhile (· != '.') = ds
  /-- What comes after the point. -/
  fraction : (number.dropWhile (· != '.')).drop 1 = fs
  /-- Without the point they are one run. -/
  joined : number.filter (· != '.') = ds ++ fs
  wholeDigits : IsDigits ds
  fractionDigits : IsDigits fs
  nonempty : ds ≠ [] ∨ fs ≠ []

/-- Digits have no point to leave out. -/
theorem IsDigits.filter_eq {ds : List Char} (h : IsDigits ds) : ds.filter (· != '.') = ds :=
  List.filter_eq_self.mpr fun c hc => ne_point_of_isDigit (h c hc)

/-- A number is parted at its point, and has the value of its digits divided by a power of ten. -/
theorem IsNumber.parts {number : List Char} {x : ℚ} (h : IsNumber number x) :
    ∃ ds fs, Parts number ds fs ∧ x = decimal (ds ++ fs) / 10 ^ fs.length := by
  cases h with
  | whole hds hne =>
    have hpoint : ∀ c ∈ number, (c != '.') = true := fun c hc => ne_point_of_isDigit (hds c hc)
    obtain ⟨hwhole, hrest⟩ := takeWhile_dropWhile_append (b := []) hpoint fun c hc => nomatch hc
    rw [List.append_nil] at hwhole hrest
    have hnil : IsDigits [] := fun c hc => absurd hc List.not_mem_nil
    refine ⟨number, [], ⟨hwhole, ?_, ?_, hds, hnil, Or.inl hne⟩, ?_⟩
    · rw [hrest, List.drop_nil]
    · rw [hds.filter_eq, List.append_nil]
    · rw [List.append_nil, List.length_nil, pow_zero, div_one]
  | @point ds fs hds hfs hne =>
    have hpoint : ∀ c ∈ ds, (c != '.') = true := fun c hc => ne_point_of_isDigit (hds c hc)
    obtain ⟨hwhole, hrest⟩ := takeWhile_dropWhile_append (b := '.' :: fs) hpoint
      fun c hc => by rw [← Option.some.inj hc]; rfl
    refine ⟨ds, fs, ⟨hwhole, ?_, ?_, hds, hfs, hne⟩, ?_⟩
    · rw [hrest, List.drop_one, List.tail_cons]
    · rw [List.filter_append, hds.filter_eq, List.filter_cons_of_neg (by decide), hfs.filter_eq]
    · rw [decimal_append]
      push_cast
      field_simp

/-- A number has digits on one side of the point. -/
theorem Parts.not_isEmpty {number ds fs : List Char} (h : Parts number ds fs) :
    ¬ (ds.isEmpty ∧ fs.isEmpty) := by
  rw [List.isEmpty_iff, List.isEmpty_iff, not_and_or]
  exact h.nonempty

/-- Without its point a number is the digits of both sides. -/
theorem Parts.unpointed_eq {number ds fs : List Char} (h : Parts number ds fs) :
    unpointed number = decimal (ds ++ fs) := by
  rw [unpointed, h.joined]

/-- The places of a number are the digits behind its point. -/
theorem Parts.places_eq {number ds fs : List Char} (h : Parts number ds fs) :
    places number = fs.length := by
  rw [places, h.fraction]

/-- Both runs can be read, and give back the digits and their count. -/
theorem Parts.exists_digits {number ds fs : List Char} (h : Parts number ds fs) :
    ∃ ws vs, digits? ds = some ws ∧ digits? fs = some vs
      ∧ numeral (ws ++ vs) = unpointed number ∧ vs.length = places number := by
  refine ⟨_, _, digits?_of_isDigits h.wholeDigits, digits?_of_isDigits h.fractionDigits, ?_, ?_⟩
  · rw [← List.map_append, h.unpointed_eq]
    exact numeral_digits
      (digits?_of_isDigits (List.forall_mem_append.mpr ⟨h.wholeDigits, h.fractionDigits⟩))
  · rw [List.length_map, h.places_eq]

/-- A number is its digits without the point, divided by a power of ten for each place. -/
theorem IsNumber.eq_div {number : List Char} {x : ℚ} (h : IsNumber number x) :
    x = unpointed number / 10 ^ places number := by
  obtain ⟨ds, fs, hparts, hx⟩ := h.parts
  rw [hparts.unpointed_eq, hparts.places_eq, hx]

/-- A number of the grammar is not negative. -/
theorem IsNumber.nonneg {number : List Char} {x : ℚ} (h : IsNumber number x) : 0 ≤ x := by
  rw [h.eq_div]
  positivity

/-- A number consists of digits and a point. -/
theorem IsNumber.isNumeric {number : List Char} {x : ℚ} (h : IsNumber number x) :
    ∀ c ∈ number, isNumeric c = true := by
  intro c hc
  cases h with
  | whole hds => exact isNumeric_of_isDigit (hds c hc)
  | point hds hfs =>
    rcases List.mem_append.mp hc with hc | hc
    · exact isNumeric_of_isDigit (hds c hc)
    · rcases List.mem_cons.mp hc with rfl | hc
      · rfl
      · exact isNumeric_of_isDigit (hfs c hc)

/-- A number of the grammar is not empty. -/
theorem IsNumber.ne_nil {number : List Char} {x : ℚ} (h : IsNumber number x) : number ≠ [] := by
  cases h with
  | whole _ hne => exact hne
  | point => exact List.append_ne_nil_of_right_ne_nil _ (List.cons_ne_nil _ _)

/-! ## The sign -/

/-- A sign is taken off what does not start with one. -/
theorem IsSign.sign_append {pre rest : List Char} {s : ℤ} (h : IsSign pre s)
    (hrest : ∀ c, rest.head? = some c → isNumeric c = true) :
    ∃ negative, factor negative = s ∧ sign (pre ++ rest) = (negative, rest) := by
  cases h with
  | plus => exact ⟨false, rfl, rfl⟩
  | minus => exact ⟨true, rfl, rfl⟩
  | none =>
    refine ⟨false, rfl, ?_⟩
    rw [List.nil_append]
    unfold sign
    split
    · exact absurd (hrest '-' rfl) (by decide)
    · exact absurd (hrest '+' rfl) (by decide)
    · rfl

/-! ## The multiplier -/

/-- An exponent in range is read as it is spelled. -/
theorem exponent?_append {pre ds : List Char} {s : ℤ} (hsign : IsSign pre s) (hds : IsDigits ds)
    (hne : ds ≠ []) (hrange : -2 ^ 31 ≤ s * decimal ds ∧ s * decimal ds < 2 ^ 31) :
    exponent? (pre ++ ds) = some (s * decimal ds) := by
  have hdigits := digits?_of_isDigits hds
  obtain ⟨negative, rfl, happend⟩ := hsign.sign_append fun c hc =>
    isNumeric_of_isDigit (hds c (List.mem_of_head? hc))
  rw [exponent?_eq, happend, if_neg (by simpa using hne), hdigits, Option.bind_some,
    numeral_digits hdigits]
  cases negative with
  | true =>
    simp only [factor, if_true] at hrange ⊢
    rw [if_pos (by omega), neg_one_mul]
  | false =>
    simp only [factor, Bool.false_eq_true, if_false] at hrange ⊢
    rw [if_pos (by omega), one_mul]

/-- Each decimal unit is read as its power of ten. -/
theorem suffix?_decimalUnits : ∀ u ∈ decimalUnits, suffix? u.1 = some (.decimal u.2) := by decide

/-- Each binary unit is read as its power of two. -/
theorem suffix?_binaryUnits : ∀ u ∈ binaryUnits, suffix? u.1 = some (.binary u.2) := by decide

/-- An `E` is a unit only if nothing, or an `i`, comes after it. -/
theorem suffix?_exponent {c : Char} {cs : List Char} (hc : c = 'e' ∨ c = 'E') (hne : cs ≠ [])
    (hcs : 'i' ∉ cs) : suffix? (c :: cs) = (exponent? cs).map .decimal := by
  rcases hc with rfl | rfl
  · rfl
  · unfold suffix?
    split <;> simp_all

/-- A multiplier of the grammar is read as a suffix with its factor. -/
theorem IsMultiplier.suffix?_eq {multiplier : List Char} {m : ℚ} (h : IsMultiplier multiplier m) :
    ∃ k, suffix? multiplier = some k ∧ k.factor = m := by
  cases h with
  | decimal hunit => exact ⟨_, suffix?_decimalUnits _ hunit, rfl⟩
  | binary hunit => exact ⟨_, suffix?_binaryUnits _ hunit, rfl⟩
  | @exponent c pre ds s hc hsign hds hne hrange =>
    have hpre : 'i' ∉ pre := by cases hsign <;> decide
    have hcs : 'i' ∉ pre ++ ds := by
      rw [List.mem_append, not_or]
      exact ⟨hpre, fun hi => absurd (hds 'i' hi) (by decide)⟩
    refine ⟨.decimal (s * Quantity.decimal ds), ?_, rfl⟩
    rw [suffix?_exponent hc (List.append_ne_nil_of_right_ne_nil pre hne) hcs,
      exponent?_append hsign hds hne hrange, Option.map_some]

/-- A multiplier is positive. -/
theorem IsMultiplier.pos {multiplier : List Char} {m : ℚ} (h : IsMultiplier multiplier m) :
    0 < m := by
  cases h with
  | decimal | exponent => exact zpow_pos (by norm_num) _
  | binary => exact pow_pos (by norm_num) _

/-- No multiplier starts like a number. -/
theorem IsMultiplier.not_isNumeric {multiplier : List Char} {m : ℚ} (h : IsMultiplier multiplier m) :
    ∀ c, multiplier.head? = some c → isNumeric c = false := by
  cases h with
  | decimal hunit =>
    have hunits : ∀ u ∈ decimalUnits, u.1.head?.any isNumeric = false := by decide
    intro c hc
    rw [← hunits _ hunit, hc, Option.any_some]
  | binary hunit =>
    have hunits : ∀ u ∈ binaryUnits, u.1.head?.any isNumeric = false := by decide
    intro c hc
    rw [← hunits _ hunit, hc, Option.any_some]
  | exponent hc =>
    intro c hhead
    rw [← Option.some.inj hhead]
    rcases hc with rfl | rfl <;> rfl

/-! ## The whole text -/

/-- What is written as a quantity is taken apart into what it was written from. -/
theorem spelling?_of_written {pre number multiplier : List Char} {s : ℤ} {x m : ℚ}
    (hsign : IsSign pre s) (hnumber : IsNumber number x) (hmultiplier : IsMultiplier multiplier m) :
    ∃ p, spelling? (pre ++ number ++ multiplier) = some p ∧ factor p.negative = s
      ∧ numeral (p.whole ++ p.fraction) = unpointed number ∧ p.fraction.length = places number
      ∧ suffix? multiplier = some p.suffix ∧ p.suffix.factor = m := by
  obtain ⟨ds, fs, hparts, -⟩ := hnumber.parts
  obtain ⟨ws, vs, hws, hvs, hdigits, hplaces⟩ := hparts.exists_digits
  obtain ⟨k, hk, hm⟩ := hmultiplier.suffix?_eq
  obtain ⟨hbefore, hafter⟩ :=
    takeWhile_dropWhile_append hnumber.isNumeric hmultiplier.not_isNumeric
  have hhead : ∀ c, (number ++ multiplier).head? = some c → isNumeric c = true := by
    intro c hc
    rw [List.head?_append_of_ne_nil number hnumber.ne_nil] at hc
    exact hnumber.isNumeric c (List.mem_of_head? hc)
  obtain ⟨negative, hs, hrest⟩ := hsign.sign_append hhead
  refine ⟨⟨negative, ws, vs, k⟩, ?_, hs, hdigits, hplaces, hk, hm⟩
  rw [List.append_assoc]
  unfold spelling?
  rw [hrest]
  dsimp only
  rw [hbefore, hafter, hparts.whole, hparts.fraction, if_neg hparts.not_isEmpty, hws, hvs, hk]
  rfl

/-- What the grammar spells is read, with that sign and magnitude. -/
theorem Spells.exists_spelling {cs : List Char} {s : ℤ} {x : ℚ} (h : Spells cs s x) :
    ∃ p, spelling? cs = some p ∧ factor p.negative = s ∧ p.magnitude = x := by
  cases h with
  | mk hsign hnumber hmultiplier =>
    obtain ⟨p, hp, hs, hdigits, hplaces, -, hm⟩ := spelling?_of_written hsign hnumber hmultiplier
    refine ⟨p, hp, hs, ?_⟩
    rw [Spelling.magnitude, hdigits, hplaces, hm, hnumber.eq_div]

/-- A text stands for at most one value. -/
theorem Spells.unique {cs : List Char} {s t : ℤ} {x y : ℚ} (h : Spells cs s x)
    (h' : Spells cs t y) : s = t ∧ x = y := by
  obtain ⟨p, hp, hs, hx⟩ := h.exists_spelling
  obtain ⟨p', hp', ht, hy⟩ := h'.exists_spelling
  obtain rfl : p = p' := Option.some.inj (hp.symm.trans hp')
  exact ⟨hs.symm.trans ht, hx.symm.trans hy⟩

end BuildFleet.Quantity
