import BuildFleet.Proofs.Json.Members
import BuildFleet.Quantity.Basic
import Mathlib.Algebra.Order.Field.Rat
import Mathlib.Data.Nat.Digits.Defs
import Mathlib.Tactic.FieldSimp
import Mathlib.Tactic.Ring

/-!
# What the text of a quantity stands for

A quantity is spelled by a sign, a number and a multiplier, one after the other, and stands for the
product of the three (`Spells`). This is the notation as it is written down for its users, with
rational numbers and without limits; how a text is taken apart does not come into it.

> `spells_of_spelling?`: a text that can be taken apart is spelled so, and the pieces have the value
> that it stands for.
-/

namespace BuildFleet.Quantity

/-! ## The notation -/

/-- The characters are decimal digits. -/
def IsDigits (cs : List Char) : Prop := ∀ c ∈ cs, c.isDigit = true

/-- The number that decimal digits spell, the last of which counts ones. -/
def decimal (cs : List Char) : ℕ := Nat.ofDigits 10 (cs.reverse.map fun c => c.toNat - '0'.toNat)

/-- An optional sign. -/
inductive IsSign : List Char → ℤ → Prop
  | none : IsSign [] 1
  | plus : IsSign ['+'] 1
  | minus : IsSign ['-'] (-1)

/-- Digits with at most one point and at least one digit. -/
inductive IsNumber : List Char → ℚ → Prop
  | whole {ds : List Char} (hds : IsDigits ds) (hne : ds ≠ []) : IsNumber ds (decimal ds)
  | point {ds fs : List Char} (hds : IsDigits ds) (hfs : IsDigits fs) (hne : ds ≠ [] ∨ fs ≠ []) :
      IsNumber (ds ++ '.' :: fs) (decimal ds + decimal fs / 10 ^ fs.length)

/-- Units that are powers of ten, and their exponents. -/
def decimalUnits : List (List Char × ℤ) :=
  [([], 0), (['n'], -9), (['u'], -6), (['m'], -3), (['k'], 3), (['M'], 6), (['G'], 9), (['T'], 12),
    (['P'], 15), (['E'], 18)]

/-- Units that are powers of two, and their exponents. -/
def binaryUnits : List (List Char × ℕ) :=
  [(['K', 'i'], 10), (['M', 'i'], 20), (['G', 'i'], 30), (['T', 'i'], 40), (['P', 'i'], 50),
    (['E', 'i'], 60)]

/-- A unit, or a power of ten whose exponent is an integer of 32 bits. -/
inductive IsMultiplier : List Char → ℚ → Prop
  | decimal {unit : List Char} {e : ℤ} (h : (unit, e) ∈ decimalUnits) : IsMultiplier unit (10 ^ e)
  | binary {unit : List Char} {bits : ℕ} (h : (unit, bits) ∈ binaryUnits) :
      IsMultiplier unit (2 ^ bits)
  | exponent {c : Char} {sign ds : List Char} {s : ℤ} (hc : c = 'e' ∨ c = 'E')
      (hsign : IsSign sign s) (hds : IsDigits ds) (hne : ds ≠ [])
      (hrange : -2 ^ 31 ≤ s * decimal ds ∧ s * decimal ds < 2 ^ 31) :
      IsMultiplier (c :: (sign ++ ds)) (10 ^ (s * decimal ds))

/-- The text spells a number with this sign and this magnitude. -/
inductive Spells : List Char → ℤ → ℚ → Prop
  | mk {sign number multiplier : List Char} {s : ℤ} {x m : ℚ} (hsign : IsSign sign s)
      (hnumber : IsNumber number x) (hmultiplier : IsMultiplier multiplier m) :
      Spells (sign ++ number ++ multiplier) s (x * m)

/-! ## Digits -/

/-- The numeral of digits is their value in base ten. -/
theorem numeral_eq_ofDigits (ds : List ℕ) : numeral ds = Nat.ofDigits 10 ds.reverse := by
  rw [Nat.ofDigits_eq_foldr, List.foldr_reverse]
  show ds.foldl _ 0 = ds.foldl _ 0
  congr 1
  funext n d
  show n * 10 + d = d + 10 * n
  omega

/-- More digits shift those before them. -/
theorem numeral_append (a b : List ℕ) :
    numeral (a ++ b) = numeral a * 10 ^ b.length + numeral b := by
  simp only [numeral_eq_ofDigits, List.reverse_append, Nat.ofDigits_append, List.length_reverse]
  ring

/-- A run of digits is read digit by digit. -/
theorem digits?_eq_some : ∀ {cs : List Char} {ds : List ℕ}, digits? cs = some ds →
    IsDigits cs ∧ ds = cs.map fun c => c.toNat - '0'.toNat
  | [], ds, h => ⟨fun _ hc => absurd hc List.not_mem_nil, (Option.some.inj h).symm⟩
  | c :: cs, ds, h => by
    obtain ⟨d, ds, hd, hds, rfl⟩ := mapM_cons_eq_some.mp h
    obtain ⟨hdigits, rfl⟩ := digits?_eq_some hds
    obtain ⟨hc, hd⟩ := Option.ite_none_right_eq_some.mp hd
    exact ⟨List.forall_mem_cons.mpr ⟨hc, hdigits⟩, by rw [← Option.some.inj hd, List.map_cons]⟩

/-- The digits that are read spell the number that the text does. -/
theorem numeral_digits {cs : List Char} {ds : List ℕ} (h : digits? cs = some ds) :
    numeral ds = decimal cs := by
  obtain ⟨-, rfl⟩ := digits?_eq_some h
  rw [numeral_eq_ofDigits, decimal, List.map_reverse]

/-! ## The pieces of a text -/

/-- What a sign does to a number. -/
def factor (negative : Bool) : ℤ := if negative then -1 else 1

/-- What a suffix multiplies by. -/
def Suffix.factor : Suffix → ℚ
  | decimal e => 10 ^ e
  | binary bits => 2 ^ bits

/-- The exact magnitude. -/
def Spelling.magnitude (s : Spelling) : ℚ :=
  numeral (s.whole ++ s.fraction) / 10 ^ s.fraction.length * s.suffix.factor

/-- What is taken off as a sign is one. -/
theorem sign_spec (cs : List Char) :
    ∃ pre, cs = pre ++ (sign cs).2 ∧ IsSign pre (factor (sign cs).1) := by
  unfold sign
  split
  · exact ⟨['-'], rfl, .minus⟩
  · exact ⟨['+'], rfl, .plus⟩
  · exact ⟨[], rfl, .none⟩

/-- The exponent is taken apart like the quantity itself: a sign, then digits. -/
theorem exponent?_eq (cs : List Char) : exponent? cs =
    if (sign cs).2.isEmpty then none
    else (digits? (sign cs).2).bind fun ds =>
      if (sign cs).1 then if numeral ds ≤ 0x80000000 then some (-(numeral ds : ℤ)) else none
      else if numeral ds ≤ 0x7fffffff then some (numeral ds : ℤ) else none := rfl

/-- An exponent that is read is a sign and digits, and has 32 bits. -/
theorem exponent?_eq_some {cs : List Char} {e : ℤ} (h : exponent? cs = some e) :
    ∃ sign ds s, cs = sign ++ ds ∧ IsSign sign s ∧ IsDigits ds ∧ ds ≠ [] ∧ e = s * decimal ds
      ∧ -2 ^ 31 ≤ e ∧ e < 2 ^ 31 := by
  obtain ⟨pre, hcs, hsign⟩ := sign_spec cs
  rw [exponent?_eq] at h
  obtain ⟨hne, h⟩ := Option.ite_none_left_eq_some.mp h
  obtain ⟨ds, hds, h⟩ := Option.bind_eq_some_iff.mp h
  refine ⟨pre, _, _, hcs, hsign, (digits?_eq_some hds).1, by simpa using hne, ?_⟩
  rw [← numeral_digits hds]
  cases hneg : (sign cs).1 with
  | true =>
    rw [hneg, if_pos rfl] at h
    obtain ⟨hle, he⟩ := Option.ite_none_right_eq_some.mp h
    obtain rfl := Option.some.inj he
    simp only [factor, if_true]
    omega
  | false =>
    rw [hneg, if_neg Bool.false_ne_true] at h
    obtain ⟨hle, he⟩ := Option.ite_none_right_eq_some.mp h
    obtain rfl := Option.some.inj he
    simp only [factor, Bool.false_eq_true, if_false]
    omega

/-- An exponent that is read is a multiplier of the grammar. -/
theorem isMultiplier_of_exponent? {c : Char} {cs : List Char} {m : Suffix} (hc : c = 'e' ∨ c = 'E')
    (h : (exponent? cs).map Suffix.decimal = some m) : IsMultiplier (c :: cs) m.factor := by
  obtain ⟨e, he, rfl⟩ := Option.map_eq_some_iff.mp h
  obtain ⟨sign, ds, s, rfl, hsign, hds, hne, rfl, hrange⟩ := exponent?_eq_some he
  exact .exponent hc hsign hds hne hrange

/-- A suffix that is read is a multiplier of the grammar. -/
theorem isMultiplier_of_suffix? {cs : List Char} {m : Suffix} (h : suffix? cs = some m) :
    IsMultiplier cs m.factor := by
  unfold suffix? at h
  split at h
  -- an exponent comes after all units, of which `E` is one
  case h_17 => exact isMultiplier_of_exponent? (Or.inl rfl) h
  case h_18 => exact isMultiplier_of_exponent? (Or.inr rfl) h
  case h_19 => exact nomatch h
  all_goals obtain rfl := Option.some.inj h
  case h_11 | h_12 | h_13 | h_14 | h_15 | h_16 => exact .binary (by simp [binaryUnits])
  all_goals exact .decimal (by simp [decimalUnits])

/-- What comes before the first point and what comes after it. -/
theorem isNumber_of_digits? {cs : List Char} {ws fs : List ℕ}
    (hne : ¬ ((cs.takeWhile (· != '.')).isEmpty ∧ ((cs.dropWhile (· != '.')).drop 1).isEmpty))
    (hws : digits? (cs.takeWhile (· != '.')) = some ws)
    (hfs : digits? ((cs.dropWhile (· != '.')).drop 1) = some fs) :
    IsNumber cs (numeral (ws ++ fs) / 10 ^ fs.length) := by
  have hcs : cs.takeWhile (· != '.') ++ cs.dropWhile (· != '.') = cs :=
    List.takeWhile_append_dropWhile
  have hdigits := (digits?_eq_some hws).1
  cases hrest : cs.dropWhile (· != '.') with
  | nil =>
    -- there is no point
    rw [hrest, List.append_nil] at hcs
    rw [hrest] at hfs hne
    rw [hcs] at hws hdigits hne
    obtain rfl : [] = fs := Option.some.inj hfs
    rw [List.append_nil, numeral_digits hws, List.length_nil, pow_zero, div_one]
    exact .whole hdigits (by simpa using hne)
  | cons c rest =>
    have hc : c = '.' := by
      have hhead := List.head?_dropWhile_not (· != '.') cs
      rw [hrest] at hhead
      simpa using hhead
    subst hc
    rw [hrest] at hcs
    rw [hrest, List.drop_one, List.tail_cons] at hfs hne
    obtain ⟨hrestDigits, hlength⟩ := digits?_eq_some hfs
    have hvalue : (numeral (ws ++ fs) : ℚ) / 10 ^ fs.length
        = decimal (cs.takeWhile (· != '.')) + decimal rest / 10 ^ rest.length := by
      rw [numeral_append, numeral_digits hws, numeral_digits hfs, hlength, List.length_map]
      push_cast
      field_simp
    rw [hvalue]
    nth_rewrite 1 [← hcs]
    exact .point hdigits hrestDigits (by simpa [imp_iff_not_or] using hne)

/-- A text that is read is spelled by the grammar, with the sign and the magnitude that are read. -/
theorem spells_of_spelling? {cs : List Char} {p : Spelling} (h : spelling? cs = some p) :
    Spells cs (factor p.negative) p.magnitude := by
  obtain ⟨pre, hcs, hsign⟩ := sign_spec cs
  unfold spelling? at h
  generalize sign cs = signed at h hcs hsign
  obtain ⟨negative, rest⟩ := signed
  obtain ⟨hne, h⟩ := Option.ite_none_left_eq_some.mp h
  simp only [Option.bind_eq_bind, Option.bind_eq_some_iff] at h
  obtain ⟨ws, hws, fs, hfs, m, hm, hp⟩ := h
  obtain rfl := Option.some.inj hp
  have hparts := Spells.mk hsign (isNumber_of_digits? hne hws hfs) (isMultiplier_of_suffix? hm)
  rw [List.append_assoc, List.takeWhile_append_dropWhile] at hparts
  exact hcs ▸ hparts

end BuildFleet.Quantity
