import BuildFleet.Proofs.Time.Calendar
import BuildFleet.Time.Rfc3339
import Mathlib.Algebra.Group.Nat.Defs

/-!
# Instants that are written and read

> `Instant.ofText?_toText_iff`: an instant is read from its text exactly if it is one that is kept,
> with a date in range, and a leap second only at the end of a minute (`Instant.IsKept`).

The text of a number is read up to the first character that is no digit, or as far as the reader
goes (`digits?_append`); so each part of a text is followed by a mark, or has a fixed width.
-/

namespace BuildFleet.Instant

open Text (skipBlanks)

/-- The instants that there are: those with a date in range and less than a second behind the whole
ones, or with a leap second after the last second of a minute. -/
def IsKept (i : Instant) : Prop :=
  i.date.inRange = true
    ∧ (i.nanos < 1000000000 ∨ i.nanos < 2000000000 ∧ i.seconds % 60 = 59)

instance (i : Instant) : Decidable i.IsKept := inferInstanceAs (Decidable (_ ∧ _))

/-! ## Digits -/

theorem isDigit_of_mem_toDigits {n : Nat} {c : Char} (hc : c ∈ Nat.toDigits 10 n) :
    c.isDigit = true :=
  Nat.isDigit_of_mem_toDigits (by decide) (by decide) hc

/-- Digits are read up to what is no digit, or up to the limit. -/
theorem digits?_append {most : Nat} {ds rest : List Char} (hne : ds ≠ [])
    (hds : ∀ c ∈ ds, c.isDigit = true) (hlength : ds.length ≤ most)
    (hrest : ds.length = most ∨ ∀ c ∈ rest.head?, c.isDigit = false) :
    digits? most (ds ++ rest) = some (Nat.ofDigitChars 10 ds 0, rest) := by
  have hrun : ((ds ++ rest).take most).takeWhile Char.isDigit = ds := by
    rw [List.take_append, List.take_of_length_le hlength, List.takeWhile_append_of_pos hds]
    refine (congrArg (ds ++ ·) ?_).trans (List.append_nil ds)
    rcases hrest with hrest | hrest
    · rw [hrest, Nat.sub_self]
      rfl
    · cases rest with
      | nil => rw [List.take_nil]; rfl
      | cons c rest =>
        have hc : c.isDigit = false := hrest c rfl
        cases most - ds.length with
        | zero => rfl
        | succ n => rw [List.take_succ_cons, List.takeWhile_cons_of_neg (by simp [hc])]
  unfold digits?
  simp only [hrun]
  rw [if_neg (by simpa using hne), List.drop_left, Nat.ofDigitChars_eq_foldl]
  simp only [Nat.mul_comm]

/-- A number with zeros before it, as characters. -/
def paddedDigits (width n : Nat) : List Char :=
  List.replicate (width - (Nat.toDigits 10 n).length) '0' ++ Nat.toDigits 10 n

theorem toList_padded (width n : Nat) : (padded width n).toList = paddedDigits width n :=
  String.toList_ofList

section

variable {width n : Nat}

theorem paddedDigits_ne_nil : paddedDigits width n ≠ [] :=
  List.append_ne_nil_of_right_ne_nil _ Nat.toDigits_ne_nil

theorem isDigit_of_mem_paddedDigits : ∀ c ∈ paddedDigits width n, c.isDigit = true := by
  intro c hc
  rcases List.mem_append.mp hc with hc | hc
  · rw [List.eq_of_mem_replicate hc]
    rfl
  · exact isDigit_of_mem_toDigits hc

/-- Padding with zeros changes no number. -/
theorem ofDigitChars_paddedDigits : Nat.ofDigitChars 10 (paddedDigits width n) 0 = n := by
  unfold paddedDigits
  rw [Nat.ofDigitChars_append, Nat.ofDigitChars_replicate_zero, Nat.mul_zero,
    Nat.ofDigitChars_ten_toDigits]

/-- A number is padded to the width, if it fits. -/
theorem length_paddedDigits (hwidth : 0 < width) (hn : n < 10 ^ width) :
    (paddedDigits width n).length = width := by
  have hle := (Nat.length_toDigits_le_iff (n := n) (b := 10) (by decide) hwidth).mpr hn
  unfold paddedDigits
  rw [List.length_append, List.length_replicate]
  omega

theorem exists_cons_paddedDigits (width n : Nat) (rest : List Char) :
    ∃ c cs, paddedDigits width n ++ rest = c :: cs ∧ c.isDigit = true := by
  have hne : paddedDigits width n ≠ [] := paddedDigits_ne_nil
  obtain ⟨c, cs, h⟩ := List.exists_cons_of_ne_nil hne
  refine ⟨c, cs ++ rest, by rw [h, List.cons_append], ?_⟩
  exact isDigit_of_mem_paddedDigits c (h ▸ List.mem_cons_self)

/-- As many digits as there are at most. -/
theorem digits?_padded (hwidth : 0 < width) (hn : n < 10 ^ width) (rest : List Char) :
    digits? width (paddedDigits width n ++ rest) = some (n, rest) := by
  have hlength := length_paddedDigits hwidth hn
  rw [digits?_append paddedDigits_ne_nil isDigit_of_mem_paddedDigits (Nat.le_of_eq hlength)
    (Or.inl hlength), ofDigitChars_paddedDigits]

end

/-! ## Parts of a date -/

theorem isBlank_of_isDigit {c : Char} (hc : c.isDigit = true) : Text.isBlank c = false := by
  have hrange : 48 ≤ c.toNat ∧ c.toNat ≤ 57 := by
    simpa [Char.isDigit, UInt32.le_iff_toNat_le] using hc
  simp [Text.isBlank]
  omega

theorem skipBlanks_cons {c : Char} (hc : Text.isBlank c = false) (cs : List Char) :
    skipBlanks (c :: cs) = c :: cs :=
  List.dropWhile_cons_of_neg (by simp [hc])

/-- Two digits are read again. -/
theorem pair?_padded {n : Nat} (hn : n < 100) (rest : List Char) :
    pair? (paddedDigits 2 n ++ rest) = some (n, rest) := by
  obtain ⟨c, cs, h, hc⟩ := exists_cons_paddedDigits 2 n rest
  unfold pair?
  rw [h, skipBlanks_cons (isBlank_of_isDigit hc), ← h]
  exact digits?_padded (by decide) hn rest

theorem mark?_cons {c : Char} (hc : Text.isBlank c = false) (rest : List Char) :
    mark? c (c :: rest) = some rest := by
  unfold mark?
  rw [skipBlanks_cons hc]
  exact if_pos rfl

/-- Behind a sign, the year is all digits up to the mark. -/
theorem digits?_year (n : Nat) (rest : List Char) :
    digits? (paddedDigits 4 n ++ '-' :: rest).length (paddedDigits 4 n ++ '-' :: rest)
      = some (n, '-' :: rest) := by
  have hlength : (paddedDigits 4 n).length ≤ (paddedDigits 4 n ++ '-' :: rest).length := by
    rw [List.length_append]
    exact Nat.le_add_right _ _
  rw [digits?_append paddedDigits_ne_nil isDigit_of_mem_paddedDigits hlength (Or.inr ?_),
    ofDigitChars_paddedDigits]
  rintro c ⟨⟩
  rfl

theorem year?_negative (n : Nat) (rest : List Char) :
    year? ('-' :: (paddedDigits 4 n ++ '-' :: rest)) = some (-(n : Int), '-' :: rest) := by
  show (digits? _ _).map _ = _
  rw [digits?_year, Option.map_some]

theorem year?_positive (n : Nat) (rest : List Char) :
    year? ('+' :: (paddedDigits 4 n ++ '-' :: rest)) = some ((n : Int), '-' :: rest) := by
  show (digits? _ _).map _ = _
  rw [digits?_year, Option.map_some]

/-- Four digits have no sign. -/
theorem year?_plain {n : Nat} (hn : n < 10000) (rest : List Char) :
    year? (paddedDigits 4 n ++ '-' :: rest) = some ((n : Int), '-' :: rest) := by
  obtain ⟨c, cs, h, hc⟩ := exists_cons_paddedDigits 4 n ('-' :: rest)
  have hdigits : digits? 4 (paddedDigits 4 n ++ '-' :: rest) = some (n, '-' :: rest) :=
    digits?_padded (by decide) hn _
  unfold year?
  rw [h, skipBlanks_cons (isBlank_of_isDigit hc)]
  rw [h] at hdigits
  split
  · next heq =>
    obtain ⟨rfl, -⟩ := List.cons.inj heq
    exact absurd hc (by decide)
  · next heq =>
    obtain ⟨rfl, -⟩ := List.cons.inj heq
    exact absurd hc (by decide)
  · rw [hdigits, Option.map_some]

/-- A year is read again. -/
theorem year?_yearText (year : Int) (rest : List Char) :
    year? ((yearText year).toList ++ '-' :: rest) = some (year, '-' :: rest) := by
  unfold yearText
  split
  · next hplain =>
    rw [toList_padded, year?_plain (by omega), Int.toNat_of_nonneg hplain.1]
  · rw [String.toList_append, toList_padded]
    split
    · refine (year?_negative year.natAbs rest).trans ?_
      rw [show -(year.natAbs : Int) = year by omega]
    · refine (year?_positive year.natAbs rest).trans ?_
      rw [show (year.natAbs : Int) = year by omega]

/-! ## Fractions -/

/-- Some of the nine digits of a fraction, which stand for billionths. -/
theorem fraction?_padded (width : Nat) {n : Nat} (hwidth : 0 < width) (hnine : width ≤ 9)
    (hn : n < 10 ^ width) :
    fraction? ('.' :: (paddedDigits width n ++ ['Z'])) = some (n * 10 ^ (9 - width), ['Z']) := by
  have hlength := length_paddedDigits hwidth hn
  show (digits? 9 _).map _ = _
  rw [digits?_append paddedDigits_ne_nil isDigit_of_mem_paddedDigits
    (Nat.le_trans (Nat.le_of_eq hlength) hnine) (Or.inr (by rintro c ⟨⟩; rfl)),
    ofDigitChars_paddedDigits, Option.map_some]
  have hrest : (paddedDigits width n ++ ['Z']).length - ['Z'].length = width := by
    rw [List.length_append, Nat.add_sub_cancel, hlength]
  show some (n * 10 ^ (9 - ((paddedDigits width n ++ ['Z']).length - ['Z'].length)), _) = _
  rw [hrest]
  rfl

/-- A fraction of a second is read again. -/
theorem fraction?_fractionText {nanos : Nat} (hnanos : nanos < 1000000000) :
    fraction? ((fractionText nanos).toList ++ ['Z']) = some (nanos, ['Z']) := by
  unfold fractionText
  split
  · next hzero =>
    rw [hzero]
    rfl
  · split
    · next hmillis =>
      rw [String.toList_append, toList_padded]
      refine (fraction?_padded 3 (by decide) (by decide) (by omega)).trans ?_
      rw [show nanos / 1000000 * 10 ^ (9 - 3) = nanos by omega]
    · split
      · next hmicros =>
        rw [String.toList_append, toList_padded]
        refine (fraction?_padded 6 (by decide) (by decide) (by omega)).trans ?_
        rw [show nanos / 1000 * 10 ^ (9 - 6) = nanos by omega]
      · rw [String.toList_append, toList_padded]
        refine (fraction?_padded 9 (by decide) (by decide) (by omega)).trans ?_
        rw [Nat.sub_self, Nat.pow_zero, Nat.mul_one]

/-! ## Times of day -/

/-- The second of the day that an instant lies in. -/
def secondOfDay (i : Instant) : Nat := (Int.fmod i.seconds 86400).toNat

/-- The second of a minute, where a leap second is the sixty-first. -/
def secondOfMinute (i : Instant) : Nat :=
  i.secondOfDay % 60 + if 1000000000 ≤ i.nanos then 1 else 0

/-- The billionths of that second. -/
def nanosOfSecond (i : Instant) : Nat :=
  if 1000000000 ≤ i.nanos then i.nanos - 1000000000 else i.nanos

/-- A day has 86400 seconds. -/
theorem secondOfDay_lt (i : Instant) : i.secondOfDay < 86400 := by
  have hlt : Int.fmod i.seconds 86400 < 86400 := Int.fmod_lt_of_pos i.seconds (by decide)
  unfold secondOfDay
  omega

/-- An instant is its day and its second of the day. -/
theorem seconds_eq (i : Instant) :
    i.seconds = Int.fdiv i.seconds 86400 * 86400 + i.secondOfDay := by
  have hnonneg : 0 ≤ Int.fmod i.seconds 86400 := Int.fmod_nonneg_of_pos i.seconds (by decide)
  have hsum := Int.mul_fdiv_add_fmod i.seconds 86400
  unfold secondOfDay
  omega

theorem secondOfMinute_le (i : Instant) : i.secondOfMinute ≤ 60 := by
  unfold secondOfMinute
  split <;> omega

/-- The date of an instant is that of its day. -/
theorem toDays_date (i : Instant) : i.date.toDays = Int.fdiv i.seconds 86400 :=
  Civil.toDays_ofDays _

section

variable {i : Instant} (h : i.IsKept)

include h

theorem IsKept.nanosOfSecond_lt : i.nanosOfSecond < 1000000000 := by
  have hnanos := h.2
  unfold nanosOfSecond
  split <;> omega

/-- Only a leap second is the sixty-first of its minute. -/
theorem IsKept.secondOfMinute_eq_iff : i.secondOfMinute = 60 ↔ 1000000000 ≤ i.nanos := by
  have hnanos := h.2
  have hseconds := i.seconds_eq
  unfold secondOfMinute
  split <;> omega

/-- An instant is put together again from its date and its time of day. -/
theorem IsKept.eq_mk : (⟨i.date.toDays * 86400 + (i.secondOfDay / 3600 : Nat) * 3600
      + (i.secondOfDay / 60 % 60 : Nat) * 60
      + ((if i.secondOfMinute = 60 then 59 else i.secondOfMinute : Nat) : Int) - 0 * 60,
    if i.secondOfMinute = 60 then i.nanosOfSecond + 1000000000 else i.nanosOfSecond⟩ : Instant)
      = i := by
  have hnanos := h.2
  have hseconds := i.seconds_eq
  rw [toDays_date]
  by_cases hleap : 1000000000 ≤ i.nanos
  · have hlast : i.secondOfDay % 60 = 59 := by omega
    rw [if_pos (h.secondOfMinute_eq_iff.mpr hleap), if_pos (h.secondOfMinute_eq_iff.mpr hleap),
      nanosOfSecond, if_pos hleap]
    exact (Instant.mk.injEq _ _ i.seconds i.nanos).mpr ⟨by omega, by omega⟩
  · rw [if_neg (mt h.secondOfMinute_eq_iff.mp hleap), if_neg (mt h.secondOfMinute_eq_iff.mp hleap),
      nanosOfSecond, if_neg hleap, secondOfMinute, if_neg hleap]
    exact (Instant.mk.injEq _ _ i.seconds i.nanos).mpr ⟨by omega, rfl⟩

end

/-! ## Whole texts -/

/-- An instant, as characters. -/
theorem toList_toText (i : Instant) : i.toText.toList
    = (yearText i.date.year).toList ++ '-' :: (paddedDigits 2 i.date.month
      ++ '-' :: (paddedDigits 2 i.date.day
      ++ 'T' :: (paddedDigits 2 (i.secondOfDay / 3600)
      ++ ':' :: (paddedDigits 2 (i.secondOfDay / 60 % 60)
      ++ ':' :: (paddedDigits 2 i.secondOfMinute
      ++ ((fractionText i.nanosOfSecond).toList ++ ['Z'])))))) := by
  simp [toText, toList_padded, secondOfMinute, nanosOfSecond, secondOfDay]

/-- An instant is read from its text. -/
theorem ofText?_toText {i : Instant} (h : i.IsKept) : ofText? i.toText = some i := by
  have hvalid : i.date.isValid = true := Civil.isValid_ofDays _
  have hmonth : i.date.month < 100 := by
    have hle := Civil.month_le_of_isValid hvalid
    omega
  have hday : i.date.day < 100 := by
    have hle := Civil.day_le_of_isValid hvalid
    omega
  have hofDay := i.secondOfDay_lt
  have hhour : i.secondOfDay / 3600 < 24 := by omega
  have hminute : i.secondOfDay / 60 % 60 < 60 := Nat.mod_lt _ (by decide)
  have hsecond := i.secondOfMinute_le
  have hnanos := h.nanosOfSecond_lt
  unfold ofText?
  rw [toList_toText]
  refine Option.bind_eq_some_iff.mpr ⟨_, year?_yearText _ _, ?_⟩
  refine Option.bind_eq_some_iff.mpr ⟨_, mark?_cons rfl _, ?_⟩
  refine Option.bind_eq_some_iff.mpr ⟨_, pair?_padded hmonth _, ?_⟩
  refine Option.bind_eq_some_iff.mpr ⟨_, mark?_cons rfl _, ?_⟩
  refine Option.bind_eq_some_iff.mpr ⟨_, pair?_padded hday _, ?_⟩
  refine Option.bind_eq_some_iff.mpr ⟨_, rfl, ?_⟩
  refine Option.bind_eq_some_iff.mpr ⟨_, pair?_padded (by omega) _, ?_⟩
  refine Option.bind_eq_some_iff.mpr ⟨_, mark?_cons rfl _, ?_⟩
  refine Option.bind_eq_some_iff.mpr ⟨_, pair?_padded (by omega) _, ?_⟩
  refine Option.bind_eq_some_iff.mpr ⟨_, mark?_cons rfl _, ?_⟩
  refine Option.bind_eq_some_iff.mpr ⟨_, pair?_padded (by omega) _, ?_⟩
  refine Option.bind_eq_some_iff.mpr ⟨_, fraction?_fractionText hnanos, ?_⟩
  refine Option.bind_eq_some_iff.mpr ⟨(0, []), rfl, ?_⟩
  refine Option.ite_none_left_eq_some.mpr ⟨?_, ?_⟩
  · have hrange := h.1
    simp only [not_or, Decidable.not_not]
    exact ⟨rfl, hvalid, hrange, by omega, by omega, by omega⟩
  · simp only [h.eq_mk]
    exact if_pos h.1

/-! ## What is read -/

theorem foldl_digits_lt {ds : List Char} (hds : ∀ c ∈ ds, c.isDigit = true) (n : Nat) :
    ds.foldl (fun n c => n * 10 + (c.toNat - '0'.toNat)) n < (n + 1) * 10 ^ ds.length := by
  induction ds generalizing n with
  | nil => simp
  | cons c ds ih =>
    have hc : c.toNat ≤ 57 := by
      have hdigit := hds c List.mem_cons_self
      simp only [Char.isDigit, Bool.and_eq_true, decide_eq_true_eq,
        UInt32.le_iff_toNat_le] at hdigit
      exact hdigit.2
    have hn : n * 10 + (c.toNat - '0'.toNat) + 1 ≤ (n + 1) * 10 := by
      have hzero : '0'.toNat = 48 := rfl
      omega
    calc ds.foldl _ (n * 10 + (c.toNat - '0'.toNat))
      _ < (n * 10 + (c.toNat - '0'.toNat) + 1) * 10 ^ ds.length :=
        ih (fun c hc => hds c (List.mem_cons_of_mem _ hc)) _
      _ ≤ (n + 1) * 10 * 10 ^ ds.length := Nat.mul_le_mul_right _ hn
      _ = (n + 1) * 10 ^ (ds.length + 1) := by rw [Nat.pow_succ']; exact Nat.mul_assoc _ _ _

/-- Digits that are read are no more than allowed. -/
theorem exists_of_digits?_eq_some {most n : Nat} {cs rest : List Char}
    (h : digits? most cs = some (n, rest)) :
    ∃ ds, cs = ds ++ rest ∧ ds.length ≤ most ∧ n < 10 ^ ds.length := by
  simp only [digits?] at h
  split at h
  · cases h
  · cases h
    refine ⟨(cs.take most).takeWhile Char.isDigit, ?_, ?_, ?_⟩
    · have hpre : (cs.take most).takeWhile Char.isDigit <+: cs :=
        (List.takeWhile_prefix _).trans (List.take_prefix _ _)
      exact (List.prefix_iff_eq_append.mp hpre).symm
    · exact Nat.le_trans (List.takeWhile_prefix _).length_le (List.length_take_le _ _)
    · have hdigits : ∀ c ∈ (cs.take most).takeWhile Char.isDigit, c.isDigit = true :=
        List.all_eq_true.mp List.all_takeWhile
      simpa using foldl_digits_lt hdigits 0

/-- A fraction that is read is less than a second. -/
theorem lt_of_fraction?_eq_some {n : Nat} {cs rest : List Char}
    (h : fraction? cs = some (n, rest)) : n < 1000000000 := by
  unfold fraction? at h
  split at h
  · next after =>
    obtain ⟨⟨digits, left⟩, hdigits, hread⟩ := Option.map_eq_some_iff.mp h
    obtain ⟨ds, rfl, hlength, hlt⟩ := exists_of_digits?_eq_some hdigits
    obtain ⟨rfl, -⟩ := Prod.mk.inj hread
    rw [List.length_append, Nat.add_sub_cancel]
    calc digits * 10 ^ (9 - ds.length)
      _ < 10 ^ ds.length * 10 ^ (9 - ds.length) :=
        Nat.mul_lt_mul_of_pos_right hlt (Nat.pow_pos (by decide))
      _ = 10 ^ 9 := by rw [← Nat.pow_add, Nat.add_sub_cancel' hlength]
  · cases h
    decide

/-- A leap second that is read is the last second of its minute, wherever the offset applies: an
offset is in minutes. -/
theorem isKept_mk {days offset : Int} {hour minute second nanos : Nat} (hnanos : nanos < 1000000000)
    (hrange : (⟨days * 86400 + hour * 3600 + minute * 60
      + ((if second = 60 then 59 else second : Nat) : Int) - offset * 60,
      if second = 60 then nanos + 1000000000 else nanos⟩ : Instant).date.inRange = true) :
    IsKept ⟨days * 86400 + hour * 3600 + minute * 60
      + ((if second = 60 then 59 else second : Nat) : Int) - offset * 60,
      if second = 60 then nanos + 1000000000 else nanos⟩ := by
  refine ⟨hrange, ?_⟩
  by_cases hsecond : second = 60
  · simp only [if_pos hsecond]
    omega
  · simp only [if_neg hsecond]
    omega

/-- An instant that is read is one that there is. -/
theorem isKept_of_ofText? {s : String} {i : Instant} (h : ofText? s = some i) : i.IsKept := by
  obtain ⟨⟨year, _⟩, -, h⟩ := Option.bind_eq_some_iff.mp h
  obtain ⟨_, -, h⟩ := Option.bind_eq_some_iff.mp h
  obtain ⟨⟨month, _⟩, -, h⟩ := Option.bind_eq_some_iff.mp h
  obtain ⟨_, -, h⟩ := Option.bind_eq_some_iff.mp h
  obtain ⟨⟨day, _⟩, -, h⟩ := Option.bind_eq_some_iff.mp h
  -- whichever mark is between the date and the time of day
  dsimp only at h
  split at h
  case h_4 => cases h
  all_goals
    obtain ⟨_, -, h⟩ := Option.bind_eq_some_iff.mp h
    obtain ⟨⟨hour, _⟩, -, h⟩ := Option.bind_eq_some_iff.mp h
    obtain ⟨_, -, h⟩ := Option.bind_eq_some_iff.mp h
    obtain ⟨⟨minute, _⟩, -, h⟩ := Option.bind_eq_some_iff.mp h
    obtain ⟨_, -, h⟩ := Option.bind_eq_some_iff.mp h
    obtain ⟨⟨second, _⟩, -, h⟩ := Option.bind_eq_some_iff.mp h
    obtain ⟨⟨nanos, _⟩, hfraction, h⟩ := Option.bind_eq_some_iff.mp h
    obtain ⟨⟨offset, _⟩, -, h⟩ := Option.bind_eq_some_iff.mp h
    obtain ⟨-, h⟩ := Option.ite_none_left_eq_some.mp h
    obtain ⟨hrange, h⟩ := Option.ite_none_right_eq_some.mp h
    cases h
    exact isKept_mk (lt_of_fraction?_eq_some hfraction) hrange

/-- An instant is read from its text exactly if it is one that there is. -/
theorem ofText?_toText_iff {i : Instant} : ofText? i.toText = some i ↔ i.IsKept :=
  ⟨isKept_of_ofText?, ofText?_toText⟩

end BuildFleet.Instant
