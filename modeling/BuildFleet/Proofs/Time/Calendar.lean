import BuildFleet.Time.Instant

/-!
# Dates and their numbers

Days are counted in eras of 400 years, and an era has 146097 days. Each year of an era begins on a
day that is known (`startOfYear`), so the formula for the year of a day has to be right only on the
first and the last days of the years: between them it does not go down.

> `Civil.isValid_ofDays`: a number of days is the number of a date of the calendar;
> `Civil.toDays_ofDays`: and of that date it is the number.
-/

namespace BuildFleet.Civil

/-! ## Years of an era -/

/-- The day of an era that a year begins with. -/
def startOfYear (y : Nat) : Nat := 365 * y + y / 4 - y / 100

/-- The days of an era without the leap days before them, but for one every four years. -/
def commonDays (d : Nat) : Nat := d - d / 1460 + d / 36524 - d / 146096

/-- The year that a day of an era lies in. -/
def yearOfEra (d : Nat) : Nat := commonDays d / 365

/-- Later days have no fewer common days before them. -/
theorem commonDays_mono {d d' : Nat} (h : d ≤ d') : commonDays d ≤ commonDays d' := by
  have hcenturies : ∀ n : Nat, n / 146096 = n / 36524 / 4 := fun n =>
    (Nat.div_div_eq_div_mul n 36524 4).symm
  have hquarters : d - d / 1460 ≤ d' - d' / 1460 := by omega
  have hquotient : d / 36524 ≤ d' / 36524 := Nat.div_le_div_right h
  unfold commonDays
  rw [hcenturies, hcenturies]
  omega

theorem le_commonDays_startOfYear : ∀ y < 400, 365 * y ≤ commonDays (startOfYear y) := by
  decide +kernel

theorem commonDays_endOfYear_lt :
    ∀ y < 400, commonDays (startOfYear (y + 1) - 1) < 365 * (y + 1) := by
  decide +kernel

variable {d : Nat}

/-- An era has four hundred years. -/
theorem yearOfEra_lt (hd : d < 146097) : yearOfEra d < 400 := by
  have hlast : commonDays d ≤ commonDays 146096 := commonDays_mono (Nat.le_of_lt_succ hd)
  have heval : commonDays 146096 = 145999 := by decide
  unfold yearOfEra
  omega

/-- The year of a day has begun by then. -/
theorem startOfYear_yearOfEra_le (hd : d < 146097) : startOfYear (yearOfEra d) ≤ d := by
  refine Nat.le_of_not_lt fun hlt => ?_
  have hyear := yearOfEra_lt hd
  cases hy : yearOfEra d with
  | zero =>
    rw [hy] at hlt
    exact absurd hlt (Nat.not_lt_zero d)
  | succ y =>
    rw [hy] at hlt hyear
    -- the day would be in the year before
    have hbefore := commonDays_endOfYear_lt y (by omega)
    have hmono := commonDays_mono (Nat.le_sub_one_of_lt hlt)
    unfold yearOfEra at hy
    omega

/-- The last year of an era has a leap day that is counted in no other way. -/
theorem lt_startOfYear_succ (hd : d < 146097) :
    d < startOfYear (yearOfEra d + 1) ∨ d = 146096 ∧ yearOfEra d = 399 := by
  have hyear := yearOfEra_lt hd
  by_cases hlast : yearOfEra d = 399
  · have hstart : startOfYear 400 = 146096 := by decide
    rw [hlast, hstart]
    omega
  · refine Or.inl (Nat.lt_of_not_le fun hle => ?_)
    have hafter := le_commonDays_startOfYear (yearOfEra d + 1) (by omega)
    have hmono := commonDays_mono hle
    have hdiv : yearOfEra d = commonDays d / 365 := rfl
    omega

/-! ## Dates of days -/

/-- Eras are alike. -/
theorem isLeap_add_era (year era : Int) : isLeap (year + era * 400) = isLeap year := by
  have hfour : (year + era * 400) % 4 = year % 4 := by omega
  have hhundred : (year + era * 400) % 100 = year % 100 := by omega
  have hera : (year + era * 400) % 400 = year % 400 := by omega
  unfold isLeap
  rw [hfour, hhundred, hera]

/-- A year is 365 days long, and one more if it is a leap year. -/
theorem startOfYear_succ : ∀ y < 399,
    startOfYear (y + 1) = startOfYear y + 365 + if isLeap (y + 1) then 1 else 0 := by
  decide +kernel

/-- A year that begins in March has 365 days, and one more if the next year of the calendar is a
leap year. -/
theorem dayOfYear_le (hd : d < 146097) :
    d - startOfYear (yearOfEra d) ≤ 364
      ∨ d - startOfYear (yearOfEra d) = 365 ∧ isLeap (yearOfEra d + 1) = true := by
  have hyear := yearOfEra_lt hd
  have hlast : startOfYear 399 = 145731 := by decide
  rcases lt_startOfYear_succ hd with hend | ⟨rfl, hy⟩
  · by_cases hy : yearOfEra d = 399
    · have hera : startOfYear 400 = 146096 := by decide
      rw [hy, hera] at hend
      rw [hy, hlast]
      omega
    · rw [startOfYear_succ _ (by omega)] at hend
      split at hend
      · next hleap =>
        have hday : d - startOfYear (yearOfEra d) ≤ 365 := by omega
        exact (Nat.lt_or_eq_of_le hday).imp Nat.le_of_lt_succ fun h => ⟨h, hleap⟩
      · omega
  · rw [hy, hlast]
    decide

/-- The year of the calendar ends in the tenth month from March on. -/
theorem month_le_two_iff {month : Nat} (h : month ≤ 11) :
    (if month < 10 then month + 3 else month - 9) ≤ 2 ↔ ¬ month < 10 := by
  split <;> omega

/-- What the date of a day is made of: an era, a year of it, and a day of that year, from March on.
The number of the day determines them. -/
structure Dated (days : Int) (c : Civil) (era : Int) (y dayOfYear month : Nat) : Prop where
  year_lt : y < 400
  days_eq : days + 719468 = era * 146097 + (startOfYear y + dayOfYear : Nat)
  day_le : dayOfYear ≤ 364 ∨ dayOfYear = 365 ∧ isLeap (y + 1) = true
  month_eq : month = (5 * dayOfYear + 2) / 153
  civil_month : c.month = if month < 10 then month + 3 else month - 9
  civil_day : c.day = dayOfYear - (153 * month + 2) / 5 + 1
  civil_year : c.year = if month < 10 then y + era * 400 else y + era * 400 + 1

/-- Every day has a date. -/
theorem exists_dated (days : Int) :
    ∃ era y dayOfYear month, Dated days (ofDays days) era y dayOfYear month := by
  let z := days + 719468
  let era := Int.fdiv z 146097
  let d := (z - era * 146097).toNat
  have hfdiv : era * 146097 + Int.fmod z 146097 = z := by
    rw [Int.mul_comm]
    exact Int.mul_fdiv_add_fmod z 146097
  have hnonneg : 0 ≤ Int.fmod z 146097 := Int.fmod_nonneg_of_pos z (by decide)
  have hlt : Int.fmod z 146097 < 146097 := Int.fmod_lt_of_pos z (by decide)
  have hd : d < 146097 := by omega
  have hstart := startOfYear_yearOfEra_le hd
  have hday := dayOfYear_le hd
  have hmonth : (5 * (d - startOfYear (yearOfEra d)) + 2) / 153 ≤ 11 := by omega
  refine ⟨era, yearOfEra d, d - startOfYear (yearOfEra d), _, yearOfEra_lt hd, ?_, hday, rfl, rfl,
    rfl, ?_⟩
  · omega
  · have hyear := propext (month_le_two_iff hmonth)
    exact (ite_congr hyear (fun _ => rfl) fun _ => rfl).trans (ite_not ..)

/-- Counted from March on, a month begins after a number of days that grows with it, whatever the
year is, up to the last month. -/
theorem monthLength_eq (year : Int) : ∀ m < 11, monthLength year (if m < 10 then m + 3 else m - 9)
    = (153 * (m + 1) + 2) / 5 - (153 * m + 2) / 5
  | 0, _ | 1, _ | 2, _ | 3, _ | 4, _ | 5, _ | 6, _ | 7, _ | 8, _ | 9, _ | 10, _ => rfl
  | m + 11, h => absurd h (by omega)

section

variable {days : Int} {c : Civil} {era : Int} {y dayOfYear month : Nat}

/-- Months are counted from zero to eleven. -/
theorem Dated.month_le (h : Dated days c era y dayOfYear month) : month ≤ 11 := by
  have hday := h.day_le
  have hmonth := h.month_eq
  omega

/-- A day of the month is within the month. -/
theorem Dated.day_le_monthLength (h : Dated days c era y dayOfYear month) :
    c.day ≤ monthLength c.year c.month := by
  have hday := h.day_le
  have hmonth := h.month_eq
  have hle := h.month_le
  rw [h.civil_day, h.civil_month]
  by_cases hlast : month = 11
  · -- only the last month depends on the year
    have hyear : c.year = y + 1 + era * 400 := by
      rw [h.civil_year, if_neg (by omega)]
      omega
    subst hlast
    show dayOfYear - 337 + 1 ≤ if isLeap c.year then 29 else 28
    rw [hyear, isLeap_add_era]
    rcases hday with hday | ⟨hday, hleap⟩
    · split <;> omega
    · rw [if_pos hleap]
      omega
  · rw [monthLength_eq c.year month (by omega)]
    omega

/-- The date of a day is valid. -/
theorem Dated.isValid (h : Dated days c era y dayOfYear month) : c.isValid = true := by
  have hle := h.month_le
  have hmonth : 1 ≤ c.month ∧ c.month ≤ 12 := by
    rw [h.civil_month]
    split <;> omega
  have hday : 1 ≤ c.day := by
    rw [h.civil_day]
    exact Nat.le_add_left 1 _
  simp only [Civil.isValid, Bool.and_eq_true, decide_eq_true_eq]
  exact ⟨⟨hmonth, hday⟩, h.day_le_monthLength⟩

/-- The date of a day leads back to it. -/
theorem Dated.toDays (h : Dated days c era y dayOfYear month) : c.toDays = days := by
  have hy := h.year_lt
  have hdays := h.days_eq
  have hday := h.day_le
  have hmonth := h.month_eq
  have hle := h.month_le
  have hyear : (if c.month ≤ 2 then c.year - 1 else c.year) = y + era * 400 := by
    rw [h.civil_year, h.civil_month]
    split <;> split <;> omega
  have hera : Int.fdiv (y + era * 400) 400 = era := by
    rw [Int.add_mul_fdiv_right _ _ (by decide), Int.fdiv_eq_ediv_of_nonneg _ (by decide)]
    omega
  have hfromMarch : ((c.month : Int) + 9) % 12 = month := by
    rw [h.civil_month]
    split <;> omega
  unfold Civil.toDays
  simp only [hyear, hera, hfromMarch, h.civil_day]
  unfold startOfYear at hdays
  omega

end

theorem monthLength_le (year : Int) (month : Nat) : monthLength year month ≤ 31 := by
  unfold monthLength
  split <;> first | omega | (split <;> omega)

theorem month_le_of_isValid {c : Civil} (h : c.isValid = true) : c.month ≤ 12 := by
  simp only [isValid, Bool.and_eq_true, decide_eq_true_eq] at h
  exact h.1.1.2

theorem day_le_of_isValid {c : Civil} (h : c.isValid = true) : c.day ≤ 31 := by
  simp only [isValid, Bool.and_eq_true, decide_eq_true_eq] at h
  exact Nat.le_trans h.2 (monthLength_le c.year c.month)

/-- Every day has a valid date. -/
theorem isValid_ofDays (days : Int) : (ofDays days).isValid = true := by
  obtain ⟨era, y, dayOfYear, month, h⟩ := exists_dated days
  exact h.isValid

/-- The date of every day leads back to it. -/
theorem toDays_ofDays (days : Int) : (ofDays days).toDays = days := by
  obtain ⟨era, y, dayOfYear, month, h⟩ := exists_dated days
  exact h.toDays

end BuildFleet.Civil
