import BuildFleet.Network.Address
import Mathlib.Data.List.Basic
import Mathlib.Tactic.Ring

/-!
# The numbers in an address

The bytes and the groups of an address are numbers in base ten and sixteen. A number is read up to
the first character that is no digit of its base, so from a text that goes on with another one, the
number that was written is read.

> `Address.number?_toDigits`: this holds in every base up to sixteen;
> `Address.bytes?_bytesChars`: so four bytes are read from their text, and
> `Address.of_bytes?`: no bytes are read from a text without a point.
-/

namespace BuildFleet.Address

/-! ## Digits -/

section

variable {base : Nat}

/-- A digit is one of every base above its value. -/
theorem digit?_of_lt {base' d : Nat} {c : Char} (h : digit? base' c = some d) (hd : d < base) :
    digit? base c = some d := by
  obtain ⟨v, hv, h⟩ := Option.bind_eq_some_iff.mp h
  obtain ⟨-, h⟩ := Option.ite_none_right_eq_some.mp h
  obtain rfl := Option.some.inj h
  exact Option.bind_eq_some_iff.mpr ⟨v, hv, if_pos hd⟩

/-- A digit is read again. -/
theorem digit?_digitChar {d : Nat} (hd : d < base) (hbase : base ≤ 16) :
    digit? base (Nat.digitChar d) = some d := by
  have hvalue : ∀ d < 16, digit? 16 (Nat.digitChar d) = some d := by decide
  exact digit?_of_lt (hvalue d (Nat.lt_of_lt_of_le hd hbase)) hd

/-- A digit is below the base. -/
theorem lt_of_digit? {c : Char} {d : Nat} (h : digit? base c = some d) : d < base := by
  obtain ⟨v, -, h⟩ := Option.bind_eq_some_iff.mp h
  obtain ⟨hlt, h⟩ := Option.ite_none_right_eq_some.mp h
  exact Option.some.inj h ▸ hlt

/-- What digits stand for, behind those of a number. -/
def value (base : Nat) (ds : List Char) (n : Nat) : Nat :=
  ds.foldl (fun n c => n * base + (digit? base c).getD 0) n

/-- The last digit of a number is what is left of it, and before it stand those of the quotient. -/
theorem toDigits_eq_append {n : Nat} (hbase : 1 < base) (hn : base ≤ n) :
    Nat.toDigits base n = Nat.toDigits base (n / base) ++ [Nat.digitChar (n % base)] := by
  have hpos : 0 < base := Nat.lt_trans Nat.zero_lt_one hbase
  have hmod : n % base < base := Nat.mod_lt n hpos
  rw [← Nat.toDigits_of_lt_base hmod,
    Nat.toDigits_append_toDigits hbase (Nat.div_pos hn hpos) hmod, Nat.div_add_mod]

/-- A number is written in digits of the base. -/
theorem forall_digit?_toDigits (hbase : 1 < base) (hsixteen : base ≤ 16) (n : Nat) :
    ∀ c ∈ Nat.toDigits base n, (digit? base c).isSome = true := by
  induction n using Nat.strong_induction_on with
  | _ n ih =>
    intro c hc
    rcases Nat.lt_or_ge n base with hlt | hge
    · rw [Nat.toDigits_of_lt_base hlt] at hc
      rw [List.mem_singleton.mp hc, digit?_digitChar hlt hsixteen, Option.isSome_some]
    · rw [toDigits_eq_append hbase hge] at hc
      have hpos : 0 < base := Nat.lt_trans Nat.zero_lt_one hbase
      rcases List.mem_append.mp hc with hc | hc
      · exact ih _ (Nat.div_lt_self (Nat.lt_of_lt_of_le hpos hge) hbase) c hc
      · rw [List.mem_singleton.mp hc, digit?_digitChar (Nat.mod_lt n hpos) hsixteen,
          Option.isSome_some]

/-- The value of the digits of a number is the number. -/
theorem value_toDigits (hbase : 1 < base) (hsixteen : base ≤ 16) (n : Nat) :
    value base (Nat.toDigits base n) 0 = n := by
  induction n using Nat.strong_induction_on with
  | _ n ih =>
    rcases Nat.lt_or_ge n base with hlt | hge
    · rw [Nat.toDigits_of_lt_base hlt]
      simp [value, digit?_digitChar hlt hsixteen]
    · have hpos : 0 < base := Nat.lt_trans Nat.zero_lt_one hbase
      rw [toDigits_eq_append hbase hge]
      unfold value at ih ⊢
      rw [List.foldl_append, ih _ (Nat.div_lt_self (Nat.lt_of_lt_of_le hpos hge) hbase),
        List.foldl_cons, List.foldl_nil, digit?_digitChar (Nat.mod_lt n hpos) hsixteen,
        Option.getD_some, Nat.div_add_mod']

/-- The number that was written is read, up to what is no digit. -/
theorem number?_toDigits {most n : Nat} (hbase : 1 < base) (hsixteen : base ≤ 16) (hmost : 0 < most)
    (hn : n < base ^ most) {rest : List Char} (hrest : ∀ c ∈ rest.head?, digit? base c = none) :
    number? base most (Nat.toDigits base n ++ rest) = some (n, rest) := by
  have hdigits := forall_digit?_toDigits hbase hsixteen n
  have hlength := (Nat.length_toDigits_le_iff hbase hmost).mpr hn
  have hrun : (Nat.toDigits base n ++ rest).takeWhile (fun c => (digit? base c).isSome)
      = Nat.toDigits base n := by
    rw [List.takeWhile_append_of_pos hdigits]
    cases rest with
    | nil => simp
    | cons c rest => rw [List.takeWhile_cons_of_neg (by simp [hrest c rfl]), List.append_nil]
  unfold number?
  simp only [hrun]
  rw [if_neg, List.drop_left]
  · exact congrArg (fun n => some (n, rest)) (value_toDigits hbase hsixteen n)
  · simp [Nat.toDigits_ne_nil, hlength]

/-- A number with more digits after it stays below its successor with as many zeros. -/
theorem value_lt {ds : List Char} (hds : ∀ c ∈ ds, (digit? base c).isSome = true) (n : Nat) :
    value base ds n < (n + 1) * base ^ ds.length := by
  induction ds generalizing n with
  | nil => simp [value]
  | cons c ds ih =>
    obtain ⟨hc, hds⟩ := List.forall_mem_cons.mp hds
    obtain ⟨d, hd⟩ := Option.isSome_iff_exists.mp hc
    have hlt := lt_of_digit? hd
    calc value base (c :: ds) n
      _ = value base ds (n * base + d) := by simp [value, hd]
      _ < (n * base + d + 1) * base ^ ds.length := ih hds _
      _ ≤ (n * base + base) * base ^ ds.length := Nat.mul_le_mul_right _ (by omega)
      _ = (n + 1) * base ^ (ds.length + 1) := by ring

/-- No more than so many digits are read, and the number is below that power of the base. -/
theorem of_number? {most n : Nat} (hbase : 0 < base) {cs rest : List Char}
    (h : number? base most cs = some (n, rest)) : n < base ^ most ∧ ∃ ds, cs = ds ++ rest := by
  simp only [number?] at h
  obtain ⟨hrun, h⟩ := Option.ite_none_left_eq_some.mp h
  obtain ⟨-, hlength⟩ := not_or.mp hrun
  cases h
  constructor
  · refine Nat.lt_of_lt_of_le (value_lt (List.all_eq_true.mp List.all_takeWhile) 0) ?_
    rw [Nat.zero_add, Nat.one_mul]
    exact Nat.pow_le_pow_right hbase (Nat.not_lt.mp hlength)
  · exact ⟨_, (List.prefix_iff_eq_append.mp (List.takeWhile_prefix _)).symm⟩

end

/-! ## Bytes -/

/-- Only zero is written with a zero in front. -/
theorem eq_zero_of_head?_toDigits {n : Nat} (h : (Nat.toDigits 10 n).head? = some '0') : n = 0 := by
  induction n using Nat.strong_induction_on with
  | _ n ih =>
    rcases Nat.lt_or_ge n 10 with hlt | hge
    · rw [Nat.toDigits_of_lt_base hlt] at h
      have hdigit := digit?_digitChar hlt (by decide)
      rw [Option.some.inj h] at hdigit
      exact (Option.some.inj hdigit).symm
    · rw [toDigits_eq_append (by decide) hge,
        List.head?_append_of_ne_nil _ Nat.toDigits_ne_nil] at h
      have hzero := ih _ (Nat.div_lt_self (by omega) (by decide)) h
      omega

/-- A byte is read again, whatever follows that is no digit. -/
theorem byte?_toDigits {n : Nat} (hn : n ≤ 255) {rest : List Char}
    (hrest : ∀ c ∈ rest.head?, digit? 10 c = none) :
    byte? (Nat.toDigits 10 n ++ rest) = some (n, rest) := by
  unfold byte?
  rw [number?_toDigits (by decide) (by decide) (by decide) (by omega) hrest, Option.bind_eq_bind,
    Option.bind_some]
  refine if_neg (not_or.mpr ⟨Nat.not_lt.mpr hn, ?_⟩)
  rintro ⟨hhead, hlength⟩
  rw [List.head?_append_of_ne_nil _ Nat.toDigits_ne_nil] at hhead
  obtain rfl := eq_zero_of_head?_toDigits hhead
  rw [List.length_append, Nat.toDigits_of_lt_base (by decide)] at hlength
  exact absurd hlength (by simp [Nat.add_comm])

/-- A byte that is read is at most 255. -/
theorem le_of_byte? {n : Nat} {cs rest : List Char} (h : byte? cs = some (n, rest)) : n ≤ 255 := by
  obtain ⟨⟨m, after⟩, -, h⟩ := Option.bind_eq_some_iff.mp h
  obtain ⟨hrange, h⟩ := Option.ite_none_left_eq_some.mp h
  cases h
  exact Nat.not_lt.mp (not_or.mp hrange).1

/-- Another byte comes behind a point. -/
theorem exists_of_nextByte? {n : Nat} {cs rest : List Char} (h : nextByte? cs = some (n, rest)) :
    ∃ after, cs = '.' :: after ∧ byte? after = some (n, rest) := by
  unfold nextByte? at h
  split at h
  · exact ⟨_, rfl, h⟩
  · cases h

/-- Four bytes, as characters. -/
def bytesChars (a b c d : Nat) : List Char :=
  Nat.toDigits 10 a ++ '.' :: (Nat.toDigits 10 b ++ '.' :: (Nat.toDigits 10 c ++ '.' ::
    Nat.toDigits 10 d))

/-- The text of four bytes is their digits with points between them. -/
theorem toList_bytesText (a b c d : Nat) : (bytesText a b c d).toList = bytesChars a b c d := by
  simp [bytesText, bytesChars]

/-- Four bytes are read again. -/
theorem bytes?_bytesChars {a b c d : Nat} (ha : a ≤ 255) (hb : b ≤ 255) (hc : c ≤ 255)
    (hd : d ≤ 255) : bytes? (bytesChars a b c d) = some ((a, b, c, d), []) := by
  have hpoint : ∀ rest : List Char, ∀ c ∈ ('.' :: rest).head?, digit? 10 c = none := by
    rintro rest c ⟨⟩
    rfl
  have hlast : byte? (Nat.toDigits 10 d) = some (d, []) := by
    rw [← List.append_nil (Nat.toDigits 10 d)]
    exact byte?_toDigits hd nofun
  unfold bytes? bytesChars
  simp only [byte?_toDigits ha (hpoint _), nextByte?, byte?_toDigits hb (hpoint _),
    byte?_toDigits hc (hpoint _), hlast, Option.bind_eq_bind, Option.bind_some]
  rfl

/-- Four bytes that are read are in range, and there is a point in their text. -/
theorem of_bytes? {a b c d : Nat} {cs rest : List Char}
    (h : bytes? cs = some ((a, b, c, d), rest)) :
    (a ≤ 255 ∧ b ≤ 255 ∧ c ≤ 255 ∧ d ≤ 255) ∧ '.' ∈ cs := by
  simp only [bytes?, Option.bind_eq_bind, Option.bind_eq_some_iff, Prod.exists] at h
  obtain ⟨a', after, ha, b', _, hb, c', _, hc, d', _, hd, h⟩ := h
  cases h
  obtain ⟨_, rfl, hb⟩ := exists_of_nextByte? hb
  obtain ⟨_, -, hc⟩ := exists_of_nextByte? hc
  obtain ⟨_, -, hd⟩ := exists_of_nextByte? hd
  refine ⟨⟨le_of_byte? ha, le_of_byte? hb, le_of_byte? hc, le_of_byte? hd⟩, ?_⟩
  obtain ⟨⟨m, after⟩, hnumber, ha⟩ := Option.bind_eq_some_iff.mp ha
  obtain ⟨-, ds, rfl⟩ := of_number? (by decide) hnumber
  obtain ⟨-, ha⟩ := Option.ite_none_left_eq_some.mp ha
  cases ha
  exact List.mem_append_right _ List.mem_cons_self

end BuildFleet.Address
