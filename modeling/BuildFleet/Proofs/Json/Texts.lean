import BuildFleet.Json.Received
import BuildFleet.Proofs.Network.Numbers
import Mathlib.Data.List.TakeWhile

/-!
# Numbers and strings that are written and read

> `parse?_toString`: an integer of 64 bits, signed if it is negative and unsigned if not, is read
> from its digits;
> `range_of_parse?`: and no other numbers are read as integers;
> `parse?_quote`: a string is read from its quoted form, whatever its characters are.
-/

namespace BuildFleet.Json

/-! ## The value of digits -/

namespace Number

/-- Digits are taken to the end if the number that they spell fits. -/
theorem take_digits {cs : List Char} {value count : Nat}
    (h : Nat.ofDigitChars 10 cs value ≤ maxDigits) :
    take value count (cs.map fun c => c.toNat - '0'.toNat)
      = ⟨Nat.ofDigitChars 10 cs value, count + cs.length, 0⟩ := by
  induction cs generalizing value count with
  | nil => rfl
  | cons c cs ih =>
    rw [Nat.ofDigitChars_cons, Nat.mul_comm] at h ⊢
    have hle : value * 10 + (c.toNat - '0'.toNat) ≤ maxDigits := by
      have hpow : 0 < 10 ^ cs.length := Nat.pow_pos (by decide)
      calc value * 10 + (c.toNat - '0'.toNat)
        _ ≤ 10 ^ cs.length * (value * 10 + (c.toNat - '0'.toNat)) := Nat.le_mul_of_pos_left _ hpow
        _ ≤ Nat.ofDigitChars 10 cs (value * 10 + (c.toNat - '0'.toNat)) := by
          rw [Nat.ofDigitChars_eq_ofDigitChars_zero]
          exact Nat.le_add_right _ _
        _ ≤ maxDigits := h
    rw [List.map_cons, take, if_pos hle, ih h, List.length_cons, Nat.add_assoc, Nat.add_comm 1]

/-- The digits of a number that is small enough are read as that integer. -/
theorem value?_toDigits {n : Nat} (h : n ≤ maxDigits) (negative : Bool) :
    value? ⟨negative, (Nat.toDigits 10 n).map fun c => c.toNat - '0'.toNat, none, none⟩
      = integer? negative n := by
  have hfits : Nat.ofDigitChars 10 (Nat.toDigits 10 n) 0 ≤ maxDigits := by
    rw [Nat.ofDigitChars_ten_toDigits]
    exact h
  unfold value?
  dsimp only
  rw [take_digits hfits, Nat.ofDigitChars_ten_toDigits]
  exact if_pos rfl

/-- Taking in digits stops before the number gets too great. -/
theorem take_value_le {value count : Nat} (ds : List Nat) (h : value ≤ maxDigits) :
    (take value count ds).value ≤ maxDigits := by
  induction ds generalizing value count with
  | nil => exact h
  | cons d ds ih =>
    rw [take]
    split
    · next hd => exact ih hd
    · exact h

/-- What is read as a float is no integer. -/
theorem float?_ne_int {negative : Bool} {digits : Nat} {e j : Int} :
    float? negative digits e ≠ some (.int j) := by
  intro h
  obtain ⟨x, -, h⟩ := Option.bind_eq_some_iff.mp h
  obtain ⟨y, -, h⟩ := Option.map_eq_some_iff.mp h
  cases h

/-- An integer that is read has 64 bits, with or without a sign. -/
theorem range_of_integer? {negative : Bool} {digits : Nat} {j : Int} (hd : digits ≤ maxDigits)
    (h : integer? negative digits = some (.int j)) : -2 ^ 63 ≤ j ∧ j < 2 ^ 64 := by
  unfold maxDigits at hd
  unfold integer? at h
  split at h
  · cases h
    omega
  · split at h
    · cases h
      omega
    · exact absurd h float?_ne_int

/-- An integer that is read from a spelling has 64 bits, with or without a sign. -/
theorem range_of_value? {s : Spelling} {j : Int} (h : value? s = some (.int j)) :
    -2 ^ 63 ≤ j ∧ j < 2 ^ 64 := by
  have hwhole : (take 0 0 s.whole).value ≤ maxDigits := take_value_le _ (Nat.zero_le _)
  unfold value? at h
  dsimp only at h
  split at h
  · split at h
    · exact range_of_integer? hwhole h
    · exact absurd h float?_ne_int
  · split at h
    · exact absurd h float?_ne_int
    · split at h
      · exact absurd h float?_ne_int
      · split at h
        · cases h
        · cases h

end Number

namespace Parser

/-! ## Numbers in a text -/

/-- A number is written in digits. -/
theorem isDigit_of_mem_toDigits {n : Nat} {c : Char} (hc : c ∈ Nat.toDigits 10 n) :
    c.isDigit = true :=
  Nat.isDigit_of_mem_toDigits (by decide) (by decide) hc

/-- The digits of a number are read to their end. -/
theorem digits_toDigits (n : Nat) : digits (Nat.toDigits 10 n)
    = ((Nat.toDigits 10 n).map fun c => c.toNat - '0'.toNat, []) := by
  unfold digits
  rw [List.takeWhile_eq_self_iff.mpr fun c hc => isDigit_of_mem_toDigits hc,
    List.dropWhile_eq_nil_iff.mpr fun c hc => isDigit_of_mem_toDigits hc]

/-- Only a zero starts with a zero. -/
theorem length_toDigits_of_zero {n : Nat}
    (h : ((Nat.toDigits 10 n).map fun c => c.toNat - '0'.toNat).head? = some 0) :
    (Nat.toDigits 10 n).length = 1 := by
  rw [List.head?_map] at h
  obtain ⟨c, hc, hzero⟩ := Option.map_eq_some_iff.mp h
  have hdigit : c.isDigit = true := isDigit_of_mem_toDigits (List.mem_of_head? hc)
  have hrange : 48 ≤ c.toNat ∧ c.toNat ≤ 57 := by
    simpa [Char.isDigit, UInt32.le_iff_toNat_le] using hdigit
  have hchar : c = '0' := by
    apply Char.toNat_inj.mp
    have hsub : c.toNat - 48 = 0 := hzero
    show c.toNat = 48
    omega
  rw [hchar] at hc
  obtain rfl := Address.eq_zero_of_head?_toDigits hc
  rfl

/-- Takes a minus sign off. -/
def minus (cs : List Char) : Bool × List Char :=
  match cs with
  | '-' :: rest => (true, rest)
  | cs => (false, cs)

/-- A number is read part by part. -/
theorem number?_eq (cs : List Char) : number? cs =
    if (digits (minus cs).2).1.isEmpty
        ∨ ((digits (minus cs).2).1.head? = some 0 ∧ 1 < (digits (minus cs).2).1.length) then none
    else (fraction? (digits (minus cs).2).2).bind fun (fraction, cs') =>
      (exponent? cs').bind fun (exponent, rest) =>
        (Number.value? ⟨(minus cs).1, (digits (minus cs).2).1, fraction, exponent⟩).bind
          fun v => some (v, rest) := rfl

/-- The digits of a number, with a minus sign before them if it is negative. -/
def signed (negative : Bool) (n : Nat) : List Char :=
  if negative then '-' :: Nat.toDigits 10 n else Nat.toDigits 10 n

/-- The sign and the digits of a number are told apart again. -/
theorem minus_signed (negative : Bool) (n : Nat) :
    minus (signed negative n) = (negative, Nat.toDigits 10 n) := by
  cases negative with
  | true => rfl
  | false =>
    show minus (Nat.toDigits 10 n) = _
    unfold minus
    split
    · next rest h =>
      have hdigit : ('-').isDigit = true := isDigit_of_mem_toDigits (h ▸ List.mem_cons_self)
      exact absurd hdigit (by decide)
    · rfl

/-- An integer is read from its digits. -/
theorem number?_signed {negative : Bool} {n : Nat} {v : Json} (hn : n ≤ Number.maxDigits)
    (hv : Number.integer? negative n = some v) : number? (signed negative n) = some (v, []) := by
  rw [← Number.value?_toDigits hn] at hv
  rw [number?_eq, minus_signed, digits_toDigits, if_neg]
  · show (Number.value? _).bind _ = _
    rw [hv, Option.bind_some]
  · have hne : Nat.toDigits 10 n ≠ [] := Nat.toDigits_ne_nil
    intro h
    rcases h with hempty | ⟨hhead, hlength⟩
    · exact hne (List.map_eq_nil_iff.mp (List.isEmpty_iff.mp hempty))
    · rw [List.length_map, length_toDigits_of_zero hhead] at hlength
      exact absurd hlength (by decide)

/-- An integer that is read from a text has 64 bits, with or without a sign. -/
theorem range_of_number? {cs rest : List Char} {j : Int} (h : number? cs = some (.int j, rest)) :
    -2 ^ 63 ≤ j ∧ j < 2 ^ 64 := by
  rw [number?_eq] at h
  obtain ⟨-, h⟩ := Option.ite_none_left_eq_some.mp h
  obtain ⟨_, -, h⟩ := Option.bind_eq_some_iff.mp h
  obtain ⟨_, -, h⟩ := Option.bind_eq_some_iff.mp h
  obtain ⟨v, hv, h⟩ := Option.bind_eq_some_iff.mp h
  obtain ⟨rfl, -⟩ := Prod.mk.inj (Option.some.inj h)
  exact Number.range_of_value? hv

/-! ## Strings in a text -/

/-- A hexadecimal digit is read again. -/
theorem hexDigit?_hexDigit : ∀ n < 16, hexDigit? (hexDigit n) = some n := by decide

/-- A control character is read from its number. -/
theorem unicode?_control {c : Char} (hc : c.toNat < 32) (rest : List Char) :
    unicode? ('0' :: '0' :: hexDigit (c.toNat / 16) :: hexDigit (c.toNat % 16) :: rest)
      = some (c, rest) := by
  have hhigh := hexDigit?_hexDigit (c.toNat / 16) (by omega)
  have hlow := hexDigit?_hexDigit (c.toNat % 16) (by omega)
  have hzero : hexDigit? '0' = some 0 := rfl
  have hn : ((0 * 16 + 0) * 16 + c.toNat / 16) * 16 + c.toNat % 16 = c.toNat := by omega
  unfold unicode? hex4?
  simp only [hzero, hhigh, hlow, Option.bind_eq_bind, Option.bind_some, hn, Option.pure_def]
  rw [if_neg (by omega), if_neg (by omega), Char.ofNat_toNat]

/-- A character of a string is read from its escaped form. -/
theorem chars_escapeChar (c : Char) (acc rest : List Char) (fuel : Nat) :
    chars acc (fuel + 1) (escapeChar c ++ rest) = chars (c :: acc) fuel rest := by
  by_cases hquote : c = '"'
  · rw [hquote]
    rfl
  by_cases hbackslash : c = '\\'
  · rw [hbackslash]
    rfl
  by_cases hnewline : c = '\n'
  · rw [hnewline]
    rfl
  by_cases hreturn : c = '\r'
  · rw [hreturn]
    rfl
  by_cases htab : c = '\t'
  · rw [htab]
    rfl
  simp only [escapeChar, beq_iff_eq, hquote, hbackslash, hnewline, hreturn, htab, if_false]
  by_cases hcontrol : c.toNat < 0x20
  · rw [if_pos hcontrol]
    show (unicode? ('0' :: '0' :: hexDigit (c.toNat / 16) :: hexDigit (c.toNat % 16)
      :: rest)).bind _ = _
    rw [unicode?_control hcontrol]
    rfl
  · -- the character stands for itself, and none of the other cases of the reader is about it
    rw [if_neg hcontrol, List.singleton_append, chars.eq_def]
    split
    case h_5 fuel' c' rest' _ _ hfuel hc =>
      obtain ⟨rfl, rfl⟩ := List.cons.inj hc
      obtain rfl := Nat.succ.inj hfuel
      exact if_neg hcontrol
    all_goals simp_all

/-- A string is read up to its closing quote. -/
theorem chars_quoted (cs acc rest : List Char) {fuel : Nat} (h : cs.length < fuel) :
    chars acc fuel (cs.flatMap escapeChar ++ '"' :: rest)
      = some (String.ofList (acc.reverse ++ cs), rest) := by
  induction cs generalizing acc fuel with
  | nil =>
    obtain ⟨fuel, rfl⟩ := Nat.exists_eq_add_one_of_ne_zero (Nat.ne_of_gt h)
    rw [List.append_nil]
    rfl
  | cons c cs ih =>
    obtain ⟨fuel, rfl⟩ := Nat.exists_eq_add_one_of_ne_zero (Nat.ne_of_gt (Nat.zero_lt_of_lt h))
    rw [List.flatMap_cons, List.append_assoc, chars_escapeChar,
      ih (c :: acc) (Nat.lt_of_succ_lt_succ h), List.reverse_cons, List.append_assoc,
      List.singleton_append]

/-- Escaping does not shorten a text. -/
theorem length_le_quoted (cs : List Char) : cs.length ≤ (cs.flatMap escapeChar).length := by
  induction cs with
  | nil => exact Nat.le_refl _
  | cons c cs ih =>
    have hpos : escapeChar c ≠ [] := by
      unfold escapeChar
      repeat' split
      all_goals exact List.cons_ne_nil _ _
    have hlength := List.length_pos_of_ne_nil hpos
    rw [List.flatMap_cons, List.length_append, List.length_cons]
    omega

/-! ## Values in a text -/

/-- A text that starts with a digit or a minus sign is read as a number. -/
theorem value?_eq_number? {c : Char} (hc : c = '-' ∨ c.isDigit = true) (fuel : Nat)
    (cs : List Char) : value? (fuel + 1) (c :: cs) = number? (c :: cs) := by
  have hne : ∀ d : Char, d ≠ '-' → d.isDigit = false → c ≠ d := by
    intro d hminus hdigit hcd
    rw [hcd, hdigit] at hc
    exact hc.elim hminus Bool.false_ne_true
  have hblank : isBlank c = false := by
    simp only [isBlank, Bool.or_eq_false_iff, beq_eq_false_iff_ne]
    exact ⟨⟨⟨hne ' ' (by decide) (by decide), hne '\n' (by decide) (by decide)⟩,
      hne '\t' (by decide) (by decide)⟩, hne '\r' (by decide) (by decide)⟩
  have hskip : skip (c :: cs) = c :: cs :=
    List.dropWhile_cons_of_neg (by rw [hblank]; exact Bool.false_ne_true)
  rw [value?, hskip]
  split
  case h_7 => rfl
  all_goals
    next heq => exact absurd (List.cons.inj heq).1 (hne _ (by decide) (by decide))

/-- An integer that is read as a value has 64 bits, with or without a sign. -/
theorem range_of_value? {fuel : Nat} {cs rest : List Char} {j : Int}
    (h : value? fuel cs = some (.int j, rest)) : -2 ^ 63 ≤ j ∧ j < 2 ^ 64 := by
  cases fuel with
  | zero =>
    rw [value?] at h
    exact nomatch h
  | succ fuel =>
    rw [value?] at h
    split at h
    case h_7 => exact range_of_number? h
    case h_1 | h_2 | h_3 => exact nomatch h
    case h_4 =>
      obtain ⟨_, -, h⟩ := Option.map_eq_some_iff.mp h
      exact nomatch h
    case h_5 | h_6 =>
      split at h
      · exact nomatch h
      · obtain ⟨_, -, h⟩ := Option.map_eq_some_iff.mp h
        exact nomatch h

end Parser

/-- Only an integer is an integer in canonical form. -/
theorem int_of_canonical {v : Json} {j : Int} (h : v.canonical = .int j) : v = .int j := by
  cases v with
  | int n => exact h
  | _ => simp [canonical] at h

/-- A number is read as an integer only if it fits 64 bits. -/
theorem range_of_parse? {s : String} {j : Int} (h : parse? s = some (.int j)) :
    -2 ^ 63 ≤ j ∧ j < 2 ^ 64 := by
  unfold parse? at h
  dsimp only at h
  split at h
  · next v rest hv =>
    obtain ⟨-, hj⟩ := Option.ite_none_right_eq_some.mp h
    rw [int_of_canonical (Option.some.inj hj)] at hv
    exact Parser.range_of_value? hv
  · exact nomatch h

/-- A text is read if all of it is one value. -/
theorem parse?_of_value? {s : String} {v : Json} (hv : v.WellFormed)
    (h : ∀ fuel, Parser.value? (fuel + 1) s.toList = some (v, [])) : parse? s = some v := by
  unfold parse?
  dsimp only
  rw [h]
  exact congrArg some (canonical_eq_self hv)

/-- A string is read from its quoted form. -/
theorem parse?_quote (s : String) : parse? (quote s) = some (.str s) := by
  have hread : Parser.string? (s.toList.flatMap escapeChar ++ ['"']) = some (s, []) := by
    have hlength := Parser.length_le_quoted s.toList
    unfold Parser.string?
    rw [Parser.chars_quoted s.toList [] [] (by rw [List.length_append]; omega), List.reverse_nil,
      List.nil_append, String.ofList_toList]
  have hformed : (str s).WellFormed := trivial
  apply parse?_of_value? hformed
  intro fuel
  rw [quote, String.toList_ofList, Parser.value?]
  show (Parser.string? (s.toList.flatMap escapeChar ++ ['"'])).map _ = _
  rw [hread]
  rfl

/-- An integer is written as its sign and the digits of its magnitude. -/
theorem toList_toString (n : Int) :
    (toString n).toList = Parser.signed (decide (n < 0)) n.natAbs := by
  rw [Int.toString_eq_repr, Int.repr_eq_if]
  unfold Parser.signed
  by_cases h : 0 ≤ n
  · have habs : n.toNat = n.natAbs := by omega
    rw [if_pos h, decide_eq_false (by omega), Nat.toList_repr, habs]
    rfl
  · have habs : (-n).toNat = n.natAbs := by omega
    rw [if_neg h, decide_eq_true (by omega), String.toList_append, Nat.toList_repr, habs]
    rfl

/-- The sign or the first digit. -/
theorem Parser.exists_cons_signed (negative : Bool) (n : Nat) :
    ∃ c cs, signed negative n = c :: cs ∧ (c = '-' ∨ c.isDigit = true) := by
  cases negative with
  | true => exact ⟨'-', Nat.toDigits 10 n, rfl, Or.inl rfl⟩
  | false =>
    obtain ⟨c, cs, h⟩ := List.exists_cons_of_ne_nil (Nat.toDigits_ne_nil (n := n) (b := 10))
    exact ⟨c, cs, h, Or.inr (isDigit_of_mem_toDigits (h ▸ List.mem_cons_self))⟩

/-- An integer of 64 bits is read from its digits. -/
theorem parse?_toString {n : Int} (hlow : -2 ^ 63 ≤ n) (hhigh : n < 2 ^ 64) :
    parse? (toString n) = some (.int n) := by
  have hinteger : Number.integer? (decide (n < 0)) n.natAbs = some (.int n) := by
    unfold Number.integer?
    by_cases h : n < 0
    · rw [if_neg (by simp [h]), if_pos (by omega)]
      congr 2
      omega
    · rw [if_pos (by simp [h])]
      congr 2
      omega
  have hnumber := Parser.number?_signed (by unfold Number.maxDigits; omega) hinteger
  obtain ⟨c, cs, hcs, hc⟩ := Parser.exists_cons_signed (decide (n < 0)) n.natAbs
  have hformed : (int n).WellFormed := trivial
  apply parse?_of_value? hformed
  intro fuel
  rw [toList_toString, hcs, Parser.value?_eq_number? hc, ← hcs, hnumber]

end BuildFleet.Json
