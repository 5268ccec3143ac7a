import BuildFleet.Proofs.Network.Numbers
import Mathlib.Data.List.Basic

/-!
# Addresses that are written and read

An address of version 6 has many texts and is written in one of them. Whatever is left out of that
one is found again: the groups before two colons and those behind them are read as they stand, and
zeros fill the rest.

> `Address.isValid_of_ofText?`: what is read has bytes and groups in range, and eight groups;
> `Address.ofText?_text`: every such address is read from its text.
-/

namespace BuildFleet.Address

/-- The addresses that there are. -/
def IsValid : Address → Prop
  | v4 a b c d => a ≤ 255 ∧ b ≤ 255 ∧ c ≤ 255 ∧ d ≤ 255
  | v6 gs => gs.length = 8 ∧ ∀ g ∈ gs, g < 65536

/-! ## What is read -/

/-- A group that is read has 16 bits. -/
theorem lt_of_group? {first : Bool} {g : Nat} {cs rest : List Char}
    (h : group? first cs = some (g, rest)) : g < 65536 := by
  obtain ⟨_, -, h⟩ := Option.bind_eq_some_iff.mp h
  exact (of_number? (by decide) h).1

/-- Both groups of embedded bytes have 16 bits. -/
theorem lt_of_embedded? {first : Bool} {a b : Nat} {cs rest : List Char}
    (h : embedded? first cs = some ((a, b), rest)) : a < 65536 ∧ b < 65536 := by
  simp only [embedded?, Option.bind_eq_bind, Option.bind_eq_some_iff, Prod.exists] at h
  obtain ⟨_, -, a', b', c', d', _, hbytes, h⟩ := h
  cases h
  obtain ⟨⟨ha, hb, hc, hd⟩, -⟩ := of_bytes? hbytes
  exact ⟨by omega, by omega⟩

/-- No more groups are read than there is room for. -/
theorem of_groups (room : Nat) (first : Bool) (cs : List Char) :
    (groups room first cs).1.length ≤ room ∧ ∀ g ∈ (groups room first cs).1, g < 65536 := by
  induction room generalizing first cs with
  | zero => exact ⟨Nat.le_refl 0, nofun⟩
  | succ room ih =>
    rw [groups]
    split
    · next a b rest hembedded =>
      obtain ⟨hroom, hembedded⟩ := Option.ite_none_left_eq_some.mp hembedded
      obtain ⟨ha, hb⟩ := lt_of_embedded? hembedded
      exact ⟨Nat.succ_le_succ (Nat.pos_of_ne_zero hroom), by simp [ha, hb]⟩
    · split
      · exact ⟨Nat.zero_le _, nofun⟩
      · next g rest hgroup =>
        obtain ⟨hlength, hrange⟩ := ih false rest
        exact ⟨Nat.succ_le_succ hlength, List.forall_mem_cons.mpr ⟨lt_of_group? hgroup, hrange⟩⟩

/-- An address that is read has eight groups of 16 bits. -/
theorem of_sixteens? {gs : List Nat} {cs rest : List Char} (h : sixteens? cs = some (gs, rest)) :
    gs.length = 8 ∧ ∀ g ∈ gs, g < 65536 := by
  have hfront := of_groups 8 true cs
  unfold sixteens? at h
  generalize groups 8 true cs = read at h hfront
  obtain ⟨front, ended, after⟩ := read
  obtain ⟨hlength, hrange⟩ := hfront
  dsimp only at h hlength hrange
  by_cases hfull : front.length = 8
  · rw [if_pos hfull] at h
    cases h
    exact ⟨hfull, hrange⟩
  · rw [if_neg hfull] at h
    obtain ⟨-, h⟩ := Option.ite_none_left_eq_some.mp h
    split at h
    · next behind _ =>
      obtain ⟨hback, hbackrange⟩ := of_groups (7 - front.length) true behind
      cases h
      constructor
      · simp only [List.length_append, List.length_replicate]
        omega
      · simp only [List.forall_mem_append]
        refine ⟨⟨hrange, fun g hg => ?_⟩, hbackrange⟩
        rw [List.eq_of_mem_replicate hg]
        decide
    · cases h

/-- An address that is read is valid. -/
theorem isValid_of_ofText? {s : String} {a : Address} (h : ofText? s = some a) : a.IsValid := by
  unfold ofText? at h
  split at h
  · next hbytes =>
    cases h
    exact (of_bytes? hbytes).1
  · cases h
  · split at h
    · next hgroups =>
      cases h
      exact of_sixteens? hgroups
    · cases h

/-! ## Groups -/

/-- Groups, as characters. -/
def joined : Bool → List Nat → List Char
  | _, [] => []
  | first, g :: gs => (if first then [] else [':']) ++ (Nat.toDigits 16 g ++ joined false gs)

/-- A text that no group is read from: there is nothing left, or two colons come next. -/
def Ends (rest : List Char) : Prop := rest = [] ∨ ∃ after, rest = ':' :: ':' :: after

/-- No group is read where the groups end. -/
theorem Ends.group?_eq_none {rest : List Char} (h : Ends rest) (first : Bool) :
    group? first rest = none := by
  rcases h with rfl | ⟨after, rfl⟩
  · cases first <;> rfl
  · cases first <;> rfl

/-- What is behind the colon was in the text. -/
theorem mem_of_afterColon? {first : Bool} {cs after : List Char}
    (h : afterColon? first cs = some after) {c : Char} (hc : c ∈ after) : c ∈ cs := by
  unfold afterColon? at h
  split at h
  · exact Option.some.inj h ▸ hc
  · split at h
    · exact List.mem_cons_of_mem _ (Option.some.inj h ▸ hc)
    · cases h

/-- Without a point there are no four bytes. -/
theorem bytes?_eq_none {cs : List Char} (h : '.' ∉ cs) : bytes? cs = none :=
  Option.eq_none_iff_forall_not_mem.mpr fun _ hread => h (of_bytes? hread).2

/-- Without a point no bytes are embedded. -/
theorem embedded?_eq_none {first : Bool} {cs : List Char} (h : '.' ∉ cs) :
    embedded? first cs = none := by
  refine Option.bind_eq_none_iff.mpr fun after hafter => ?_
  rw [bytes?_eq_none fun hmem => h (mem_of_afterColon? hafter hmem)]
  rfl

/-- A point is no digit and no mark between groups. -/
theorem point_notMem_joined {gs : List Nat} {first : Bool} : '.' ∉ joined first gs := by
  induction gs generalizing first with
  | nil => nofun
  | cons g gs ih =>
    have hdigits : '.' ∉ Nat.toDigits 16 g := fun hmem =>
      absurd (forall_digit?_toDigits (by decide) (by decide) g '.' hmem) (by decide)
    cases first <;> simp [joined, hdigits, ih]

/-- Groups go up to the colon after them, or to the end of the text. -/
theorem head?_joined {gs : List Nat} {rest : List Char} (h : Ends rest) :
    ∀ c ∈ (joined false gs ++ rest).head?, digit? 16 c = none := by
  cases gs with
  | nil =>
    rcases h with rfl | ⟨after, rfl⟩
    · nofun
    · rintro c ⟨⟩
      rfl
  | cons g gs =>
    rintro c ⟨⟩
    rfl

/-- The first of joined groups is read, and the others are left. -/
theorem group?_joined {g : Nat} (hg : g < 65536) {gs : List Nat} {first : Bool} {rest : List Char}
    (h : Ends rest) :
    group? first (joined first (g :: gs) ++ rest) = some (g, joined false gs ++ rest) := by
  have hnumber : number? 16 4 (Nat.toDigits 16 g ++ (joined false gs ++ rest))
      = some (g, joined false gs ++ rest) :=
    number?_toDigits (by decide) (by decide) (by decide) hg (head?_joined h)
  rw [joined, List.append_assoc, List.append_assoc]
  cases first with
  | false => exact hnumber
  | true => exact hnumber

section

variable {room : Nat} {first : Bool} {cs rest : List Char}

/-- No groups are read where neither a group nor bytes are. -/
theorem groups_of_none (hembedded : embedded? first cs = none) (hgroup : group? first cs = none) :
    groups room first cs = ([], false, cs) := by
  cases room with
  | zero => rfl
  | succ room => rw [groups, hembedded, hgroup, ite_self]

/-- A group that is read comes before those that are read after it. -/
theorem groups_of_group? {g : Nat} {read : List Nat × Bool × List Char}
    (hembedded : embedded? first cs = none) (hgroup : group? first cs = some (g, rest))
    (hrest : groups room false rest = read) :
    groups (room + 1) first cs = (g :: read.1, read.2.1, read.2.2) := by
  rw [groups, hembedded, ite_self]
  simp only [hgroup, hrest]

/-- Embedded bytes are the last two groups. -/
theorem groups_of_embedded? {a b : Nat} (hroom : room ≠ 0)
    (hembedded : embedded? first cs = some ((a, b), rest)) :
    groups (room + 1) first cs = ([a, b], true, rest) := by
  rw [groups, if_neg hroom, hembedded]

/-- Zeros stand in place of two colons. -/
theorem sixteens?_of_groups {front back : List Nat} {after : List Char} {ended : Bool}
    (hfront : groups 8 true cs = (front, false, ':' :: ':' :: after)) (hlength : front.length ≠ 8)
    (hback : groups (7 - front.length) true after = (back, ended, rest)) :
    sixteens? cs
      = some (front ++ List.replicate (8 - front.length - back.length) 0 ++ back, rest) := by
  unfold sixteens?
  simp only [hfront, hback, if_neg hlength]
  rfl

end

/-- The groups that are written are read, up to where they end. -/
theorem groups_joined (room : Nat) (first : Bool) {gs : List Nat} {rest : List Char}
    (hroom : gs.length ≤ room) (hrange : ∀ g ∈ gs, g < 65536) (hends : Ends rest)
    (hpoint : '.' ∉ rest) : groups room first (joined first gs ++ rest) = (gs, false, rest) := by
  induction gs generalizing room first with
  | nil => exact groups_of_none (embedded?_eq_none hpoint) (hends.group?_eq_none first)
  | cons g gs ih =>
    obtain ⟨room, rfl⟩ := Nat.exists_eq_add_one_of_ne_zero (Nat.ne_zero_of_lt hroom)
    obtain ⟨hg, hgs⟩ := List.forall_mem_cons.mp hrange
    have hnone : '.' ∉ joined first (g :: gs) ++ rest :=
      List.mem_append.not.mpr (not_or.mpr ⟨point_notMem_joined, hpoint⟩)
    exact groups_of_group? (embedded?_eq_none hnone) (group?_joined hg hends)
      (ih room false (Nat.le_of_succ_le_succ hroom) hgs)

/-- The text of groups is the groups joined with colons. -/
theorem toList_groupsText : ∀ gs : List Nat, (groupsText gs).toList = joined true gs
  | [] => rfl
  | [g] => by simp [groupsText, groupText, joined]
  | g :: g' :: gs => by
    have hrest := toList_groupsText (g' :: gs)
    simp only [groupsText, groupText, String.toList_intercalate, List.map_cons,
      String.toList_ofList] at hrest ⊢
    rw [List.intercalate_cons_cons, hrest]
    simp [joined]

/-! ## Zeros that are left out -/

/-- The groups are the zeros of a run with others before and behind them. -/
theorem of_longestZeroRun {gs : List Nat} {start s n : Nat} (h : longestZeroRun start gs = (s, n))
    (hn : 0 < n) :
    ∃ front back, gs = front ++ (List.replicate n 0 ++ back) ∧ s = start + front.length := by
  induction gs generalizing start with
  | nil =>
    cases h
    exact absurd hn (Nat.lt_irrefl 0)
  | cons g rest ih =>
    simp only [longestZeroRun] at h
    split at h
    · cases h
      have hzeros : (g :: rest).takeWhile (· == 0) = List.replicate (zeroRun (g :: rest)) 0 :=
        List.eq_replicate_iff.mpr ⟨rfl, fun b hb =>
          of_decide_eq_true (List.all_eq_true.mp List.all_takeWhile b hb)⟩
      refine ⟨[], (g :: rest).dropWhile (· == 0), ?_, rfl⟩
      rw [List.nil_append, ← hzeros, List.takeWhile_append_dropWhile]
    · obtain ⟨front, back, rfl, rfl⟩ := ih h
      exact ⟨g :: front, back, rfl, by rw [List.length_cons]; omega⟩

/-- All eight groups. -/
theorem sixteens?_joined {gs : List Nat} (hlength : gs.length = 8) (hrange : ∀ g ∈ gs, g < 65536) :
    sixteens? (joined true gs) = some (gs, []) := by
  have hread := groups_joined 8 true (Nat.le_of_eq hlength) hrange (Or.inl rfl)
    List.not_mem_nil
  rw [List.append_nil] at hread
  unfold sixteens?
  simp only [hread, hlength, if_true]

/-- Two colons for at least two zeros. -/
theorem sixteens?_elided {front back : List Nat} {n : Nat} (hn : 2 ≤ n)
    (hlength : front.length + n + back.length = 8) (hfront : ∀ g ∈ front, g < 65536)
    (hback : ∀ g ∈ back, g < 65536) :
    sixteens? (joined true front ++ ':' :: ':' :: joined true back)
      = some (front ++ List.replicate n 0 ++ back, []) := by
  have hends : Ends (':' :: ':' :: joined true back) := Or.inr ⟨_, rfl⟩
  have hpoint : '.' ∉ ':' :: ':' :: joined true back := by simp [point_notMem_joined]
  have hreadfront := groups_joined 8 true (by omega) hfront hends hpoint
  have hreadback := groups_joined (7 - front.length) true (by omega) hback
    (Or.inl rfl) List.not_mem_nil
  rw [List.append_nil] at hreadback
  have hzeros : 8 - front.length - back.length = n := by omega
  rw [sixteens?_of_groups hreadfront (by omega) hreadback, hzeros]

/-! ## Whole texts -/

/-- Embedded bytes are read again as two groups. -/
theorem embedded?_bytesChars {a b c d : Nat} (ha : a ≤ 255) (hb : b ≤ 255) (hc : c ≤ 255)
    (hd : d ≤ 255) :
    embedded? false (':' :: bytesChars a b c d) = some ((a * 256 + b, c * 256 + d), []) := by
  unfold embedded?
  rw [show afterColon? false (':' :: bytesChars a b c d) = some (bytesChars a b c d) from rfl,
    Option.bind_eq_bind, Option.bind_some, bytes?_bytesChars ha hb hc hd]
  rfl

/-- A version 4 address in place of the last two groups. -/
theorem sixteens?_mapped {a b c d : Nat} (ha : a ≤ 255) (hb : b ≤ 255) (hc : c ≤ 255)
    (hd : d ≤ 255) :
    sixteens? (':' :: ':' :: (Nat.toDigits 16 0xffff ++ ':' :: bytesChars a b c d))
      = some ([0, 0, 0, 0, 0, 0xffff, a * 256 + b, c * 256 + d], []) := by
  have hgroup : group? true (Nat.toDigits 16 0xffff ++ ':' :: bytesChars a b c d)
      = some (0xffff, ':' :: bytesChars a b c d) := by
    show number? 16 4 (Nat.toDigits 16 0xffff ++ ':' :: bytesChars a b c d) = _
    refine number?_toDigits (by decide) (by decide) (by decide) (by decide) ?_
    rintro c ⟨⟩
    rfl
  have hlast : groups 6 false (':' :: bytesChars a b c d)
      = ([a * 256 + b, c * 256 + d], true, []) :=
    groups_of_embedded? (by decide) (embedded?_bytesChars ha hb hc hd)
  have hback : groups 7 true (Nat.toDigits 16 0xffff ++ ':' :: bytesChars a b c d)
      = ([0xffff, a * 256 + b, c * 256 + d], true, []) :=
    groups_of_group? rfl hgroup hlast
  exact sixteens?_of_groups (groups_of_none rfl rfl) (by decide) hback

/-- Eight groups are read again, and not as four bytes. -/
theorem sixteens?_sixteensText {gs : List Nat} (hlength : gs.length = 8)
    (hrange : ∀ g ∈ gs, g < 65536) : bytes? (sixteensText gs).toList = none
      ∧ sixteens? (sixteensText gs).toList = some (gs, []) := by
  unfold sixteensText
  split
  · next a b =>
    have ha : a < 65536 := hrange a (by simp)
    have hb : b < 65536 := hrange b (by simp)
    have hchars : "::ffff:".toList ++ bytesChars (a / 256) (a % 256) (b / 256) (b % 256)
        = ':' :: ':' :: (Nat.toDigits 16 0xffff
          ++ ':' :: bytesChars (a / 256) (a % 256) (b / 256) (b % 256)) := rfl
    rw [String.toList_append, toList_bytesText, hchars]
    refine ⟨rfl, ?_⟩
    rw [sixteens?_mapped (by omega) (by omega) (by omega) (by omega), Nat.div_add_mod',
      Nat.div_add_mod']
  · generalize hrun : longestZeroRun 0 gs = run
    obtain ⟨start, n⟩ := run
    dsimp only
    split
    · rw [toList_groupsText]
      exact ⟨bytes?_eq_none point_notMem_joined, sixteens?_joined hlength hrange⟩
    · next hn =>
      obtain ⟨front, back, rfl, rfl⟩ := of_longestZeroRun hrun (by omega)
      simp only [List.length_append, List.length_replicate] at hlength
      simp only [List.forall_mem_append] at hrange
      have htake : (front ++ (List.replicate n 0 ++ back)).take (0 + front.length) = front := by
        rw [Nat.zero_add, List.take_left]
      have hdrop : (front ++ (List.replicate n 0 ++ back)).drop (0 + front.length + n) = back := by
        rw [Nat.zero_add, ← List.drop_drop, List.drop_left]
        exact List.drop_left' List.length_replicate
      rw [htake, hdrop, String.toList_append, String.toList_append, toList_groupsText,
        toList_groupsText, List.append_assoc]
      constructor
      · refine bytes?_eq_none ?_
        simp [point_notMem_joined]
      · rw [← List.append_assoc front]
        exact sixteens?_elided (by omega) (by omega) hrange.1 hrange.2.2

/-- An address is read from its text. -/
theorem ofText?_text {a : Address} (h : a.IsValid) : ofText? a.text = some a := by
  cases a with
  | v4 a b c d =>
    obtain ⟨ha, hb, hc, hd⟩ := h
    unfold ofText? text
    rw [toList_bytesText, bytes?_bytesChars ha hb hc hd]
  | v6 gs =>
    obtain ⟨hbytes, hgroups⟩ := sixteens?_sixteensText h.1 h.2
    unfold ofText? text
    rw [hbytes, hgroups]

end BuildFleet.Address
