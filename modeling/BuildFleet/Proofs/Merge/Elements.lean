import BuildFleet.Proofs.Merge.Composed

/-!
# Laying elements into a keyed list

A keyed list is merged element by element (`Rules.lay_keyed_cons`), and laying one element goes down
the list to the first one with its key (`Rules.layElement`). What follows is what one such step
does to the list, and from it, by induction on the layer, what a whole layer does.

> `Rules.find?_layElement`, `Rules.find?_keyed`: to what is found under a key;
> `Rules.forall_layElement`, `Rules.forall_keyed`: to what all elements have in common;
> `Rules.keys_layElement`: to the keys.
-/

namespace BuildFleet.Rules

variable {α : Type} {r : Rules α} {key : α → String}

/-- Lays one element into a list, if that succeeds. -/
def layElement (r : Rules α) (key : α → String) (x : α) (l : List α) : Option (List α) :=
  letI := r.mergeable
  (mergeElement key x l).value?

/-- An element is appended to the empty list. -/
@[simp] theorem layElement_nil (x : α) : r.layElement key x [] = some [x] := rfl

/-- An element is merged into the one with its key. -/
theorem layElement_cons_of_eq {x z : α} (h : key z = key x) (l : List α) :
    r.layElement key x (z :: l) = (r.lay z x).map (· :: l) := by
  let _ := r.mergeable
  show (mergeElement key x (z :: l)).value? = (BuildFleet.merge z x).value?.map (· :: l)
  rw [mergeElement, if_pos h, Merged.value?_map, Merged.value?_within]

/-- An element goes past those with another key. -/
theorem layElement_cons_of_ne {x z : α} (h : key z ≠ key x) (l : List α) :
    r.layElement key x (z :: l) = (r.layElement key x l).map (z :: ·) := by
  let _ := r.mergeable
  show (mergeElement key x (z :: l)).value? = (mergeElement key x l).value?.map (z :: ·)
  rw [mergeElement, if_neg h, Merged.value?_map]

/-- Lists are merged by laying one element after the other. -/
theorem lay_keyed_cons (b l : List α) (x : α) :
    (r.keyed key).lay b (x :: l) = (r.layElement key x b).bind fun v => (r.keyed key).lay v l :=
  letI := r.mergeable
  Merged.value?_andThen (mergeElement key x b) fun v => BuildFleet.keyed key v l

/-! ## Keys -/

section Keys

variable (hkey : letI := r.mergeable; KeepsKey key)

include hkey

/-- Two merged elements of a key give one of that key. -/
theorem key_lay {b l v : α} (h : key b = key l) (hv : r.lay b l = some v) : key v = key b := by
  obtain ⟨-, rfl⟩ := Merged.value?_eq_some_iff.mp hv
  exact hkey b l h

/-- An element adds its key at the end, if the list does not have it. -/
theorem keys_layElement {x : α} {l v : List α} (hv : r.layElement key x l = some v) :
    v.map key = if key x ∈ l.map key then l.map key else l.map key ++ [key x] := by
  let _ := r.mergeable
  obtain ⟨-, rfl⟩ := Merged.value?_eq_some_iff.mp hv
  exact keys_mergeElement hkey x l

/-- The key of the element is there afterwards. -/
theorem key_mem_layElement {x : α} {l v : List α} (hv : r.layElement key x l = some v) :
    key x ∈ v.map key := by
  rw [keys_layElement hkey hv]
  split
  · assumption
  · exact List.mem_append_right _ List.mem_cons_self

/-- All keys that were there still are. -/
theorem key_mem_layElement_of_mem {x : α} {l v : List α} {k : String}
    (hv : r.layElement key x l = some v) (hk : k ∈ l.map key) : k ∈ v.map key := by
  rw [keys_layElement hkey hv]
  split
  · exact hk
  · exact List.mem_append_left _ hk

/-- Laying an element makes no key occur twice. -/
theorem keys_layElement_nodup {x : α} {l v : List α} (hv : r.layElement key x l = some v)
    (hl : (l.map key).Nodup) : (v.map key).Nodup := by
  let _ := r.mergeable
  obtain ⟨-, rfl⟩ := Merged.value?_eq_some_iff.mp hv
  exact keys_mergeElement_nodup hkey x hl

end Keys

/-! ## What all elements have in common -/

/-- The elements of a list that an element is laid into are as before, new or merged. -/
theorem forall_layElement {P : α → Prop} (hlay : ∀ b l v, P b → P l → r.lay b l = some v → P v)
    {x : α} (hx : P x) : ∀ {l v : List α}, (∀ z ∈ l, P z) → r.layElement key x l = some v →
      ∀ z ∈ v, P z
  | [], v, _, hv => by
    obtain rfl := Option.some.inj hv
    exact List.forall_mem_singleton.mpr hx
  | z :: l, v, hl, hv => by
    obtain ⟨hz, hrest⟩ := List.forall_mem_cons.mp hl
    by_cases h : key z = key x
    · rw [layElement_cons_of_eq h] at hv
      obtain ⟨w, hw, rfl⟩ := Option.map_eq_some_iff.mp hv
      exact List.forall_mem_cons.mpr ⟨hlay z x w hz hx hw, hrest⟩
    · rw [layElement_cons_of_ne h] at hv
      obtain ⟨v', hv', rfl⟩ := Option.map_eq_some_iff.mp hv
      exact List.forall_mem_cons.mpr ⟨hz, forall_layElement hlay hx hrest hv'⟩

/-- What merging elements keeps holds of all elements of the merged list. -/
theorem forall_keyed {P : α → Prop} (hlay : ∀ b l v, P b → P l → r.lay b l = some v → P v) :
    ∀ {l b v : List α}, (∀ z ∈ b, P z) → (∀ z ∈ l, P z) → (r.keyed key).lay b l = some v →
      ∀ z ∈ v, P z
  | [], b, v, hb, _, hv => by
    obtain rfl := Option.some.inj hv
    exact hb
  | x :: l, b, v, hb, hl, hv => by
    rw [lay_keyed_cons] at hv
    obtain ⟨w, hw, hv⟩ := Option.bind_eq_some_iff.mp hv
    obtain ⟨hx, hl⟩ := List.forall_mem_cons.mp hl
    exact forall_keyed hlay (forall_layElement hlay hx hb hw) hl hv

/-! ## What is found under a key -/

/-- Under its own key an element is laid over what is found there, and other keys find the same as
before. -/
theorem find?_layElement (hkey : letI := r.mergeable; KeepsKey key) {x : α} (k : String) :
    ∀ {l v : List α}, r.layElement key x l = some v →
      r.optional.lay (l.find? (key · == k)) ([x].find? (key · == k)) = some (v.find? (key · == k))
  | [], v, hv => by
    obtain rfl := Option.some.inj hv
    exact r.lay_optional_none_left _
  | z :: l, v, hv => by
    by_cases h : key z = key x
    · -- the element goes into the head, which is found under the same key afterwards
      rw [layElement_cons_of_eq h] at hv
      obtain ⟨w, hw, rfl⟩ := Option.map_eq_some_iff.mp hv
      have hwz : key w = key z := key_lay hkey h hw
      by_cases hk : key z = k
      · have hxk : key x = k := h.symm.trans hk
        have hwk : key w = k := hwz.trans hk
        simp only [List.find?_cons, beq_iff_eq.mpr hk, beq_iff_eq.mpr hxk, beq_iff_eq.mpr hwk]
        rw [r.lay_optional_some, hw]
        rfl
      · have hxk : key x ≠ k := fun e => hk (h.trans e)
        have hwk : key w ≠ k := fun e => hk (hwz.symm.trans e)
        simp only [List.find?_cons, beq_eq_false_iff_ne.mpr hk, beq_eq_false_iff_ne.mpr hxk,
          beq_eq_false_iff_ne.mpr hwk]
        exact r.lay_optional_none_right _
    · -- it passes the head, and so does the search unless the head has the key
      rw [layElement_cons_of_ne h] at hv
      obtain ⟨v', hv', rfl⟩ := Option.map_eq_some_iff.mp hv
      by_cases hk : key z = k
      · have hxk : key x ≠ k := fun e => h (hk.trans e.symm)
        simp only [List.find?_cons, beq_iff_eq.mpr hk, beq_eq_false_iff_ne.mpr hxk]
        exact r.lay_optional_none_right _
      · have hz : ¬ (key z == k) = true := fun e => hk (beq_iff_eq.mp e)
        rw [List.find?_cons_of_neg (l := l) hz, List.find?_cons_of_neg (l := v') hz]
        exact find?_layElement hkey k hv'

/-- Under the key of the element there is what it merges to with the one that was there. -/
theorem find?_layElement_of_eq (hkey : letI := r.mergeable; KeepsKey key) {x : α} {k : String}
    (hx : key x = k) {l v : List α} (hv : r.layElement key x l = some v) :
    r.optional.lay (l.find? (key · == k)) (some x) = some (v.find? (key · == k)) := by
  have hfind := find?_layElement hkey k hv
  rw [List.find?_cons_of_pos (by simpa using hx)] at hfind
  exact hfind

/-- Under another key there is what was there. -/
theorem find?_layElement_of_ne (hkey : letI := r.mergeable; KeepsKey key) {x : α} {k : String}
    (hx : key x ≠ k) {l v : List α} (hv : r.layElement key x l = some v) :
    v.find? (key · == k) = l.find? (key · == k) := by
  have hfind := find?_layElement hkey k hv
  rw [List.find?_cons_of_neg (by simpa using hx), List.find?_nil,
    r.lay_optional_none_right] at hfind
  exact (Option.some.inj hfind).symm

/-- Where a layer does not repeat keys, what it has under a key is laid over what the base has
there. -/
theorem find?_keyed (hkey : letI := r.mergeable; KeepsKey key) (k : String) :
    ∀ {l b v : List α}, (l.map key).Nodup → (r.keyed key).lay b l = some v →
      r.optional.lay (b.find? (key · == k)) (l.find? (key · == k)) = some (v.find? (key · == k))
  | [], b, v, _, hv => by
    obtain rfl := Option.some.inj hv
    exact r.lay_optional_none_right _
  | x :: l, b, v, hl, hv => by
    rw [List.map_cons, List.nodup_cons] at hl
    rw [lay_keyed_cons] at hv
    obtain ⟨w, hw, hv⟩ := Option.bind_eq_some_iff.mp hv
    have hrest := find?_keyed hkey k hl.2 hv
    by_cases hx : key x = k
    · -- the key does not come up again
      have hnone : l.find? (key · == k) = none := by
        rw [List.find?_eq_none]
        intro y hy hyk
        exact hl.1 (List.mem_map.mpr ⟨y, hy, (beq_iff_eq.mp hyk).trans hx.symm⟩)
      rw [hnone, r.lay_optional_none_right] at hrest
      rw [List.find?_cons_of_pos (by simpa using hx), find?_layElement_of_eq hkey hx hw, hrest]
    · rw [List.find?_cons_of_neg (by simpa using hx), ← find?_layElement_of_ne hkey hx hw]
      exact hrest

end BuildFleet.Rules
