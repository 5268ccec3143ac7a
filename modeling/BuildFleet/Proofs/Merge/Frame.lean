import BuildFleet.Proofs.Merge.Elements

/-!
# What a layer leaves alone

Merging only changes a value where the layer says something. So a property of the base is kept by
every layer of which too little is known to keep it, as long as the layer says nothing in the places
that the property is about (`Rules.Withstands`). Where both sides have the same property, this is
what `Rules.Keeps` says; here the two differ, and the base has more to lose.

In a keyed list the places are keys. Elements of a layer with other keys pass by:

> `Rules.filter_keyed_of_ne`: what a list has under a key is as before if the layer has nothing there;
> `Rules.Withstands.keyed`: and a single element under a key withstands there what it withstands as
> an element.

What fields withstand, their record withstands (`Fieldwise.withstands`), and what withstands one
layer withstands all (`Rules.Withstands.mergeAll`).
-/

namespace BuildFleet

namespace Rules

variable {α : Type} {r : Rules α} {key : α → String} {P P' Q Q' : α → Prop}

/-- A value with the first property still has it after a layer with the second one. -/
def Withstands (r : Rules α) (P Q : α → Prop) : Prop :=
  ∀ b l v, P b → Q l → r.lay b l = some v → P v

/-- Two properties that withstand layers do so together. -/
theorem Withstands.and (h : r.Withstands P Q) (h' : r.Withstands P' Q') :
    r.Withstands (fun x => P x ∧ P' x) (fun x => Q x ∧ Q' x) :=
  fun b l v hb hl hv => ⟨h b l v hb.1 hl.1 hv, h' b l v hb.2 hl.2 hv⟩

/-- Any number of properties that withstand layers do so together. -/
theorem withstands_forall {ι : Type} {P Q : ι → α → Prop} (h : ∀ i, r.Withstands (P i) (Q i)) :
    r.Withstands (fun x => ∀ i, P i x) (fun x => ∀ i, Q i x) :=
  fun b l v hb hl hv i => h i b l v (hb i) (hl i) hv

/-- What withstands each of the layers holds of what all of them merge to. -/
theorem Withstands.mergeAll (h : r.Withstands P Q) : letI := r.mergeable
    ∀ {layers : List α} {base v : α}, BuildFleet.mergeAll base layers = .ok v → P base →
      (∀ l ∈ layers, Q l) → P v
  | [], _, _, hv, hbase, _ => Except.ok.inj hv ▸ hbase
  | layer :: layers, base, v, hv, hbase, hlayers => by
    let _ := r.mergeable
    obtain ⟨x, hx, hrest⟩ := mergeAll_cons_eq_ok_iff.mp hv
    obtain ⟨hlayer, hlayers⟩ := List.forall_mem_cons.mp hlayers
    exact Withstands.mergeAll h hrest (h base layer x hbase hlayer hx) hlayers

/-- A layer that is absent changes nothing. -/
theorem withstands_optional_none (r : Rules α) (o : Option α) :
    r.optional.Withstands (· = o) (· = none) := by
  intro b l v hb hl hv
  subst hb hl
  rw [r.lay_optional_none_right] at hv
  exact (Option.some.inj hv).symm

/-! ## Keyed lists -/

section Keyed

variable (hkey : letI := r.mergeable; KeepsKey key) {k : String}

include hkey

/-- An element with another key passes by. -/
theorem filter_layElement_of_ne {x : α} (hx : key x ≠ k) : ∀ {l v : List α},
    r.layElement key x l = some v → v.filter (key · == k) = l.filter (key · == k)
  | [], v, hv => by
    have hv' : [x] = v := Option.some.inj hv
    rw [← hv', List.filter_cons_of_neg (by simpa using hx)]
  | z :: l, v, hv => by
    by_cases h : key z = key x
    · rw [layElement_cons_of_eq h] at hv
      obtain ⟨w, hw, rfl⟩ := Option.map_eq_some_iff.mp hv
      have hz : key z ≠ k := h ▸ hx
      have hwz : key w ≠ k := (key_lay hkey h hw).symm ▸ hz
      rw [List.filter_cons_of_neg (by simpa using hwz), List.filter_cons_of_neg (by simpa using hz)]
    · rw [layElement_cons_of_ne h] at hv
      obtain ⟨v', hv', rfl⟩ := Option.map_eq_some_iff.mp hv
      rw [List.filter_cons, List.filter_cons, filter_layElement_of_ne hx hv']

/-- The elements of a key stay as they are under layers that have none of that key. -/
theorem filter_keyed_of_ne : ∀ {l b v : List α}, (∀ x ∈ l, key x ≠ k) →
    (r.keyed key).lay b l = some v → v.filter (key · == k) = b.filter (key · == k)
  | [], b, v, _, hv => by
    obtain rfl := Option.some.inj hv
    rfl
  | x :: l, b, v, hl, hv => by
    obtain ⟨hx, hl⟩ := List.forall_mem_cons.mp hl
    rw [lay_keyed_cons] at hv
    obtain ⟨w, hw, hv⟩ := Option.bind_eq_some_iff.mp hv
    rw [filter_keyed_of_ne hl hv, filter_layElement_of_ne hkey hx hw]

/-- The elements of a key withstand layers without the key. -/
theorem withstands_keyed (es : List α) :
    (r.keyed key).Withstands (fun l => l.filter (key · == k) = es) (fun l => ∀ x ∈ l, key x ≠ k) :=
  fun _ _ _ hb hl hv => (filter_keyed_of_ne hkey hl hv).trans hb

/-- The element that is the only one with its key is still the only one, and has its property, after
another one was laid in. -/
theorem Withstands.layElement (h : r.Withstands P Q) {x : α} (hx : key x = k → Q x) :
    ∀ {l v : List α}, (∃ c, l.filter (key · == k) = [c] ∧ P c) → r.layElement key x l = some v →
      ∃ c, v.filter (key · == k) = [c] ∧ P c
  | [], _, hl, _ => by
    obtain ⟨c, hc, -⟩ := hl
    exact nomatch hc
  | z :: l, v, hl, hv => by
    obtain ⟨c, hc, hP⟩ := hl
    by_cases hk : key x = k
    · by_cases hzx : key z = key x
      · -- it goes into the head, which is the one with the key
        rw [layElement_cons_of_eq hzx] at hv
        obtain ⟨w, hw, rfl⟩ := Option.map_eq_some_iff.mp hv
        have hz : key z = k := hzx.trans hk
        have hwk : key w = k := (key_lay hkey hzx hw).trans hz
        rw [List.filter_cons_of_pos (by simpa using hz), List.cons_eq_cons] at hc
        obtain ⟨rfl, hrest⟩ := hc
        refine ⟨w, ?_, h z x w hP (hx hk) hw⟩
        rw [List.filter_cons_of_pos (by simpa using hwk), hrest]
      · rw [layElement_cons_of_ne hzx] at hv
        obtain ⟨v', hv', rfl⟩ := Option.map_eq_some_iff.mp hv
        have hz : key z ≠ k := fun hz => hzx (hz.trans hk.symm)
        rw [List.filter_cons_of_neg (by simpa using hz)] at hc
        obtain ⟨c', hc', hP'⟩ := Withstands.layElement h hx ⟨c, hc, hP⟩ hv'
        refine ⟨c', ?_, hP'⟩
        rw [List.filter_cons_of_neg (by simpa using hz), hc']
    · exact ⟨c, (filter_layElement_of_ne hkey hk hv).trans hc, hP⟩

/-- The only element of a key withstands layers whose elements of that key it withstands. -/
theorem Withstands.keyed (h : r.Withstands P Q) : (r.keyed key).Withstands
    (fun l => ∃ c, l.filter (key · == k) = [c] ∧ P c) (fun l => ∀ x ∈ l, key x = k → Q x) := by
  intro b l
  induction l generalizing b with
  | nil =>
    intro v hb _ hv
    obtain rfl := Option.some.inj hv
    exact hb
  | cons x l ih =>
    intro v hb hl hv
    obtain ⟨hx, hl⟩ := List.forall_mem_cons.mp hl
    rw [lay_keyed_cons] at hv
    obtain ⟨w, hw, hv⟩ := Option.bind_eq_some_iff.mp hv
    exact ih w v (Withstands.layElement hkey h hx hb hw) hl hv

end Keyed

end Rules

/-- What a field withstands, its record withstands there. -/
theorem Fieldwise.withstands {α : Type} [Mergeable α] {parts : List (Step × Facet α)}
    (h : Fieldwise parts) {e : Step × Facet α} (he : e ∈ parts) {P Q : e.2.Field → Prop}
    (hP : e.2.rules.Withstands P Q) {fits : α → α → Prop} :
    (Rules.composite merge fits fun s => parts.lookup s).Withstands (fun x => P (e.2.get x))
      (fun x => Q (e.2.get x)) := by
  intro b l v hb hl hv
  exact hP _ _ _ hb hl (h.lay_iff.mp hv e he)

end BuildFleet
