import BuildFleet.Proofs.Merge.Frame

/-!
# What a keyed list gathers under a key

A layer may have several elements with the same key. They are laid one after the other over the
first element of the base with that key; if the base has none, the first of them is taken over and
the others are laid over it. Further elements of the base with the key stay as they are.

> `Rules.layAll_keyed`, `Rules.tail_filter_keyed`: so much for all elements with a key, whatever the
> lists are;
> `Rules.lay_flatMap_of_layAll`: lists inside of them are laid as one list;
> `Rules.adopts_keyed`: where the base has none, there is one element afterwards, and it is the
> layer's own if the layer has only one.
-/

namespace BuildFleet

namespace Rules

variable {α : Type} {r : Rules α} {key : α → String}

/-- Lays values one after the other over one that may be absent. -/
def layAll (r : Rules α) : Option α → List α → Option (Option α)
  | o, [] => some o
  | o, x :: l => (r.optional.lay o (some x)).bind fun o' => r.layAll o' l

/-- Nothing is there afterwards only if nothing was laid over nothing. -/
theorem isSome_layAll : ∀ {l : List α} {o v : Option α}, r.layAll o l = some v →
    v.isSome = (o.isSome || l.head?.isSome)
  | [], o, v, h => by
    obtain rfl := Option.some.inj h
    exact (Bool.or_false o.isSome).symm
  | x :: l, o, v, h => by
    obtain ⟨o', ho', hrest⟩ := Option.bind_eq_some_iff.mp h
    have hsome : o'.isSome = true := by
      rcases lay_optional_cases ho' with ⟨-, rfl⟩ | ⟨hx, -⟩ | ⟨-, -, w, -, -, rfl, -⟩
      · rfl
      · exact nomatch hx
      · rfl
    rw [isSome_layAll hrest, hsome, Bool.true_or]
    exact (Bool.or_true o.isSome).symm

/-- Two layers of a keyed list, one after the other, are one layer. -/
theorem lay_keyed_append : ∀ (l₁ l₂ b : List α), (r.keyed key).lay b (l₁ ++ l₂)
    = ((r.keyed key).lay b l₁).bind fun v => (r.keyed key).lay v l₂
  | [], _, _ => rfl
  | x :: l₁, l₂, b => by
    rw [List.cons_append, lay_keyed_cons, lay_keyed_cons, Option.bind_assoc]
    exact congrArg _ (funext fun v => lay_keyed_append l₁ l₂ v)

/-- Where values are laid one after the other, so are their lists. -/
theorem lay_flatMap_of_layAll {β : Type} {r' : Rules β} {key' : β → String} {f : α → List β}
    (hf : ∀ b l v, r.lay b l = some v → (r'.keyed key').lay (f b) (f l) = some (f v)) :
    ∀ {l : List α} {z w : α}, r.layAll (some z) l = some (some w) →
      (r'.keyed key').lay (f z) (l.flatMap f) = some (f w)
  | [], z, w, h => by
    obtain rfl : z = w := Option.some.inj (Option.some.inj h)
    rfl
  | x :: l, z, w, h => by
    rw [layAll, lay_optional_some] at h
    obtain ⟨o, ho, hrest⟩ := Option.bind_eq_some_iff.mp h
    obtain ⟨y, hy, rfl⟩ := Option.map_eq_some_iff.mp ho
    rw [List.flatMap_cons, lay_keyed_append, hf z x y hy, Option.bind_some]
    exact lay_flatMap_of_layAll hf hrest

section Keyed

variable (hkey : letI := r.mergeable; KeepsKey key) {k : String}

include hkey

/-- The layer's elements with a key are laid over the first one of the base, and that is the first
one afterwards. -/
theorem layAll_keyed : ∀ {l b v : List α}, (r.keyed key).lay b l = some v →
    r.layAll (b.find? (key · == k)) (l.filter (key · == k)) = some (v.find? (key · == k))
  | [], b, v, hv => by
    obtain rfl := Option.some.inj hv
    rfl
  | x :: l, b, v, hv => by
    rw [lay_keyed_cons] at hv
    obtain ⟨w, hw, hv⟩ := Option.bind_eq_some_iff.mp hv
    by_cases hx : key x = k
    · rw [List.filter_cons_of_pos (by simpa using hx)]
      exact Option.bind_eq_some_iff.mpr
        ⟨_, find?_layElement_of_eq hkey hx hw, layAll_keyed hv⟩
    · rw [List.filter_cons_of_neg (by simpa using hx), ← find?_layElement_of_ne hkey hx hw]
      exact layAll_keyed hv

/-- Of the elements with one key, only the first one changes. -/
theorem tail_filter_layElement {x : α} : ∀ {l v : List α}, r.layElement key x l = some v →
    (v.filter (key · == k)).tail = (l.filter (key · == k)).tail
  | [], v, hv => by
    obtain rfl : [x] = v := Option.some.inj hv
    rw [List.filter_cons]
    split <;> rfl
  | z :: l, v, hv => by
    by_cases hz : key z = key x
    · rw [layElement_cons_of_eq hz] at hv
      obtain ⟨w, hw, rfl⟩ := Option.map_eq_some_iff.mp hv
      have hwz : key w = key z := key_lay hkey hz hw
      rw [List.filter_cons, List.filter_cons, hwz]
      split <;> rfl
    · rw [layElement_cons_of_ne hz] at hv
      obtain ⟨v', hv', rfl⟩ := Option.map_eq_some_iff.mp hv
      rw [List.filter_cons, List.filter_cons]
      split
      · next hk =>
        -- the head is the first one with the key, and the element has another
        have hx : key x ≠ k := fun hx => hz ((beq_iff_eq.mp hk).trans hx.symm)
        exact filter_layElement_of_ne hkey hx hv'
      · exact tail_filter_layElement hv'

/-- Elements with a key that is there already are merged into the first one that has it. -/
theorem tail_filter_keyed : ∀ {l b v : List α}, (r.keyed key).lay b l = some v →
    (v.filter (key · == k)).tail = (b.filter (key · == k)).tail
  | [], b, v, hv => by
    obtain rfl := Option.some.inj hv
    rfl
  | x :: l, b, v, hv => by
    rw [lay_keyed_cons] at hv
    obtain ⟨w, hw, hv⟩ := Option.bind_eq_some_iff.mp hv
    rw [tail_filter_keyed hv, tail_filter_layElement hkey hw]

/-- Under a key there is something afterwards exactly if there was something before. -/
theorem isSome_find?_keyed {b l v : List α} (hv : (r.keyed key).lay b l = some v) :
    (v.find? (key · == k)).isSome
      = ((b.find? (key · == k)).isSome || (l.find? (key · == k)).isSome) := by
  rw [isSome_layAll (layAll_keyed hkey hv), List.head?_filter]

end Keyed

end Rules

/-- Under each key that the base lacks and the layer has, there is one element in `v`. It is the
layer's own if the layer has no other with the key. -/
def Adopts {α : Type} (key : α → String) (b l v : List α) : Prop :=
  ∀ k, k ∉ b.map key → k ∈ l.map key → ∃ w, v.filter (key · == k) = [w]
    ∧ ∀ x, l.filter (key · == k) = [x] → w = x

/-- A merged list has one element under each key that only the layer has, and the layer's own if
that is its only one. -/
theorem Rules.adopts_keyed {α : Type} {r : Rules α} {key : α → String}
    (hkey : letI := r.mergeable; KeepsKey key) {b l v : List α}
    (hv : (r.keyed key).lay b l = some v) : Adopts key b l v := by
  intro k hb hl
  have hbase : b.filter (key · == k) = [] := by
    rw [List.filter_eq_nil_iff]
    exact fun y hy hyk => hb (List.mem_map.mpr ⟨y, hy, beq_iff_eq.mp hyk⟩)
  have hall := layAll_keyed hkey (k := k) hv
  have htail := tail_filter_keyed hkey (k := k) hv
  rw [← List.head?_filter, hbase, ← List.head?_filter] at hall
  rw [hbase] at htail
  cases hls : l.filter (key · == k) with
  | nil =>
    obtain ⟨x, hx, hxk⟩ := List.mem_map.mp hl
    exact absurd (beq_iff_eq.mpr hxk) (List.filter_eq_nil_iff.mp hls x hx)
  | cons x xs =>
    have hsome := isSome_layAll hall
    cases hvs : v.filter (key · == k) with
    | nil => simp [hls, hvs] at hsome
    | cons w ws =>
      rw [hvs] at htail
      obtain rfl : ws = [] := htail
      refine ⟨w, rfl, ?_⟩
      intro x' hx'
      -- the only element is taken over, and nothing is laid over it
      rw [hls, hvs, hx'] at hall
      exact (Option.some.inj (Option.some.inj hall)).symm

end BuildFleet
