import BuildFleet.Proofs.Merge.Elements
import BuildFleet.Proofs.Merge.Overlay

/-!
# Merging removes nothing

What a base has, it keeps under any number of layers, in the sense of `Rules.Retains`: set leaves
stay set, values stay present, elements keep their key and position, and free-form values keep
their place and kind.

> `Composed.retains_lay`: one layer removes nothing;
> `Composed.retains_mergeAll`: so any number of layers does not, because what is retained twice is
> retained (`Composed.retains_trans`).

The layers may repeat keys, and so may the base.
-/

namespace BuildFleet

variable {α : Type}

/-! ## Free-form JSON -/

namespace Json

open Rules (json)

/-- A JSON value retains itself. -/
theorem retains_refl (v : Json) : Retains v v :=
  fun _ x hx => ⟨x, hx, fun _ => rfl, fun h => h⟩

/-- What retains a value that retains another retains the other one. -/
theorem Retains.trans {b v w : Json} (hv : Retains b v) (hw : Retains v w) : Retains b w := by
  intro place x hx
  obtain ⟨y, hy, hkind, hsets⟩ := hv place x hx
  obtain ⟨z, hz, hkind', hsets'⟩ := hw place y hy
  refine ⟨z, hz, ?_, fun h => hsets' (hsets h)⟩
  intro hnull
  have hyx : y.kind = x.kind := hkind hnull
  exact (hkind' (hyx ▸ hnull)).trans hyx

/-- A list that is not empty stays so. -/
theorem isEmpty_atomic {bs ls : List Json} (h : bs.isEmpty = false) :
    (atomic bs ls).isEmpty = false := by
  unfold atomic
  split
  · exact h
  · next hl => exact eq_false_of_ne_true hl

/-- The value itself keeps its kind, and says something if it did. -/
theorem retains_root {b l v : Json} (h : json.lay b l = some v) :
    (b.kind ≠ .null → v.kind = b.kind) ∧ (b.leaf.sets = true → v.leaf.sets = true) := by
  rcases lay_cases h with ⟨-, rfl⟩ | ⟨rfl, -⟩ | ⟨bs, ls, vs, rfl, -, rfl⟩
    | ⟨bs, ls, rfl, -, rfl⟩ | ⟨hkind, hs, rfl⟩
  · exact ⟨fun _ => rfl, fun h => h⟩
  · exact ⟨fun h => absurd rfl h, fun h => nomatch h⟩
  · exact ⟨fun _ => rfl, fun h => nomatch h⟩
  · refine ⟨fun _ => rfl, fun hb => ?_⟩
    have hbs : bs.isEmpty = false := by simpa [leaf, Leaf.sets] using hb
    have hvs : (atomic bs ls).isEmpty = false := isEmpty_atomic hbs
    simpa [leaf, Leaf.sets] using hvs
  · exact ⟨fun _ => hkind.symm, fun _ => leaf_sets_of_isScalar hs⟩

/-- A value that the base has under a key is still there, merged with what the layer has. -/
theorem exists_member?_lay {b l v x : Json} {k : String} (hb : b.WellFormed) (hl : l.WellFormed)
    (h : json.lay b l = some v) (hx : b.member? k = some x) :
    ∃ w, v.member? k = some w ∧ (w = x ∨ ∃ y, l.member? k = some y ∧ json.lay x y = some w) := by
  rcases Rules.lay_optional_cases (member?_lay hb hl h k) with ⟨hbk, -⟩ | ⟨-, hvk⟩
    | ⟨x', y, w, hbk, hlk, hvk, hw⟩
  · rw [hx] at hbk
    exact nomatch hbk
  · exact ⟨x, hvk.trans hx, Or.inl rfl⟩
  · obtain rfl := Option.some.inj (hx.symm.trans hbk)
    exact ⟨w, hvk, Or.inr ⟨y, hlk, hw⟩⟩

/-- A merged JSON value retains the base. -/
theorem retains_lay {b l v : Json} (hb : b.WellFormed) (hl : l.WellFormed)
    (h : json.lay b l = some v) : Retains b v := by
  intro place
  induction place generalizing b l v with
  | nil =>
    intro x hx
    obtain rfl := Option.some.inj hx
    exact ⟨v, rfl, retains_root h⟩
  | cons s place ih =>
    intro x hx
    cases s with
    | member k =>
      -- the member is as it was, or merged with the layer's, and then less of the place is left
      obtain ⟨w, hbk, hwx⟩ := Option.bind_eq_some_iff.mp hx
      obtain ⟨w', hvk, rfl | ⟨y, hlk, hw'⟩⟩ := exists_member?_lay hb hl h hbk
      · exact ⟨x, Option.bind_eq_some_iff.mpr ⟨w', hvk, hwx⟩, fun _ => rfl, fun h => h⟩
      · obtain ⟨z, hz, hretained⟩ := ih (hb.member? hbk) (hl.member? hlk) hw' x hwx
        exact ⟨z, Option.bind_eq_some_iff.mpr ⟨w', hvk, hz⟩, hretained⟩
    | _ => exact nomatch hx

end Json

/-! ## Keyed lists -/

/-- Laying one element leaves every other one as it is, and every one in its position. -/
theorem retains_layElement {r : Rules α} {key : α → String}
    (hkey : letI := r.mergeable; KeepsKey key) (hrefl : ∀ x, r.Retains x x)
    (hlay : ∀ b l v, r.lay b l = some v → r.Retains b v) {x : α} :
    ∀ {l v : List α}, r.layElement key x l = some v → (r.keyed key).Retains l v
  | [], _, _ => fun i y hy => by simp at hy
  | z :: l, v, hv => by
    by_cases hz : key z = key x
    · rw [Rules.layElement_cons_of_eq hz] at hv
      obtain ⟨w, hw, rfl⟩ := Option.map_eq_some_iff.mp hv
      intro i y hy
      cases i with
      | zero =>
        obtain rfl := Option.some.inj hy
        exact ⟨w, rfl, Rules.key_lay hkey hz hw, hlay z x w hw⟩
      | succ i => exact ⟨y, hy, rfl, hrefl y⟩
    · rw [Rules.layElement_cons_of_ne hz] at hv
      obtain ⟨v', hv', rfl⟩ := Option.map_eq_some_iff.mp hv
      intro i y hy
      cases i with
      | zero =>
        obtain rfl := Option.some.inj hy
        exact ⟨z, rfl, rfl, hrefl z⟩
      | succ i => exact retains_layElement hkey hrefl hlay hv' i y hy

section Keyed

variable {r : Rules α} {key : α → String}

/-- A keyed list retains itself if its elements do. -/
theorem retains_keyed_refl (hrefl : ∀ x, r.Retains x x) (b : List α) :
    (r.keyed key).Retains b b :=
  fun _ x hx => ⟨x, hx, rfl, hrefl x⟩

/-- Keyed lists retain one another in turn if their elements do. -/
theorem retains_keyed_trans
    (htrans : ∀ b v w, r.Retains b v → r.Retains v w → r.Retains b w) {b v w : List α}
    (hv : (r.keyed key).Retains b v) (hw : (r.keyed key).Retains v w) :
    (r.keyed key).Retains b w := by
  intro i x hx
  obtain ⟨y, hy, hkey, hxy⟩ := hv i x hx
  obtain ⟨z, hz, hkey', hyz⟩ := hw i y hy
  exact ⟨z, hz, hkey'.trans hkey, htrans x y z hxy hyz⟩

/-- What stands first in a keyed list stays first. -/
theorem exists_cons_of_retains {b v : List α} (h : (r.keyed key).Retains b v) {x : α} {xs : List α}
    (hb : b = x :: xs) : ∃ y ys, v = y :: ys ∧ key y = key x ∧ r.Retains x y := by
  obtain ⟨y, hy, hkey, hxy⟩ := h 0 x (by rw [hb]; rfl)
  cases v with
  | nil => exact nomatch hy
  | cons z zs =>
    obtain rfl := Option.some.inj hy
    exact ⟨z, zs, rfl, hkey, hxy⟩

/-- What is retained of a keyed list starts with its keys. -/
theorem keys_prefix_of_retains : ∀ {b v : List α}, (r.keyed key).Retains b v →
    b.map key <+: v.map key
  | [], v, _ => List.nil_prefix
  | x :: b, v, h => by
    obtain ⟨y, v, rfl, hkey, -⟩ := exists_cons_of_retains h rfl
    have hrest : (r.keyed key).Retains b v := fun i z hz => h (i + 1) z hz
    rw [List.map_cons, List.map_cons, List.cons_prefix_cons]
    exact ⟨hkey.symm, keys_prefix_of_retains hrest⟩

end Keyed

/-! ## All rules -/

namespace Composed

theorem retains_refl {r : Rules α} (h : Composed r) : ∀ b, r.Retains b b := by
  induction h with
  | single _ _ => exact fun _ h => h
  | fixed _ => exact fun _ => rfl
  | freeForm => exact fun f => Json.retains_refl f.toJson
  | optional _ ih => exact fun _ x hx => ⟨x, hx, ih x⟩
  | keyed _ _ _ ih => exact retains_keyed_refl ih
  | composite _ _ _ ih => exact fun _ s f hf => ih s f hf _

theorem retains_trans {r : Rules α} (h : Composed r) :
    ∀ b v w, r.Retains b v → r.Retains v w → r.Retains b w := by
  induction h with
  | single _ _ => exact fun _ _ _ hv hw hb => hw (hv hb)
  | fixed _ => exact fun _ _ _ hv hw => Eq.trans hw hv
  | freeForm => exact fun _ _ _ hv hw => Json.Retains.trans hv hw
  | optional _ ih =>
    intro b v w hv hw x hx
    obtain ⟨y, hy, hxy⟩ := hv x hx
    obtain ⟨z, hz, hyz⟩ := hw y hy
    exact ⟨z, hz, ih x y z hxy hyz⟩
  | keyed _ _ _ ih => exact fun _ _ _ hv hw => retains_keyed_trans ih hv hw
  | composite _ _ _ ih =>
    exact fun _ _ _ hv hw s f hf => ih s f hf _ _ _ (hv s f hf) (hw s f hf)

/-- A layer removes nothing. -/
theorem retains_lay {r : Rules α} (h : Composed r) :
    ∀ b l v, r.lay b l = some v → r.Retains b v := by
  induction h with
  | @single _ m leaf hmerge _ =>
    intro b l v hv hb
    rw [Rules.lay_single hmerge] at hv
    obtain rfl := Option.some.inj hv
    by_cases hl : (leaf l).sets = true
    · rw [if_pos hl]
      exact hl
    · rw [if_neg hl]
      exact hb
  | fixed _ => exact fun _ _ _ hv => (Option.some.inj hv).symm
  | freeForm =>
    intro b l v hv
    have hjson : Rules.json.lay b.toJson l.toJson = some v.toJson := by
      rw [← FreeForm.map_toJson_lay, hv, Option.map_some]
    exact Json.retains_lay b.wellFormed l.wellFormed hjson
  | optional hr ih =>
    intro b l v hv
    rcases Rules.lay_optional_cases hv with ⟨rfl, -⟩ | ⟨-, rfl⟩ | ⟨x, y, w, rfl, rfl, rfl, hw⟩
    · exact fun x hx => nomatch hx
    · exact hr.optional.retains_refl v
    · intro x' hx'
      obtain rfl := Option.some.inj hx'
      exact ⟨w, rfl, ih x y w hw⟩
  | @keyed _ r key hr hkey _ ih =>
    intro b l
    induction l generalizing b with
    | nil =>
      intro v hv
      obtain rfl := Option.some.inj hv
      exact retains_keyed_refl hr.retains_refl b
    | cons x l ihl =>
      intro v hv
      rw [Rules.lay_keyed_cons] at hv
      obtain ⟨w, hw, hv⟩ := Option.bind_eq_some_iff.mp hv
      have hfirst : (r.keyed key).Retains b w := retains_layElement hkey hr.retains_refl ih hw
      exact retains_keyed_trans hr.retains_trans hfirst (ihl w v hv)
  | composite _ hmerge _ ih =>
    intro b l v hv s f hf
    exact ih s f hf _ _ _ ((hmerge.lay_iff b l v).mp hv s f hf)

/-- Layers remove nothing, however many there are. -/
theorem retains_mergeAll {r : Rules α} (h : Composed r) :
    ∀ {layers : List α} {base v : α}, letI := r.mergeable
      mergeAll base layers = .ok v → r.Retains base v
  | [], base, v, hv => Except.ok.inj hv ▸ h.retains_refl base
  | layer :: layers, base, v, hv => by
    let _ := r.mergeable
    obtain ⟨x, hx, hrest⟩ := mergeAll_cons_eq_ok_iff.mp hv
    have hfirst : r.Retains base x := h.retains_lay base layer x hx
    exact h.retains_trans base x v hfirst (h.retains_mergeAll hrest)

end Composed

end BuildFleet
