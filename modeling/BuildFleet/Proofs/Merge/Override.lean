import BuildFleet.Proofs.Merge.Elements
import BuildFleet.Proofs.Merge.Overlay

/-!
# What a merge shows at each place

A merge can be read off place by place: what stands somewhere in the outcome depends only on what
the layer and the base have at that place (`Leaf.onto`). The layer must not repeat keys in its keyed
lists; where it does, its second element goes on top of its first one, and looking up a key shows
the first only.

> `Composed.look_lay`: this holds for all rules in use.
-/

namespace BuildFleet

variable {α : Type}

/-- What the outcome has at a place is the layer's leaf over the base's. -/
def Rules.ShowsAt (r : Rules α) (b l v : α) (place : Place) : Prop :=
  r.look v place = Leaf.onto (r.look l place) (r.look b place)

/-! ## Values that may be absent -/

/-- A merged optional value shows at a place what the layer or the base has there, if its values do.
-/
theorem showsAt_optional {r : Rules α} {b l v : Option α} {place : Place}
    (h : ∀ x ∈ b, ∀ y ∈ l, ∀ w, r.lay x y = some w → r.ShowsAt x y w place)
    (hv : r.optional.lay b l = some v) : r.optional.ShowsAt b l v place := by
  rcases Rules.lay_optional_cases hv with ⟨rfl, rfl⟩ | ⟨rfl, rfl⟩ | ⟨x, y, w, rfl, rfl, rfl, hw⟩
  · exact (Leaf.onto_none_right (r.optional.look v place)).symm
  · exact (Leaf.onto_none_left (r.optional.look v place)).symm
  · exact h x rfl y rfl w hw

/-! ## Free-form JSON -/

namespace Json

open Rules (json)

/-- At the top a merged JSON value is the layer's leaf, or the base's if the layer has none. -/
theorem leaf_lay {b l v : Json} (h : json.lay b l = some v) :
    some v.leaf = Leaf.onto (some l.leaf) (some b.leaf) := by
  rcases lay_cases h with ⟨rfl, rfl⟩ | ⟨rfl, rfl⟩ | ⟨bs, ls, vs, rfl, rfl, rfl⟩
    | ⟨bs, ls, rfl, rfl, rfl⟩ | ⟨-, hs, rfl⟩
  · cases v <;> rfl
  · exact (if_pos (Bool.or_true _)).symm
  · rfl
  · show some (Leaf.json (arr (atomic bs ls)))
      = if !ls.isEmpty || false then some (Leaf.json (arr ls)) else some (Leaf.json (arr bs))
    unfold atomic
    cases ls.isEmpty <;> rfl
  · have hsets : v.leaf.sets = true := leaf_sets_of_isScalar hs
    exact (if_pos (by rw [hsets, Bool.true_or])).symm

/-- At any place a merged JSON value shows what the layer has there, or else what the base has. -/
theorem showsAt_lay {b l v : Json} (hb : b.WellFormed) (hl : l.WellFormed)
    (h : json.lay b l = some v) (place : Place) : json.ShowsAt b l v place := by
  induction place generalizing b l v with
  | nil => exact leaf_lay h
  | cons s place ih =>
    cases s with
    | member k =>
      -- under the key, the members of the three values stand in the same relation
      have hmember : json.optional.ShowsAt (b.member? k) (l.member? k) (v.member? k) place :=
        showsAt_optional (fun x hx y hy w hw => ih (hb.member? hx) (hl.member? hy) hw)
          (member?_lay hb hl h k)
      unfold Rules.ShowsAt
      rw [look_member, look_member, look_member]
      exact hmember
    | _ => rfl

end Json

/-! ## All rules -/

/-- Where the layer does not repeat keys, the outcome can be read off. -/
theorem Composed.look_lay {r : Rules α} (h : Composed r) :
    ∀ b l v, r.Fits b l → r.Distinct l → r.lay b l = some v →
      ∀ place, r.ShowsAt b l v place := by
  induction h with
  | @single _ m leaf hmerge hleaf =>
    intro b l v _ _ hv place
    rw [Rules.lay_single hmerge] at hv
    obtain rfl := Option.some.inj hv
    cases place with
    | nil =>
      show some (leaf _) = if (leaf l).sets || (leaf b).isNull then _ else _
      rw [Leaf.isNull_of_kind?_eq_none (hleaf b), Bool.or_false]
      split <;> rfl
    | cons _ _ => rfl
  | @fixed _ leaf =>
    intro b l v hbl _ hv place
    obtain rfl : b = v := Option.some.inj hv
    obtain rfl : b = l := hbl
    exact (Leaf.onto_self _).symm
  | freeForm =>
    intro b l v _ _ hv
    have hjson : Rules.json.lay b.toJson l.toJson = some v.toJson := by
      rw [← FreeForm.map_toJson_lay, hv, Option.map_some]
    exact Json.showsAt_lay b.wellFormed l.wellFormed hjson
  | optional _ ih =>
    intro b l v hbl hl hv place
    refine showsAt_optional ?_ hv
    intro x hx y hy w hw
    exact ih x y w (hbl x hx y hy) (hl y hy) hw place
  | @keyed _ r key _ hkey hfits ih =>
    intro b l v _ hl hv place
    cases place with
    | nil => rfl
    | cons s place =>
      cases s with
      | element k =>
        -- what is found under one key behaves like a value that may be absent
        refine showsAt_optional ?_ (Rules.find?_keyed hkey k hl.1 hv)
        intro x hx y hy w hw
        have hxk : key x = k := by simpa using List.find?_some hx
        have hyk : key y = k := by simpa using List.find?_some hy
        exact ih x y w (hfits x y (hxk.trans hyk.symm)) (hl.2 y (List.mem_of_find?_eq_some hy)) hw
          place
      | _ => rfl
  | @composite _ m fits part _ hmerge hfits ih =>
    intro b l v hbl hl hv place
    cases place with
    | nil => rfl
    | cons s place =>
      show ((part s).bind fun f => f.rules.look (f.get v) place)
        = Leaf.onto ((part s).bind fun f => f.rules.look (f.get l) place)
          ((part s).bind fun f => f.rules.look (f.get b) place)
      cases hs : part s with
      | none => rfl
      | some f =>
        have hf : f ∈ part s := hs
        have hlay : f.rules.lay (f.get b) (f.get l) = some (f.get v) :=
          (hmerge.lay_iff b l v).mp hv s f hf
        exact ih s f hf _ _ _ (hfits b l hbl s f hf) (hl s f hf) hlay place

end BuildFleet
