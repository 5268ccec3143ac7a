import BuildFleet.Proofs.Merge.Parts

/-!
# Laying free-form JSON

What comes out when one JSON value is laid over another, case by case: a null on either side gives
way, objects merge as maps do, a list is replaced by one that is not empty, a scalar is replaced by
one of its kind, and values of different kinds do not merge.

> `lay_cases`: there are no other cases;
> `lay_obj`: objects in key order merge part by part, like any map;
> `member?_lay`: what this comes to under one key, whatever the values are.
-/

namespace BuildFleet

namespace Json

open Rules (json)

/-- The value is not null and holds no other values. -/
def IsScalar (v : Json) : Prop := v.kind ≠ .null ∧ v.kind ≠ .array ∧ v.kind ≠ .object

/-- A scalar is always set. -/
theorem leaf_sets_of_isScalar {v : Json} (h : v.IsScalar) : v.leaf.sets = true := by
  cases v with
  | null => exact absurd rfl h.1
  | arr items => exact absurd rfl h.2.1
  | obj fields => exact absurd rfl h.2.2
  | _ => rfl

/-- Only null is of the kind of null. -/
theorem eq_null_of_kind : ∀ {v : Json}, v.kind = .null → v = null
  | null, _ => rfl

/-- What is of the kind of objects has members. -/
theorem eq_obj_of_kind : ∀ {v : Json}, v.kind = .object → ∃ fields, v = obj fields
  | obj fields, _ => ⟨fields, rfl⟩

/-- What is of the kind of lists has items. -/
theorem eq_arr_of_kind : ∀ {v : Json}, v.kind = .array → ∃ items, v = arr items
  | arr items, _ => ⟨items, rfl⟩

/-- Null changes nothing. -/
theorem lay_null_right (b : Json) : json.lay b null = some b := by
  show (overlay null b).value? = some b
  rw [overlay]
  rfl

/-- A scalar is laid over a value as a whole. -/
theorem overlay_of_isScalar {b l : Json} (hl : l.IsScalar) : overlay l b = overlayScalar l b := by
  cases l with
  | null => exact absurd rfl hl.1
  | arr items => exact absurd rfl hl.2.1
  | obj fields => exact absurd rfl hl.2.2
  | _ => rw [overlay]

/-- A scalar replaces null and values of its kind, and clashes with all others. -/
theorem lay_scalar {b l : Json} (hl : l.IsScalar) :
    json.lay b l = if b.kind = .null ∨ b.kind = l.kind then some l else none := by
  show (overlay l b).value? = _
  rw [overlay_of_isScalar hl, overlayScalar]
  split <;> rfl

/-- Over null any value stays as it is. -/
theorem lay_null_left (l : Json) : json.lay null l = some l := by
  cases l with
  | null => exact lay_null_right null
  | arr items =>
    show (overlay (arr items) null).value? = _
    rw [overlay]
    rfl
  | obj fields =>
    show (overlay (obj fields) null).value? = _
    rw [overlay]
    rfl
  | _ => exact (lay_scalar (by simp [IsScalar, kind])).trans (if_pos (Or.inl rfl))

/-- A list that is not empty replaces another. -/
theorem lay_arr (bs ls : List Json) :
    json.lay (arr bs) (arr ls) = some (arr (atomic bs ls)) := by
  show (overlay (arr ls) (arr bs)).value? = _
  rw [overlay]
  rfl

/-- Merging members into an object that is in key order is merging them into a map. -/
theorem overlayFields_eq_mergeEntries : ∀ (ls : List (String × Json)) (d : Dict Json),
    overlayFields ls d.entries = (mergeEntries d ls).map Dict.entries
  | [], d => by
    rw [overlayFields]
    rfl
  | (k, v) :: rest, d => by
    have hget : Entries.get? k d.entries = d.get? k := rfl
    rw [overlayFields, mergeEntries, hget]
    cases d.get? k with
    | none => exact overlayFields_eq_mergeEntries rest (d.insert k v)
    | some old =>
      have hmerge : merge old v = overlay v old := rfl
      dsimp only
      rw [hmerge]
      rcases (overlay v old).within (.field k) with ⟨new, _ | e⟩
      · exact overlayFields_eq_mergeEntries rest (d.insert k new)
      · rfl

/-- Objects are merged as maps of their members. -/
theorem lay_obj {bs ls : List (String × Json)} (hb : Entries.Sorted bs) (hl : Entries.Sorted ls) :
    json.lay (obj bs) (obj ls)
      = (json.dict.lay ⟨bs, hb⟩ ⟨ls, hl⟩).map fun d => obj d.entries := by
  show (overlay (obj ls) (obj bs)).value? = (mergeEntries (⟨bs, hb⟩ : Dict Json) ls).value?.map _
  rw [overlay]
  rw [overlayFields_eq_mergeEntries ls ⟨bs, hb⟩, Merged.value?_map, Merged.value?_map,
    Option.map_map]
  rfl

/-- Values of different kinds do not merge, and both kinds are reported. -/
theorem overlay_of_kind_ne {b l : Json} (hb : b.kind ≠ .null) (hl : l.kind ≠ .null)
    (hne : b.kind ≠ l.kind) : overlay l b = .failed b b.kind l.kind := by
  by_cases hs : l.IsScalar
  · rw [overlay_of_isScalar hs, overlayScalar, if_neg (by simp [hb, hne])]
  · cases l with
    | null => exact absurd rfl hl
    | arr items =>
      rw [overlay.eq_def]
      cases b with
      | null => exact absurd rfl hb
      | arr _ => exact absurd rfl hne
      | _ => rfl
    | obj fields =>
      rw [overlay.eq_def]
      cases b with
      | null => exact absurd rfl hb
      | obj _ => exact absurd rfl hne
      | _ => rfl
    | _ => exact absurd (by simp [IsScalar, kind]) hs

/-- Values of different kinds clash unless one of them is null. -/
theorem lay_of_kind_ne {b l : Json} (hb : b.kind ≠ .null) (hl : l.kind ≠ .null)
    (hne : b.kind ≠ l.kind) : json.lay b l = none :=
  congrArg Merged.value? (overlay_of_kind_ne hb hl hne)

/-- The ways in which JSON values merge. -/
theorem lay_cases {b l v : Json} (h : json.lay b l = some v) :
    (l = null ∧ v = b) ∨ (b = null ∧ v = l)
      ∨ (∃ bs ls vs, b = obj bs ∧ l = obj ls ∧ v = obj vs)
      ∨ (∃ bs ls, b = arr bs ∧ l = arr ls ∧ v = arr (atomic bs ls))
      ∨ (b.kind = l.kind ∧ l.IsScalar ∧ v = l) := by
  by_cases hl : l.kind = .null
  · obtain rfl := eq_null_of_kind hl
    rw [lay_null_right] at h
    exact Or.inl ⟨rfl, (Option.some.inj h).symm⟩
  by_cases hb : b.kind = .null
  · obtain rfl := eq_null_of_kind hb
    rw [lay_null_left] at h
    exact Or.inr (Or.inl ⟨rfl, (Option.some.inj h).symm⟩)
  have heq : b.kind = l.kind := by
    by_cases heq : b.kind = l.kind
    · exact heq
    · rw [lay_of_kind_ne hb hl heq] at h
      exact nomatch h
  refine Or.inr (Or.inr ?_)
  by_cases hobj : l.kind = .object
  · obtain ⟨ls, rfl⟩ := eq_obj_of_kind hobj
    obtain ⟨bs, rfl⟩ := eq_obj_of_kind heq
    have hmap : (overlayFields ls bs).value?.map obj = some v := by
      rw [← Merged.value?_map, ← h]
      show _ = (overlay (obj ls) (obj bs)).value?
      rw [overlay]
    obtain ⟨vs, -, rfl⟩ := Option.map_eq_some_iff.mp hmap
    exact Or.inl ⟨bs, ls, vs, rfl, rfl, rfl⟩
  by_cases harr : l.kind = .array
  · obtain ⟨ls, rfl⟩ := eq_arr_of_kind harr
    obtain ⟨bs, rfl⟩ := eq_arr_of_kind heq
    rw [lay_arr] at h
    exact Or.inr (Or.inl ⟨bs, ls, rfl, rfl, (Option.some.inj h).symm⟩)
  have hs : l.IsScalar := ⟨hl, harr, hobj⟩
  rw [lay_scalar hs, if_pos (Or.inr heq)] at h
  exact Or.inr (Or.inr ⟨heq, hs, (Option.some.inj h).symm⟩)

/-- Where the layer is not null, the outcome is of its kind. -/
theorem kind_lay {b l v : Json} (h : json.lay b l = some v) (hl : l.kind ≠ .null) :
    v.kind = l.kind := by
  rcases lay_cases h with ⟨rfl, -⟩ | ⟨-, rfl⟩ | ⟨bs, ls, vs, rfl, rfl, rfl⟩
    | ⟨bs, ls, rfl, rfl, rfl⟩ | ⟨-, -, rfl⟩
  · exact absurd rfl hl
  all_goals rfl

/-- Under each key, what the layer has is laid over what the base has there. -/
theorem member?_lay {b l v : Json} (hb : b.WellFormed) (hl : l.WellFormed)
    (h : json.lay b l = some v) (k : String) :
    json.optional.lay (b.member? k) (l.member? k) = some (v.member? k) := by
  rcases lay_cases h with ⟨rfl, rfl⟩ | ⟨rfl, rfl⟩ | ⟨bs, ls, vs, rfl, rfl, rfl⟩
    | ⟨bs, ls, rfl, rfl, rfl⟩ | ⟨hbl, hs, rfl⟩
  · exact json.lay_optional_none_right _
  · exact json.lay_optional_none_left _
  · rw [WellFormed] at hb hl
    rw [lay_obj hb.1 hl.1] at h
    obtain ⟨d, hd, hvs⟩ := Option.map_eq_some_iff.mp h
    obtain rfl := Json.obj.inj hvs
    exact Rules.lay_dict_iff.mp hd k
  · rfl
  · -- neither is an object, so none of the three has members
    have hnone : ∀ {x : Json}, x.kind ≠ .object → x.member? k = none := by
      intro x hx
      cases x with
      | obj fields => exact absurd rfl hx
      | _ => rfl
    rw [hnone hs.2.2, hnone (hbl ▸ hs.2.2)]
    rfl

/-- What an object holds is smaller than it. -/
theorem sizeOf_lt_of_mem {fields : List (String × Json)} {k : String} {v : Json}
    (h : (k, v) ∈ fields) : sizeOf v < sizeOf (obj fields) := by
  have hmem : sizeOf (k, v) < sizeOf fields := List.sizeOf_lt_of_mem h
  simp only [Prod.mk.sizeOf_spec] at hmem
  simp only [obj.sizeOf_spec]
  omega

/-- What is at a place below a member is what is there in the member. -/
theorem look_member (v : Json) (k : String) (place : Place) :
    json.look v (.member k :: place) = json.optional.look (v.member? k) place :=
  Option.map_bind ..

/-- The members of a well-formed value are well-formed. -/
theorem WellFormed.member? {v w : Json} {k : String} (hv : v.WellFormed)
    (h : v.member? k = some w) : w.WellFormed := by
  cases v with
  | obj fields =>
    rw [WellFormed] at hv
    exact wellFormed_of_get? hv.2 h
  | _ => exact nomatch h

end Json

/-- Free-form objects are laid as the JSON that they are. -/
theorem FreeForm.map_toJson_lay (b l : FreeForm) :
    (Rules.freeForm.lay b l).map toJson = Rules.json.lay b.toJson l.toJson := by
  have hright : Rules.json.lay b.toJson l.toJson
      = (Json.overlayFields l.fields b.fields).value?.map Json.obj := by
    show (Json.overlay (.obj l.fields) (.obj b.fields)).value? = _
    rw [Json.overlay, Merged.value?_map]
  have hleft : (Rules.freeForm.lay b l).map toJson = (FreeForm.overlay b l).value?.map toJson := rfl
  rw [hleft, hright, ← Merged.value?_map, ← Merged.value?_map]
  rfl

/-- Free-form objects that are written alike are the same. -/
theorem FreeForm.toJson_injective {f g : FreeForm} (h : f.toJson = g.toJson) : f = g :=
  FreeForm.ext (Json.obj.inj h)

end BuildFleet
