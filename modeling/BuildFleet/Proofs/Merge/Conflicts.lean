import BuildFleet.Proofs.Merge.Elements
import BuildFleet.Proofs.Merge.Overlay

/-!
# Why a merge fails

A merge fails exactly if base and layer have free-form values of different kinds at the same place,
neither of them null (`Rules.ClashAt`). Nothing else fails. The mismatch that a merge fails with is
such a clash: it names the place and both kinds (`Rules.Reports`).

> `Composed.reports`: where a merge fails, a clash is reported;
> `Composed.not_clashAt`: where it succeeds, there is none;
> `Composed.fails_iff`: so it fails exactly if there is one.

The layer must not repeat keys in its keyed lists; where it does, its own elements may clash. On the
way out of a value each step puts its name before the path, so the path of the place is read off the
steps (`Place.path`).
-/

namespace BuildFleet

variable {α β : Type}

/-- Base and layer have free-form values of these kinds at the place, which do not merge. -/
structure Rules.ClashAt (r : Rules α) (b l : α) (place : Place) (expected found : JsonKind) :
    Prop where
  base : (r.look b place).bind Leaf.kind? = some expected
  layer : (r.look l place).bind Leaf.kind? = some found
  expected_ne_null : expected ≠ .null
  found_ne_null : found ≠ .null
  ne : expected ≠ found

/-- The mismatch is a clash of the two values, reported under its place. -/
def Rules.Reports (r : Rules α) (b l : α) (e : Mismatch) : Prop :=
  ∃ place, r.ClashAt b l place e.expected e.found ∧ e.path = place.path

/-- Values that look alike at two places clash alike there. -/
theorem Rules.clashAt_congr {r : Rules α} {r' : Rules β} {b l : α} {b' l' : β}
    {place place' : Place} (hb : r.look b place = r'.look b' place')
    (hl : r.look l place = r'.look l' place') {expected found : JsonKind} :
    r.ClashAt b l place expected found ↔ r'.ClashAt b' l' place' expected found := by
  constructor
  · rintro ⟨hbase, hlayer, hexpected, hfound, hne⟩
    exact ⟨hb ▸ hbase, hl ▸ hlayer, hexpected, hfound, hne⟩
  · rintro ⟨hbase, hlayer, hexpected, hfound, hne⟩
    exact ⟨hb ▸ hbase, hl ▸ hlayer, hexpected, hfound, hne⟩

/-! ## Values that may be absent -/

section Optional

variable {r : Rules α}

/-- Two values that are there clash where the values themselves do. -/
theorem clashAt_optional_some {x y : α} {place : Place} {expected found : JsonKind} :
    r.optional.ClashAt (some x) (some y) place expected found
      ↔ r.ClashAt x y place expected found :=
  Rules.clashAt_congr (by rfl) (by rfl)

/-- An optional value reports what its values report. -/
theorem reports_optional {b l : Option α} {e : Mismatch}
    (h : ∀ x ∈ b, ∀ y ∈ l, (r.merge x y).mismatch = some e → r.Reports x y e)
    (he : (r.optional.merge b l).mismatch = some e) : r.optional.Reports b l e := by
  cases b with
  | none => cases l <;> exact nomatch he
  | some x =>
    cases l with
    | none => exact nomatch he
    | some y =>
      obtain ⟨place, hclash, hpath⟩ := h x rfl y rfl he
      exact ⟨place, clashAt_optional_some.mpr hclash, hpath⟩

/-- Optional values that merge do not clash, if their values do not. -/
theorem not_clashAt_optional {b l v : Option α} {place : Place} {expected found : JsonKind}
    (h : ∀ x ∈ b, ∀ y ∈ l, ∀ w, r.lay x y = some w → ¬ r.ClashAt x y place expected found)
    (hv : r.optional.lay b l = some v) : ¬ r.optional.ClashAt b l place expected found := by
  intro hclash
  rcases Rules.lay_optional_cases hv with ⟨rfl, -⟩ | ⟨rfl, -⟩ | ⟨x, y, w, rfl, rfl, -, hw⟩
  · exact nomatch hclash.base
  · exact nomatch hclash.layer
  · exact h x rfl y rfl w hw (clashAt_optional_some.mp hclash)

end Optional

/-! ## Maps and records -/

section Composite

variable {m : α → α → Merged α} {fits : α → α → Prop} {part : Step → Option (Facet α)}

/-- A clash in a part is one step further in. -/
theorem clashAt_composite {s : Step} {f : Facet α} (hf : f ∈ part s) {b l : α} {place : Place}
    {expected found : JsonKind} :
    (Rules.composite m fits part).ClashAt b l (s :: place) expected found
      ↔ f.rules.ClashAt (f.get b) (f.get l) place expected found := by
  have hlook : ∀ x, (Rules.composite m fits part).look x (s :: place)
      = f.rules.look (f.get x) place := by
    intro x
    show ((part s).bind fun f => f.rules.look (f.get x) place) = _
    rw [Option.mem_def.mp hf, Option.bind_some]
  exact Rules.clashAt_congr (hlook b) (hlook l)

/-- A record reports what its parts report. -/
theorem reports_composite (hm : Partwise m part) {b l : α} {e : Mismatch}
    (h : ∀ s, ∀ f ∈ part s, ∀ e, (f.merged b l).mismatch = some e →
      f.rules.Reports (f.get b) (f.get l) e)
    (he : (m b l).mismatch = some e) : (Rules.composite m fits part).Reports b l e := by
  obtain ⟨s, f, hf, e', he', rfl⟩ := hm.exists_mismatch b l e he
  obtain ⟨place, hclash, hpath⟩ := h s f hf e' he'
  exact ⟨s :: place, (clashAt_composite hf).mpr hclash, congrArg (s.segments ++ ·) hpath⟩

end Composite

/-! ## Keyed lists -/

section Keyed

variable {r : Rules α} {key : α → String}

/-- What clashes under a key is what is found there. -/
theorem clashAt_element {b l : List α} {k : String} {place : Place} {expected found : JsonKind} :
    (r.keyed key).ClashAt b l (.element k :: place) expected found
      ↔ r.optional.ClashAt (b.find? (key · == k)) (l.find? (key · == k)) place expected found :=
  Rules.clashAt_congr (by rfl) (by rfl)

/-- An element that does not merge is found under its key. -/
theorem exists_mismatch_mergeElement {x : α} {e : Mismatch} : letI := r.mergeable
    ∀ {b : List α}, (mergeElement key x b).mismatch = some e →
      ∃ z ∈ b.find? (key · == key x), ∃ e', (r.merge z x).mismatch = some e'
        ∧ e = e'.behind (.element (key x))
  | [], he => nomatch he
  | z :: b, he => by
    let _ := r.mergeable
    rw [mergeElement] at he
    by_cases hz : key z = key x
    · rw [if_pos hz] at he
      obtain ⟨e', he', rfl⟩ := Option.map_eq_some_iff.mp he
      exact ⟨z, List.find?_cons_of_pos (beq_iff_eq.mpr hz), e', he', rfl⟩
    · rw [if_neg hz] at he
      rw [List.find?_cons_of_neg (by simpa using hz)]
      exact exists_mismatch_mergeElement he

/-- Where a layer does not repeat keys, one that fails has an element that does not merge with what
the base has under its key. -/
theorem exists_mismatch_keyed (hkey : letI := r.mergeable; KeepsKey key) {e : Mismatch} :
    ∀ {l b : List α}, (l.map key).Nodup → ((r.keyed key).merge b l).mismatch = some e →
      ∃ x ∈ l, ∃ z ∈ b.find? (key · == key x), ∃ e', (r.merge z x).mismatch = some e'
        ∧ e = e'.behind (.element (key x))
  | [], _, _, he => nomatch he
  | x :: l, b, hl, he => by
    let _ := r.mergeable
    rw [List.map_cons, List.nodup_cons] at hl
    have hcons : ((mergeElement key x b).andThen fun v => BuildFleet.keyed key v l).mismatch
        = some e := he
    cases hx : (mergeElement key x b).mismatch with
    | some e' =>
      rw [Merged.andThen, hx] at hcons
      obtain rfl : e' = e := Option.some.inj (hx.symm.trans hcons)
      exact ⟨x, List.mem_cons_self, exists_mismatch_mergeElement hx⟩
    | none =>
      rw [Merged.andThen, hx] at hcons
      obtain ⟨y, hy, z, hz, hfails⟩ := exists_mismatch_keyed hkey hl.2 hcons
      -- under another key, the base has what it had before the first element was laid
      have hxy : key x ≠ key y := fun h => hl.1 (List.mem_map.mpr ⟨y, hy, h.symm⟩)
      have hfind := Rules.find?_layElement_of_ne (r := r) hkey hxy
        (Merged.value?_eq_some_iff.mpr ⟨hx, rfl⟩)
      rw [hfind] at hz
      exact ⟨y, List.mem_cons_of_mem _ hy, z, hz, hfails⟩

end Keyed

/-! ## Free-form JSON -/

namespace Json

open Rules (json)

/-- The leaf of a JSON value has the value's kind. -/
@[simp] theorem kind?_leaf (v : Json) : v.leaf.kind? = some v.kind := by
  cases v <;> rfl

/-- Two JSON values clash in themselves if both are there and of different kinds. -/
theorem clashAt_nil_iff {b l : Json} {expected found : JsonKind} :
    json.ClashAt b l [] expected found ↔ b.kind = expected ∧ l.kind = found ∧ expected ≠ .null
      ∧ found ≠ .null ∧ expected ≠ found := by
  have hlook : ∀ v : Json, (json.look v []).bind Leaf.kind? = some v.kind := kind?_leaf
  constructor
  · rintro ⟨hb, hl, h⟩
    rw [hlook] at hb hl
    exact ⟨Option.some.inj hb, Option.some.inj hl, h, ‹_›, ‹_›⟩
  · rintro ⟨rfl, rfl, h, h', h''⟩
    exact ⟨hlook b, hlook l, h, h', h''⟩

/-- Two JSON values clash below a member if the members do. -/
theorem clashAt_member_iff {b l : Json} {k : String} {place : Place} {expected found : JsonKind} :
    json.ClashAt b l (.member k :: place) expected found
      ↔ json.optional.ClashAt (b.member? k) (l.member? k) place expected found :=
  Rules.clashAt_congr (look_member b k place) (look_member l k place)

/-- Objects fail to merge as maps do. -/
theorem mismatch_overlay_obj {bs ls : List (String × Json)} (hb : Entries.Sorted bs)
    (hl : Entries.Sorted ls) : (overlay (obj ls) (obj bs)).mismatch
      = (json.dict.merge ⟨bs, hb⟩ ⟨ls, hl⟩).mismatch := by
  show _ = (mergeEntries (⟨bs, hb⟩ : Dict Json) ls).mismatch
  rw [overlay]
  show (overlayFields ls (⟨bs, hb⟩ : Dict Json).entries).mismatch = _
  rw [overlayFields_eq_mergeEntries]
  rfl

/-- Laying one JSON value over another reports the place where they clash and the kinds there. -/
theorem reports : ∀ {l b : Json}, b.WellFormed → l.WellFormed → ∀ {e : Mismatch},
    (overlay l b).mismatch = some e → json.Reports b l e
  | l, b, hb, hl, e, he => by
    -- values that merge do not fail
    have hmerges : ∀ {v}, json.lay b l = some v → json.Reports b l e := by
      intro v hv
      have hnone : (overlay l b).mismatch = none := (Merged.value?_eq_some_iff.mp hv).1
      rw [hnone] at he
      exact nomatch he
    by_cases hln : l.kind = .null
    · obtain rfl := eq_null_of_kind hln
      exact hmerges (lay_null_right b)
    by_cases hbn : b.kind = .null
    · obtain rfl := eq_null_of_kind hbn
      exact hmerges (lay_null_left l)
    by_cases hbl : b.kind = l.kind
    case neg =>
      rw [overlay_of_kind_ne hbn hln hbl] at he
      obtain rfl := Option.some.inj he
      exact ⟨[], clashAt_nil_iff.mpr ⟨rfl, rfl, hbn, hln, hbl⟩, rfl⟩
    by_cases hobj : l.kind = .object
    · obtain ⟨ls, rfl⟩ := eq_obj_of_kind hobj
      obtain ⟨bs, rfl⟩ := eq_obj_of_kind hbl
      rw [WellFormed] at hb hl
      rw [mismatch_overlay_obj hb.1 hl.1] at he
      obtain ⟨s, f, hf, e', he', rfl⟩ := json.partwise_entry.exists_mismatch _ _ e he
      cases s with
      | member k =>
        obtain rfl := Option.some.inj hf
        -- under each key the layer's value is smaller than the object it is taken from
        have hk : json.optional.Reports (Entries.get? k bs) (Entries.get? k ls) e' := by
          refine reports_optional ?_ he'
          intro x hx y hy hxy
          have hlt : sizeOf y < sizeOf (obj ls) :=
            sizeOf_lt_of_mem ((Entries.get?_eq_some_iff_mem hl.1).mp hy)
          exact reports (wellFormed_of_get? hb.2 hx) (wellFormed_of_get? hl.2 hy) hxy
        obtain ⟨place, hclash, hpath⟩ := hk
        exact ⟨.member k :: place, clashAt_member_iff.mpr hclash,
          congrArg (Segment.field k :: ·) hpath⟩
      | _ => exact nomatch hf
    by_cases harr : l.kind = .array
    · obtain ⟨ls, rfl⟩ := eq_arr_of_kind harr
      obtain ⟨bs, rfl⟩ := eq_arr_of_kind hbl
      exact hmerges (lay_arr bs ls)
    exact hmerges ((lay_scalar ⟨hln, harr, hobj⟩).trans (if_pos (Or.inr hbl)))
termination_by l => sizeOf l

/-- JSON values that merge clash nowhere. -/
theorem not_clashAt {b l v : Json} (hb : b.WellFormed) (hl : l.WellFormed)
    (h : json.lay b l = some v) {place : Place} {expected found : JsonKind} :
    ¬ json.ClashAt b l place expected found := by
  induction place generalizing b l v with
  | nil =>
    rw [clashAt_nil_iff]
    rintro ⟨rfl, rfl, hbn, hln, hne⟩
    rw [lay_of_kind_ne hbn hln hne] at h
    exact nomatch h
  | cons s place ih =>
    cases s with
    | member k =>
      rw [clashAt_member_iff]
      exact not_clashAt_optional
        (fun x hx y hy w hw => ih (hb.member? hx) (hl.member? hy) hw) (member?_lay hb hl h k)
    | _ => exact fun hclash => nomatch hclash.base

end Json

/-- Free-form objects clash where their JSON values do. -/
theorem clashAt_freeForm {b l : FreeForm} {place : Place} {expected found : JsonKind} :
    Rules.freeForm.ClashAt b l place expected found
      ↔ Rules.json.ClashAt b.toJson l.toJson place expected found :=
  Rules.clashAt_congr (by rfl) (by rfl)

/-! ## All rules -/

namespace Composed

/-- A merge that fails reports a clash. -/
theorem reports {r : Rules α} (h : Composed r) :
    ∀ b l e, r.Distinct l → (r.merge b l).mismatch = some e → r.Reports b l e := by
  induction h with
  | single hmerge _ =>
    intro b l e _ he
    rw [show (Rules.single _ _).merge b l = _ from hmerge b l] at he
    exact nomatch he
  | fixed _ => exact fun _ _ _ _ he => nomatch he
  | freeForm =>
    intro b l e _ he
    have hjson : (Json.overlay l.toJson b.toJson).mismatch = some e := by
      show (Json.overlay (.obj l.fields) (.obj b.fields)).mismatch = some e
      rw [Json.overlay]
      exact he
    obtain ⟨place, hclash, hpath⟩ := Json.reports b.wellFormed l.wellFormed hjson
    exact ⟨place, clashAt_freeForm.mpr hclash, hpath⟩
  | optional _ ih =>
    intro b l e hl he
    exact reports_optional (fun x _ y hy => ih x y e (hl y hy)) he
  | @keyed _ r key _ hkey _ ih =>
    intro b l e hl he
    obtain ⟨x, hx, z, hz, e', he', rfl⟩ := exists_mismatch_keyed hkey hl.1 he
    obtain ⟨place, hclash, hpath⟩ := ih z x e' (hl.2 x hx) he'
    refine ⟨.element (key x) :: place, ?_, congrArg (Segment.element (key x) :: ·) hpath⟩
    rw [clashAt_element, Option.mem_def.mp hz, find?_key_of_nodup hl.1 hx, clashAt_optional_some]
    exact hclash
  | composite _ hmerge _ ih =>
    intro b l e hl he
    exact reports_composite hmerge (fun s f hf e => ih s f hf _ _ e (hl s f hf)) he

/-- Values that merge do not clash. -/
theorem not_clashAt {r : Rules α} (h : Composed r) :
    ∀ b l v, r.Fits b l → r.Distinct l → r.lay b l = some v →
      ∀ place expected found, ¬ r.ClashAt b l place expected found := by
  induction h with
  | @single _ m leaf _ hleaf =>
    intro b l v _ _ _ place expected found hclash
    cases place with
    | nil => exact nomatch (hleaf b).symm.trans hclash.base
    | cons _ _ => exact nomatch hclash.base
  | fixed _ =>
    intro b l v hbl _ _ place expected found hclash
    obtain rfl : b = l := hbl
    exact hclash.ne (Option.some.inj (hclash.base.symm.trans hclash.layer))
  | freeForm =>
    intro b l v _ _ hv place expected found hclash
    have hjson : Rules.json.lay b.toJson l.toJson = some v.toJson := by
      rw [← FreeForm.map_toJson_lay, hv, Option.map_some]
    exact Json.not_clashAt b.wellFormed l.wellFormed hjson (clashAt_freeForm.mp hclash)
  | optional _ ih =>
    intro b l v hbl hl hv place expected found
    refine not_clashAt_optional ?_ hv
    intro x hx y hy w hw
    exact ih x y w (hbl x hx y hy) (hl y hy) hw place expected found
  | @keyed _ r key _ hkey hfits ih =>
    intro b l v _ hl hv place expected found
    cases place with
    | nil => exact fun hclash => nomatch hclash.base
    | cons s place =>
      cases s with
      | element k =>
        rw [clashAt_element]
        refine not_clashAt_optional ?_ (Rules.find?_keyed hkey k hl.1 hv)
        intro x hx y hy w hw
        have hxk : key x = k := by simpa using List.find?_some hx
        have hyk : key y = k := by simpa using List.find?_some hy
        exact ih x y w (hfits x y (hxk.trans hyk.symm)) (hl.2 y (List.mem_of_find?_eq_some hy)) hw
          place expected found
      | _ => exact fun hclash => nomatch hclash.base
  | @composite _ m fits part _ hmerge hfits ih =>
    intro b l v hbl hl hv place expected found hclash
    cases place with
    | nil => exact nomatch hclash.base
    | cons s place =>
      cases hs : part s with
      | none =>
        have hlook : (Rules.composite m fits part).look b (s :: place) = none := by
          show ((part s).bind fun f => f.rules.look (f.get b) place) = none
          rw [hs]
          rfl
        have hbase := hclash.base
        rw [hlook] at hbase
        exact nomatch hbase
      | some f =>
        have hlay : f.rules.lay (f.get b) (f.get l) = some (f.get v) :=
          (hmerge.lay_iff b l v).mp hv s f hs
        exact ih s f hs _ _ _ (hfits b l hbl s f hs) (hl s f hs) hlay place expected found
          ((clashAt_composite hs).mp hclash)

/-- A merge fails exactly if there is a clash. -/
theorem fails_iff {r : Rules α} (h : Composed r) {b l : α} (hbl : r.Fits b l) (hl : r.Distinct l) :
    (∃ e, (r.merge b l).mismatch = some e)
      ↔ ∃ place expected found, r.ClashAt b l place expected found := by
  constructor
  · rintro ⟨e, he⟩
    obtain ⟨place, hclash, -⟩ := h.reports b l e hl he
    exact ⟨place, e.expected, e.found, hclash⟩
  · rintro ⟨place, expected, found, hclash⟩
    cases hm : (r.merge b l).mismatch with
    | some e => exact ⟨e, rfl⟩
    | none =>
      have hv : r.lay b l = some (r.merge b l).value := Merged.value?_eq_some_iff.mpr ⟨hm, rfl⟩
      exact absurd hclash (h.not_clashAt b l _ hbl hl hv place expected found)

end Composed

end BuildFleet
