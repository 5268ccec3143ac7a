import BuildFleet.Proofs.Merge.Grouping

/-!
# Laying nothing, and laying the same again

What leaves a value as it is. A layer that says nothing does, and so does a layer that was laid
before, because laying a value over itself changes nothing and layers can be grouped.

> `Composed.lay_self`: a value that repeats no keys merges with itself to itself;
> `Composed.lay_again`: so a layer that repeats no keys can be laid once more without effect;
> `Rules.lay_keyed_nil_left_iff`: a keyed list laid over an empty one comes out as it was exactly if
> it repeats no key.

Values that say nothing are the empty text, the absent value, and lists, maps and free-form objects
without contents. A record says nothing if its fields do not (`Fieldwise.lay_iff`).
-/

namespace BuildFleet

variable {α : Type}

/-! ## Values that say nothing -/

namespace Rules

/-- The empty text changes no text. -/
@[simp] theorem lay_text_empty_right (b : String) : text.lay b "" = some b := rfl

/-- Over the empty text any text stays as it is. -/
@[simp] theorem lay_text_empty_left (l : String) : text.lay "" l = some l := by
  show some (if l.isEmpty then "" else l) = some l
  by_cases hl : l.isEmpty = true
  · rw [if_pos hl, String.isEmpty_iff.mp hl]
  · rw [if_neg hl]

@[simp] theorem lay_tolerations_nil_right (b : List Toleration) : tolerations.lay b [] = some b :=
  rfl

@[simp] theorem lay_tolerations_nil_left (l : List Toleration) : tolerations.lay [] l = some l := by
  cases l <;> rfl

variable {r : Rules α} {key : α → String}

@[simp] theorem lay_dict_empty_right (b : Dict α) : r.dict.lay b .empty = some b := rfl

/-- Over the empty map any map stays as it is. -/
@[simp] theorem lay_dict_empty_left (l : Dict α) : r.dict.lay .empty l = some l :=
  lay_dict_iff.mpr fun _ => r.lay_optional_none_left _

/-- The empty object changes no object. -/
@[simp] theorem lay_freeForm_empty_right (b : FreeForm) : freeForm.lay b .empty = some b := by
  apply Option.map_injective (f := FreeForm.toJson) fun f g => FreeForm.toJson_injective
  rw [FreeForm.map_toJson_lay]
  show (Json.overlay (.obj []) (.obj b.fields)).value? = _
  rw [Json.overlay, Json.overlayFields]
  rfl

/-- Over the empty object any object stays as it is. -/
@[simp] theorem lay_freeForm_empty_left (l : FreeForm) : freeForm.lay .empty l = some l := by
  apply Option.map_injective (f := FreeForm.toJson) fun f g => FreeForm.toJson_injective
  have hl := l.wellFormed
  rw [Json.WellFormed] at hl
  rw [FreeForm.map_toJson_lay]
  show json.lay (.obj []) (.obj l.fields) = some (.obj l.fields)
  rw [Json.lay_obj Entries.sorted_nil hl.1]
  exact congrArg _ (lay_dict_empty_left (r := json) ⟨l.fields, hl.1⟩)

@[simp] theorem lay_keyed_nil_right (b : List α) : (r.keyed key).lay b [] = some b := rfl

/-- An element with a new key goes to the end. -/
theorem layElement_of_not_mem {x : α} : ∀ {l : List α}, key x ∉ l.map key →
    r.layElement key x l = some (l ++ [x])
  | [], _ => rfl
  | z :: l, h => by
    rw [List.map_cons, List.mem_cons, not_or] at h
    rw [layElement_cons_of_ne (Ne.symm h.1), layElement_of_not_mem h.2]
    rfl

/-- A layer that repeats neither its own keys nor those of the base goes to the end. -/
theorem lay_keyed_of_nodup : ∀ {l b : List α}, ((b ++ l).map key).Nodup →
    (r.keyed key).lay b l = some (b ++ l)
  | [], b, _ => by rw [List.append_nil, lay_keyed_nil_right]
  | x :: l, b, h => by
    have hnew : key x ∉ b.map key := by
      rw [List.map_append, List.nodup_append] at h
      exact fun hmem => h.2.2 _ hmem _ List.mem_cons_self rfl
    rw [List.append_cons] at h ⊢
    rw [lay_keyed_cons, layElement_of_not_mem hnew, Option.bind_some]
    exact lay_keyed_of_nodup h

/-- Over the empty list a keyed list stays as it is exactly if its keys are different. -/
theorem lay_keyed_nil_left_iff (hkey : letI := r.mergeable; KeepsKey key) {l : List α} :
    (r.keyed key).lay [] l = some l ↔ (l.map key).Nodup := by
  constructor
  · intro h
    let _ := r.mergeable
    have hvalue : (BuildFleet.keyed key [] l).value = l := (Merged.value?_eq_some_iff.mp h).2
    have hnil : (([] : List α).map key).Nodup := List.nodup_nil
    rw [← hvalue]
    exact keys_keyed_nodup hkey hnil l
  · exact fun h => lay_keyed_of_nodup h

/-! ## Values laid over themselves -/

/-- An optional value laid over itself is itself if this holds of the value. -/
theorem lay_optional_self {o : Option α} (h : ∀ x ∈ o, r.lay x x = some x) :
    r.optional.lay o o = some o := by
  cases o with
  | none => rfl
  | some x => rw [lay_optional_some, h x rfl]; rfl

/-- An element that is the only one with its key goes into itself. -/
theorem layElement_of_mem {x : α} (hx : r.lay x x = some x) : ∀ {l : List α},
    (l.map key).Nodup → x ∈ l → r.layElement key x l = some l
  | [], _, hmem => absurd hmem List.not_mem_nil
  | z :: l, h, hmem => by
    rw [List.map_cons, List.nodup_cons] at h
    rcases List.mem_cons.mp hmem with rfl | hmem
    · rw [layElement_cons_of_eq rfl, hx]
      rfl
    · have hz : key z ≠ key x := fun hzx => h.1 (List.mem_map.mpr ⟨x, hmem, hzx.symm⟩)
      rw [layElement_cons_of_ne hz, layElement_of_mem hx h.2 hmem]
      rfl

/-- Elements of a list that does not repeat keys go into themselves. -/
theorem lay_keyed_of_subset {b : List α} (hb : (b.map key).Nodup) :
    ∀ {l : List α}, (∀ x ∈ l, x ∈ b ∧ r.lay x x = some x) → (r.keyed key).lay b l = some b
  | [], _ => rfl
  | x :: l, h => by
    obtain ⟨⟨hmem, hx⟩, hl⟩ := List.forall_mem_cons.mp h
    rw [lay_keyed_cons, layElement_of_mem hx hb hmem, Option.bind_some]
    exact lay_keyed_of_subset hb hl

end Rules

namespace Json

open Rules (json)

/-- A well-formed JSON value laid over itself is itself. -/
theorem lay_self : ∀ {v : Json}, v.WellFormed → json.lay v v = some v
  | v, hv => by
    by_cases hnull : v.kind = .null
    · obtain rfl := eq_null_of_kind hnull
      exact lay_null_left null
    by_cases hobj : v.kind = .object
    · obtain ⟨fields, rfl⟩ := eq_obj_of_kind hobj
      rw [WellFormed] at hv
      have hdict : json.dict.lay ⟨fields, hv.1⟩ ⟨fields, hv.1⟩ = some ⟨fields, hv.1⟩ := by
        refine Rules.lay_dict_iff.mpr fun k => Rules.lay_optional_self ?_
        intro x hx
        have hlt : sizeOf x < sizeOf (obj fields) :=
          sizeOf_lt_of_mem ((Entries.get?_eq_some_iff_mem hv.1).mp hx)
        exact lay_self (wellFormed_of_get? hv.2 hx)
      rw [lay_obj hv.1 hv.1, hdict]
      rfl
    by_cases harr : v.kind = .array
    · obtain ⟨items, rfl⟩ := eq_arr_of_kind harr
      rw [lay_arr]
      exact congrArg (fun l => some (arr l)) (ite_self items)
    exact (lay_scalar ⟨hnull, harr, hobj⟩).trans (if_pos (Or.inr rfl))
termination_by v => sizeOf v

end Json

namespace Composed

/-- A value that repeats no keys is as it was when it is laid over itself. -/
theorem lay_self {r : Rules α} (h : Composed r) : ∀ x, r.Distinct x → r.lay x x = some x := by
  induction h with
  | single hmerge _ =>
    intro x _
    rw [Rules.lay_single hmerge, ite_self]
  | fixed _ => exact fun _ _ => rfl
  | freeForm =>
    intro x _
    apply Option.map_injective (f := FreeForm.toJson) fun f g => FreeForm.toJson_injective
    rw [FreeForm.map_toJson_lay]
    exact Json.lay_self x.wellFormed
  | optional _ ih => exact fun o ho => Rules.lay_optional_self fun x hx => ih x (ho x hx)
  | keyed _ _ _ ih =>
    exact fun l hl => Rules.lay_keyed_of_subset hl.1 fun x hx => ⟨hx, ih x (hl.2 x hx)⟩
  | composite _ hmerge _ ih =>
    exact fun x hx => (hmerge.lay_iff x x x).mpr fun s f hf => ih s f hf _ (hx s f hf)

/-- A layer that repeats no keys changes nothing when it is laid once more. -/
theorem lay_again {r : Rules α} (h : Composed r) {b l v : α} (hl : r.Distinct l)
    (hv : r.lay b l = some v) : r.lay v l = some v := by
  -- laying it twice is laying it once, merged with itself
  calc r.lay v l = (r.lay b l).bind fun x => r.lay x l := by rw [hv, Option.bind_some]
    _ = (r.lay l l).bind fun y => r.lay b y := h.groupsAt b l l hl hl
    _ = some v := by rw [h.lay_self l hl, Option.bind_some, hv]

end Composed

end BuildFleet
