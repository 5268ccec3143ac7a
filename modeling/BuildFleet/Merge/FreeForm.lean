import BuildFleet.Json.FreeForm
import BuildFleet.Merge.Basic

/-!
# Laying free-form JSON over free-form JSON

Objects merge member by member. A null in the layer says nothing, and a null in the base
gives way to anything. A list has no keys to merge by, so it is replaced by one that is not
empty. Any other two values have to be of one kind, and the base's is replaced.

> `overlay_wellFormed`: a merge of values in canonical form is in canonical form, also where
> it stops.
-/

namespace BuildFleet

namespace Json

/-- Lays a scalar over a value of its kind. -/
def overlayScalar (layer base : Json) : Merged Json :=
  if base.kind = .null ∨ base.kind = layer.kind then .done layer
  else .failed base base.kind layer.kind

mutual

/-- Lays the first value over the second. -/
def overlay : (layer base : Json) → Merged Json
  | null, base => .done base
  | obj incoming, base =>
    match base with
    | null => .done (obj incoming)
    | obj existing => (overlayFields incoming existing).map obj
    | _ => .failed base base.kind .object
  | arr incoming, base =>
    match base with
    | null => .done (arr incoming)
    | arr existing => .done (arr (if incoming.isEmpty then existing else incoming))
    | _ => .failed base base.kind .array
  | bool b, base => overlayScalar (bool b) base
  | int n, base => overlayScalar (int n) base
  | float x, base => overlayScalar (float x) base
  | str s, base => overlayScalar (str s) base

/-- Lays members over an object one by one. -/
def overlayFields : (layer base : List (String × Json)) → Merged (List (String × Json))
  | [], base => .done base
  | (k, v) :: rest, base =>
    match Entries.get? k base with
    | none => overlayFields rest (Entries.insert k v base)
    | some old =>
      match (overlay v old).within (.field k) with
      | ⟨new, none⟩ => overlayFields rest (Entries.insert k new base)
      | ⟨new, some e⟩ => ⟨Entries.insert k new base, some e⟩

end

/-- Laying a scalar over a value gives one of the two, which are well-formed. -/
theorem overlayScalar_wellFormed {layer base : Json} (hl : layer.WellFormed)
    (hb : base.WellFormed) :
    (overlayScalar layer base).value.WellFormed := by
  unfold overlayScalar
  split
  · exact hl
  · exact hb

/-- What is found in well-formed members is well-formed. -/
theorem wellFormed_of_get? {fields : List (String × Json)} {k : String} {v : Json}
    (h : FieldsWellFormed fields) (hk : Entries.get? k fields = some v) : v.WellFormed := by
  induction fields with
  | nil => simp [Entries.get?] at hk
  | cons e rest ih =>
    obtain ⟨k', v'⟩ := e
    rw [Entries.get?] at hk
    split at hk
    · cases hk
      exact h.1
    · exact ih h.2 hk

mutual

/-- Laying one well-formed value over another gives a well-formed one. -/
theorem overlay_wellFormed : ∀ {layer base : Json}, layer.WellFormed → base.WellFormed →
    (overlay layer base).value.WellFormed
  | null, base, _, hb => by
    rw [overlay]
    exact hb
  | obj incoming, base, hl, hb => by
    rw [WellFormed] at hl
    rw [overlay.eq_def]
    cases base with
    | null => exact (by rw [WellFormed]; exact hl : (obj incoming).WellFormed)
    | obj existing =>
      rw [WellFormed] at hb
      have := overlayFields_wellFormed hl.2 hb.1 hb.2
      exact (by rw [WellFormed]; exact this :
        (obj (overlayFields incoming existing).value).WellFormed)
    | _ => exact hb
  | arr incoming, base, hl, hb => by
    rw [overlay.eq_def]
    cases base with
    | null => exact hl
    | arr existing =>
      rw [WellFormed] at hl hb
      show (arr (if incoming.isEmpty then existing else incoming)).WellFormed
      rw [WellFormed]
      split
      · exact hb
      · exact hl
    | _ => exact hb
  | bool b, base, hl, hb => by rw [overlay]; exact overlayScalar_wellFormed hl hb
  | int n, base, hl, hb => by rw [overlay]; exact overlayScalar_wellFormed hl hb
  | float x, base, hl, hb => by rw [overlay]; exact overlayScalar_wellFormed hl hb
  | str s, base, hl, hb => by rw [overlay]; exact overlayScalar_wellFormed hl hb

/-- Laying members over others keeps them in key order and well-formed. -/
theorem overlayFields_wellFormed : ∀ {layer base : List (String × Json)}, FieldsWellFormed layer →
    Entries.Sorted base → FieldsWellFormed base →
      Entries.Sorted (overlayFields layer base).value ∧
        FieldsWellFormed (overlayFields layer base).value
  | [], base, _, hs, hb => by
    rw [overlayFields]
    exact ⟨hs, hb⟩
  | (k, v) :: rest, base, hl, hs, hb => by
    rw [overlayFields]
    split
    · exact overlayFields_wellFormed hl.2 (Entries.insert_sorted k v hs)
        (fieldsWellFormed_insert hl.1 hb)
    · next old hold =>
      have hv : (overlay v old).value.WellFormed :=
        overlay_wellFormed hl.1 (wellFormed_of_get? hb hold)
      split
      · next new heq =>
        have hnew : new = (overlay v old).value := (congrArg Merged.value heq).symm
        subst hnew
        exact overlayFields_wellFormed hl.2 (Entries.insert_sorted k _ hs)
          (fieldsWellFormed_insert hv hb)
      · next new e heq =>
        have hnew : new = (overlay v old).value := (congrArg Merged.value heq).symm
        subst hnew
        exact ⟨Entries.insert_sorted k _ hs, fieldsWellFormed_insert hv hb⟩

end

end Json

/-- JSON values of any kind, the layer's saying nothing where it is null. -/
instance : Mergeable Json where
  merge base layer := layer.overlay base

namespace FreeForm

/-- Lays the members of the second object over the first. -/
def overlay (base layer : FreeForm) : Merged FreeForm :=
  ⟨⟨(Json.overlayFields layer.fields base.fields).value, by
      have hb := base.wellFormed
      have hl := layer.wellFormed
      rw [Json.WellFormed] at hb hl ⊢
      exact Json.overlayFields_wellFormed hl.2 hb.1 hb.2⟩,
    (Json.overlayFields layer.fields base.fields).mismatch⟩

instance : Mergeable FreeForm where
  merge := overlay

end FreeForm

end BuildFleet
