import BuildFleet.Proofs.Json.RoundTrip
import BuildFleet.Proofs.Kubernetes.Conform

/-!
# Forms that fit the shapes of the API

A form fits a shape if nothing that a value says is lost when what is written of it is brought into
the shape (`Form.Fits`). Whether the shape drops members is not the question here: the fields of a
value are asked for by name, so each of them has to be a field of the shape as well, under the same
name and with a shape that its form fits.

Only values that are read back from what is written of them are spoken of. A record in memory might
keep a member under the name of a field; that one would be written in the field's place, for its own
reader as for the API, and such a record is not read back (`RecordFormat.Describes.readsBack_iff`).

> `RecordFormat.Describes.fits`: this is all it takes for a record;
> `Form.fits_list`, `Form.fits_dict`: lists and maps fit if what is in them does.
-/

namespace BuildFleet

open Shape (conform?)

/-! ## Values -/

namespace Form

variable {α : Type} {f : Form α} {s : Shape}

/-- What a value says that is read back is found in what is written of it, once that has been
brought into the shape. -/
def Fits (f : Form α) (s : Shape) : Prop :=
  ∀ x w, f.ReadsBack x → s.conform? (f.write x) = some w → f.FoundIn x w

/-- A text is the same in the shape of texts. -/
@[simp] theorem fits_text : text.Fits .string := by
  intro x w _ h
  rw [conform?] at h
  exact (Option.some.inj h).symm

/-- A flag is the same in the shape of flags. -/
@[simp] theorem fits_flag : flag.Fits .boolean := by
  intro x w _ h
  rw [conform?] at h
  exact (Option.some.inj h).symm

/-- An integer that is in a range is the same in it. -/
theorem eq_int_of_intIn? {lo hi n : Int} {w : Json}
    (h : ((Json.int n).intIn? lo hi).map Json.int = some w) : w = .int n := by
  obtain ⟨m, hm, rfl⟩ := Option.map_eq_some_iff.mp h
  rw [Option.some.inj (Option.ite_none_right_eq_some.mp hm).2]

/-- An integer of 32 bits is the same in its shape. -/
@[simp] theorem fits_int32 : int32.Fits .int32 := by
  intro x w _ h
  rw [conform?] at h
  exact eq_int_of_intIn? h

/-- An integer of 64 bits is the same in its shape. -/
@[simp] theorem fits_int64 : int64.Fits .int64 := by
  intro x w _ h
  rw [conform?] at h
  exact eq_int_of_intIn? h

/-- A quantity is the same text in the shape of texts. -/
@[simp] theorem fits_quantity : quantity.Fits .string :=
  fun q w _ h => fits_text q.text w (readsBack_text q.text) h

@[simp] theorem fits_freeForm : freeForm.Fits s := fun _ _ _ _ => trivial

/-- A list fits if its items do. -/
@[simp] theorem fits_list (hf : f.Fits s) : f.list.Fits (.list s) := by
  intro xs w hxs h
  rw [conform?] at h
  obtain ⟨items, hitems, h⟩ := Option.bind_eq_some_iff.mp h
  obtain rfl := Option.some.inj hitems
  obtain ⟨ws, hws, rfl⟩ := Option.map_eq_some_iff.mp h
  have hmade : List.Forall₂ (fun x w => s.conform? (f.write x) = some w) xs ws :=
    List.forall₂_map_left_iff.mp (forall₂_of_mapM hws)
  exact ⟨ws, rfl, ((List.forall₂_and_left _ _).mpr ⟨readsBack_list_iff.mp hxs, hmade⟩).imp
    fun x w h => hf x w h.1 h.2⟩

/-- A map fits if all values of its type are read back. -/
theorem fits_dict (hf : f.Fits s) (hall : ∀ x, f.ReadsBack x) : f.dict.Fits (.map s) := by
  intro d w _ h
  rw [conform?] at h
  obtain ⟨members, hmembers, h⟩ := Option.bind_eq_some_iff.mp h
  obtain rfl := Option.some.inj hmembers
  obtain ⟨ws, hws, rfl⟩ := Option.map_eq_some_iff.mp h
  refine ⟨rfl, fun k x hx => ?_⟩
  have hwritten : Entries.get? k (Entries.mapValues f.write d.entries) = some (f.write x) :=
    (Entries.get?_mapValues f.write k d.entries).trans (congrArg (Option.map f.write) hx)
  obtain ⟨v, hv, hget⟩ := get?_of_mapM hws hwritten
  exact ⟨v, hget, hf x v (hall x) hv⟩

end Form

/-! ## Fields -/

namespace Slot

variable {α : Type} {f : Form α} {s : Shape}

/-- What a field says that is read back is found in what is written of it in the shape, and a field
that is not written says nothing. -/
structure Fits (slot : Slot α) (s : Shape) : Prop where
  written : ∀ x v, slot.ReadsBack x → slot.write x = some v →
    v.kind ≠ .null ∧ ∀ w, s.conform? v = some w → slot.FoundIn x (some w)
  unwritten : ∀ x, slot.write x = none → ∀ o, slot.FoundIn x o

/-- A field that has to be there fits if its form does. -/
@[simp] theorem fits_required (hf : f.Fits s) : (required f).Fits s where
  written x v hx hv := by
    obtain rfl := Option.some.inj hv
    exact ⟨f.write_ne_null x, fun w hw => ⟨w, rfl, hf x w hx hw⟩⟩
  unwritten _ h := nomatch h

/-- A field that may be left out fits if its form does. -/
@[simp] theorem fits_defaulted (hf : f.Fits s) {default : α} {blank : α → Bool} :
    (defaulted f default blank).Fits s where
  written x v hx hv := by
    have hread : (defaulted f default blank).read (some v) = some x := hv ▸ hx
    obtain ⟨-, hv⟩ := Option.ite_none_left_eq_some.mp hv
    obtain rfl := Option.some.inj hv
    exact ⟨f.write_ne_null x, fun w hw _ => ⟨w, rfl, hf x w hread hw⟩⟩
  unwritten x h _ hx := by
    have hwrite : (if blank x then none else some (f.write x)) = none := h
    rw [hx] at hwrite
    exact nomatch hwrite

/-- An optional field fits if its form does. -/
@[simp] theorem fits_optional (hf : f.Fits s) : (optional f).Fits s where
  written o v ho hv := by
    obtain ⟨x, rfl, rfl⟩ := Option.map_eq_some_iff.mp hv
    refine ⟨f.write_ne_null x, fun w hw y hy => ⟨w, rfl, ?_⟩⟩
    obtain rfl := Option.some.inj hy
    exact hf x w (readsBack_optional_iff.mp ho x rfl) hw
  unwritten o h _ y hy := by
    rw [Option.map_eq_none_iff.mp h] at hy
    exact nomatch hy

end Slot

/-! ## Records -/

/-- What conforms to an object is one. -/
theorem Shape.kind_conform?_object {fields : List (String × Bool × Shape)} {j w : Json}
    (h : (object fields).conform? j = some w) : w.kind = .object := by
  rw [conform?] at h
  obtain ⟨_, -, h⟩ := Option.bind_eq_some_iff.mp h
  obtain ⟨_, -, rfl⟩ := Option.map_eq_some_iff.mp h
  rfl

/-- What is looked up is in the list, under that name. -/
theorem mem_of_lookup {α : Type*} {name : String} {x : α} {l : List (String × α)}
    (h : l.lookup name = some x) : (name, x) ∈ l := by
  obtain ⟨before, after, rfl, -⟩ := List.lookup_eq_some_iff.mp h
  exact List.mem_append_right _ List.mem_cons_self

/-- A field that the shape lists, the names in it being different. -/
theorem Shape.hasField_of_lookup {fields : List (String × Bool × Shape)} {name : String}
    {needed : Bool} {s : Shape} (hnodup : (fields.map Prod.fst).Nodup)
    (h : fields.lookup name = some (needed, s)) : (object fields).HasField name s :=
  ⟨_, rfl, hnodup, needed, mem_of_lookup h⟩

/-- A record fits the shape of an object that has all its fields. -/
theorem RecordFormat.Describes.fits {ρ : Type} {R : RecordFormat ρ} {read : Json → Option ρ}
    {write : ρ → Json} (h : R.Describes read write) {hwrite : ∀ x, (write x).kind = .object}
    {fields : List (String × Bool × Shape)} (hnodup : (fields.map Prod.fst).Nodup)
    (hfields : R.fields.Forall fun e =>
      ∃ needed s, fields.lookup e.1 = some (needed, s) ∧ e.2.slot.Fits s) :
    (R.form read write hwrite).Fits (.object fields) := by
  intro x w hx hw
  obtain ⟨-, hslots⟩ := h.readsBack_iff.mp hx
  refine ⟨Shape.kind_conform?_object hw, ?_⟩
  intro e he
  obtain ⟨needed, s, hlookup, hfits⟩ := List.forall_iff_forall_mem.mp hfields e he
  have hmember := h.member?_write_of_readsBack hx he
  cases hv : e.2.slot.write (e.2.get x) with
  | none => exact hfits.unwritten _ hv _
  | some v =>
    obtain ⟨hnull, hfound⟩ := hfits.written _ v (hslots e he) hv
    obtain ⟨y, hy, hwy⟩ := (Shape.hasField_of_lookup hnodup hlookup).member?_conform? hw
      (hmember.trans hv) hnull
    rw [hwy]
    exact hfound y hy

end BuildFleet
