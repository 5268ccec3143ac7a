import BuildFleet.Proofs.Json.Forms
import BuildFleet.Proofs.Merge.Keeping

/-!
# Reading back what was written

A form is sound if whatever it reads is read back from what is written of it. Forms are sound that
are put together from sound ones. For a record this hinges on the members without a field: they are
written behind the fields and win over them, so none of them may have the name of a field, which
reading sees to.

> `RecordFormat.Describes.readsBack_iff`: a written record is read back exactly if all its fields
> are and no member without a field has the name of one;
> `RecordFormat.Describes.sound`: a record is sound if its fields are;
> `RecordFormat.Describes.keeps`: and merging keeps that a record is read back if it keeps this of
> every field.
-/

namespace BuildFleet

/-! ## Values -/

namespace Form

variable {α : Type} {f : Form α}

/-- What is read is read back. -/
def Sound (f : Form α) : Prop := ∀ j x, f.read j = some x → f.ReadsBack x

/-- A text is read back, be it left out. -/
@[simp] theorem readsBack_text (s : String) : text.ReadsBack s := rfl

@[simp] theorem readsBack_flag (b : Bool) : flag.ReadsBack b := rfl

@[simp] theorem readsBack_quantity (q : Quantity) : quantity.ReadsBack q := rfl

@[simp] theorem readsBack_freeForm (x : FreeForm) : freeForm.ReadsBack x :=
  FreeForm.ofJson?_toJson x

/-- An integer is read back if it is in the range. -/
theorem readsBack_integer_iff {lo hi n : Int} : (integer lo hi).ReadsBack n ↔ lo ≤ n ∧ n ≤ hi := by
  show (if lo ≤ n ∧ n ≤ hi then some n else none) = some n ↔ _
  simp

/-- A list is read back if each of its items is. -/
@[simp] theorem readsBack_list_iff {xs : List α} :
    f.list.ReadsBack xs ↔ ∀ x ∈ xs, f.ReadsBack x := by
  show (xs.map f.write).mapM f.read = some xs ↔ _
  induction xs with
  | nil => simp
  | cons x xs ih =>
    rw [List.map_cons, mapM_cons_eq_some, List.forall_mem_cons, ← ih]
    constructor
    · rintro ⟨y, ys, hy, hys, heq⟩
      obtain ⟨rfl, rfl⟩ := List.cons.inj heq
      exact ⟨hy, hys⟩
    · rintro ⟨hx, hxs⟩
      exact ⟨x, xs, hx, hxs, rfl⟩

/-- A map is read back if all values of its type are. -/
theorem readsBack_dict (hf : ∀ x, f.ReadsBack x) (d : Dict α) : f.dict.ReadsBack d := by
  have hentries : ∀ l : List (String × α), (Entries.mapValues f.write l).mapM
      (fun e => (f.read e.2).map fun v => (e.1, v)) = some l := by
    intro l
    induction l with
    | nil => rfl
    | cons e rest ih =>
      refine mapM_cons_eq_some.mpr ⟨e, rest, ?_, ih, rfl⟩
      show (f.read (f.write e.2)).map _ = _
      rw [hf e.2, Option.map_some]
  refine Option.map_eq_some_iff.mpr ⟨d.entries, hentries d.entries, Dict.ext_get? fun k => ?_⟩
  exact congrArg (Entries.get? k) (Entries.ofList_eq_self d.sorted)

@[simp] theorem sound_text : text.Sound := fun _ s _ => readsBack_text s

@[simp] theorem sound_flag : flag.Sound := fun _ b _ => readsBack_flag b

@[simp] theorem sound_quantity : quantity.Sound := fun _ q _ => readsBack_quantity q

@[simp] theorem sound_freeForm : freeForm.Sound := fun _ x _ => readsBack_freeForm x

/-- An integer that is read is in the range. -/
@[simp] theorem sound_integer (lo hi : Int) : (integer lo hi).Sound := by
  intro j n h
  cases j with
  | int m =>
    obtain ⟨hrange, hn⟩ := Option.ite_none_right_eq_some.mp h
    exact readsBack_integer_iff.mpr (Option.some.inj hn ▸ hrange)
  | _ => exact nomatch h

@[simp] theorem sound_int32 : int32.Sound := sound_integer _ _

@[simp] theorem sound_int64 : int64.Sound := sound_integer _ _

/-- Lists are sound if their items are. -/
@[simp] theorem sound_list (hf : f.Sound) : f.list.Sound := by
  intro j xs h
  obtain ⟨items, -, hitems⟩ := Option.bind_eq_some_iff.mp h
  exact readsBack_list_iff.mpr (forall_of_mapM hf hitems)

@[simp] theorem sound_dict_text : text.dict.Sound := fun _ d _ => readsBack_dict readsBack_text d

@[simp] theorem sound_dict_quantity : quantity.dict.Sound :=
  fun _ d _ => readsBack_dict readsBack_quantity d

end Form

/-! ## Fields -/

namespace Slot

variable {α : Type} {f : Form α}

/-- What is read is read back. -/
def Sound (s : Slot α) : Prop := ∀ o x, s.read o = some x → s.ReadsBack x

@[simp] theorem readsBack_required_iff {x : α} : (required f).ReadsBack x ↔ f.ReadsBack x := Iff.rfl

/-- A field that stands for a default is read back if it is blank or its value is. -/
theorem readsBack_defaulted_iff {default : α} {blank : α → Bool}
    (hblank : ∀ x, blank x = true → x = default) {x : α} :
    (defaulted f default blank).ReadsBack x ↔ (blank x = false → f.ReadsBack x) := by
  unfold ReadsBack
  show (defaulted f default blank).read (if blank x then none else some (f.write x)) = some x ↔ _
  cases hx : blank x with
  | false => exact ⟨fun h _ => h, fun h => h rfl⟩
  | true =>
    obtain rfl := hblank x hx
    exact ⟨fun _ hx => Bool.noConfusion hx, fun _ => rfl⟩

@[simp] theorem readsBack_text (s : String) : text.ReadsBack s :=
  (readsBack_defaulted_iff fun _ h => String.isEmpty_iff.mp h).mpr fun _ => rfl

/-- A list is read back, be it left out, if each of its items is. -/
@[simp] theorem readsBack_list_iff {xs : List α} :
    (list f).ReadsBack xs ↔ ∀ x ∈ xs, f.ReadsBack x := by
  rw [readsBack_defaulted_iff fun _ h => List.isEmpty_iff.mp h, Form.readsBack_list_iff]
  cases xs with
  | nil => simp
  | cons x xs => simp

/-- A map is read back, be it left out, if all values of its type are. -/
theorem readsBack_dict (hf : ∀ x, f.ReadsBack x) (d : Dict α) : (dict f).ReadsBack d := by
  refine (readsBack_defaulted_iff ?_).mpr fun _ => Form.readsBack_dict hf d
  rintro ⟨entries, hsorted⟩ hempty
  obtain rfl : entries = [] := List.isEmpty_iff.mp hempty
  rfl

@[simp] theorem readsBack_dict_text (d : Dict String) : (dict .text).ReadsBack d :=
  readsBack_dict Form.readsBack_text d

@[simp] theorem readsBack_dict_quantity (d : Dict Quantity) : (dict .quantity).ReadsBack d :=
  readsBack_dict Form.readsBack_quantity d

/-- A field that is always written is read back if its value is. -/
@[simp] theorem readsBack_always_iff {default x : α} :
    (always f default).ReadsBack x ↔ f.ReadsBack x := by
  rw [readsBack_defaulted_iff fun _ h => Bool.noConfusion h]
  simp

/-- An optional field is read back if its value is. -/
@[simp] theorem readsBack_optional_iff {o : Option α} :
    (optional f).ReadsBack o ↔ ∀ x ∈ o, f.ReadsBack x := by
  cases o with
  | none => exact ⟨fun _ _ hx => absurd hx (Option.not_mem_none _), fun _ => rfl⟩
  | some x =>
    show (optional f).read (some (f.write x)) = some (some x) ↔ _
    rw [read_optional_of_ne_null f (f.write_ne_null x), Option.map_eq_some_iff]
    simp [Form.ReadsBack]

/-- A field that has to be there is sound if its form is. -/
@[simp] theorem sound_required (hf : f.Sound) : (required f).Sound := by
  intro o x h
  obtain ⟨j, -, hx⟩ := Option.bind_eq_some_iff.mp h
  exact hf j x hx

/-- A field that stands for a default is sound if its form is and the default is read back. -/
theorem sound_defaulted {default : α} {blank : α → Bool} (hf : f.Sound)
    (hblank : ∀ x, blank x = true → x = default)
    (hdefault : blank default = false → f.ReadsBack default) :
    (defaulted f default blank).Sound := by
  intro o x h
  refine (readsBack_defaulted_iff hblank).mpr fun hx => ?_
  cases o with
  | none =>
    obtain rfl := Option.some.inj h
    exact hdefault hx
  | some j => exact hf j x h

@[simp] theorem sound_text : text.Sound := fun _ s _ => readsBack_text s

/-- A list that may be left out is sound if its items are. -/
@[simp] theorem sound_list (hf : f.Sound) : (list f).Sound :=
  sound_defaulted (Form.sound_list hf) (fun _ h => List.isEmpty_iff.mp h) fun h =>
    Bool.noConfusion h

@[simp] theorem sound_dict_text : (dict .text).Sound := fun _ d _ => readsBack_dict_text d

@[simp] theorem sound_dict_quantity : (dict .quantity).Sound :=
  fun _ d _ => readsBack_dict_quantity d

/-- A field that is always written is sound if its form is and the default is read back. -/
@[simp] theorem sound_always (hf : f.Sound) {default : α} (hdefault : f.ReadsBack default) :
    (always f default).Sound :=
  sound_defaulted hf (fun _ h => Bool.noConfusion h) fun _ => hdefault

/-- An optional field is sound if its form is. -/
@[simp] theorem sound_optional (hf : f.Sound) : (optional f).Sound := by
  intro o x h
  refine readsBack_optional_iff.mpr ?_
  rintro y rfl
  have hmember : Members.optional? (o.toList.map fun j => ("", j)) "" f.read = some (some y) := by
    cases o <;> exact h
  obtain ⟨j, hj⟩ := Members.exists_of_optional? hmember
  exact hf j y hj

/-! Merging keeps that a field is read back if it keeps this of the values in the field. -/

section Merging

variable {r : Rules α}

/-- Merging keeps that an optional field is read back if it keeps this of its values. -/
@[simp] theorem keeps_optional (h : r.Keeps f.ReadsBack) :
    r.optional.Keeps (optional f).ReadsBack := by
  intro b l v hb hl hv
  rw [readsBack_optional_iff] at hb hl ⊢
  exact h.optional b l v hb hl hv

@[simp] theorem keeps_optional_quantity {r : Rules Quantity} :
    r.optional.Keeps (optional .quantity).ReadsBack :=
  keeps_optional (Rules.keeps_of_forall Form.readsBack_quantity)

@[simp] theorem keeps_optional_freeForm {r : Rules FreeForm} :
    r.optional.Keeps (optional .freeForm).ReadsBack :=
  keeps_optional (Rules.keeps_of_forall Form.readsBack_freeForm)

/-- Merging keeps that a keyed list is read back if it keeps this of its elements. -/
@[simp] theorem keeps_list {key : α → String} (h : r.Keeps f.ReadsBack) :
    (r.keyed key).Keeps (list f).ReadsBack := by
  intro b l v hb hl hv
  rw [readsBack_list_iff] at hb hl ⊢
  exact h.keyed b l v hb hl hv

/-- Merging keeps that a field that is always written is read back if it keeps this of its values.
-/
@[simp] theorem keeps_always {default : α} (h : r.Keeps f.ReadsBack) :
    r.Keeps (always f default).ReadsBack := by
  intro b l v hb hl hv
  rw [readsBack_always_iff] at hb hl ⊢
  exact h b l v hb hl hv

@[simp] theorem keeps_dict_text {r : Rules (Dict String)} : r.Keeps (dict .text).ReadsBack :=
  Rules.keeps_of_forall readsBack_dict_text

@[simp] theorem keeps_dict_quantity {r : Rules (Dict Quantity)} :
    r.Keeps (dict .quantity).ReadsBack :=
  Rules.keeps_of_forall readsBack_dict_quantity

end Merging

end Slot

/-! ## Records -/

namespace RecordFormat.Describes

variable {ρ : Type} {R : RecordFormat ρ} {read : Json → Option ρ} {write : ρ → Json}

/-- The members without a field are read again as they are if they avoid the fields. -/
theorem rest_written (h : R.Describes read write) {x : ρ} (hx : (R.extra x).Avoids R.names) :
    R.rest (Entries.ofList (R.written x)) = R.extra x := by
  unfold rest
  split
  · next hothers => simp [extra, hothers]
  · have hwell := (R.extra x).wellFormed
    rw [Json.WellFormed] at hwell
    have hwithout :
        Members.without (Entries.ofList (R.written x)) R.names = (R.extra x).fields := by
      refine Entries.ext_get? (Entries.filterKeys_sorted _ (Entries.ofList_sorted _)) hwell.1 ?_
      intro k
      rw [Members.get?_without]
      split
      · next hk => exact (hx k hk).symm
      · next hk =>
        have hother := h.member?_write_of_notMem hk x
        rw [h.writes] at hother
        exact hother
    rw [hwithout]
    exact FreeForm.ext (by
      show Entries.ofList (Json.canonicalFields (R.extra x).fields) = _
      rw [Json.canonicalFields_eq_self hwell.2, Entries.ofList_eq_self hwell.1])

/-- A record is read back exactly if its fields are and no member without a field has the name of
one. -/
theorem readsBack_iff (h : R.Describes read write) {hwrite : ∀ x, (write x).kind = .object}
    {x : ρ} : (R.form read write hwrite).ReadsBack x
      ↔ (R.extra x).Avoids R.names ∧ ∀ e ∈ R.fields, e.2.slot.ReadsBack (e.2.get x) := by
  have hmembers : R.members? (write x) = some (Entries.ofList (R.written x)) := by
    rw [h.writes, members?]
    cases R.others <;> rfl
  have hget : (R.extra x).Avoids R.names → ∀ e ∈ R.fields,
      Entries.get? e.1 (Entries.ofList (R.written x)) = e.2.slot.write (e.2.get x) := by
    intro hx e he
    have hmember := h.member?_write he x
    rw [hx e.1 (List.mem_map_of_mem he), Option.none_or, h.writes] at hmember
    exact hmember
  constructor
  · intro hx
    obtain ⟨m, hm, hfields, hextra⟩ := h.read_iff.mp hx
    obtain rfl := Option.some.inj (hmembers.symm.trans hm)
    have havoids : (R.extra x).Avoids R.names := hextra ▸ R.avoids_rest _
    refine ⟨havoids, fun e he => ?_⟩
    have hread := hfields e he
    rw [hget havoids e he] at hread
    exact hread
  · rintro ⟨hx, hfields⟩
    refine h.read_iff.mpr ⟨_, hmembers, fun e he => ?_, h.rest_written hx⟩
    rw [hget hx e he]
    exact hfields e he

/-- A record that is read back has each of its fields in what is written of it. -/
theorem member?_write_of_readsBack (h : R.Describes read write)
    {hwrite : ∀ x, (write x).kind = .object} {x : ρ} (hx : (R.form read write hwrite).ReadsBack x)
    {e : String × RecordField ρ} (he : e ∈ R.fields) :
    (write x).member? e.1 = e.2.slot.write (e.2.get x) := by
  obtain ⟨havoids, -⟩ := h.readsBack_iff.mp hx
  rw [h.member?_write he x, havoids e.1 (List.mem_map_of_mem he), Option.none_or]

/-- A record is sound if its fields are. -/
theorem sound (h : R.Describes read write) {hwrite : ∀ x, (write x).kind = .object}
    (hfields : ∀ e ∈ R.fields, e.2.slot.Sound) : (R.form read write hwrite).Sound := by
  intro j x hx
  obtain ⟨m, -, hread, hextra⟩ := h.read_iff.mp hx
  exact h.readsBack_iff.mpr
    ⟨hextra ▸ R.avoids_rest m, fun e he => hfields e he _ _ (hread e he)⟩

/-- Merging keeps that a record is read back if each of its fields is a part of it whose rules keep
that the field is. The members without a field are a part of their own. -/
theorem keeps [Mergeable ρ] (h : R.Describes read write) {hwrite : ∀ x, (write x).kind = .object}
    {parts : List (Step × Facet ρ)} (hparts : Fieldwise parts)
    (hothers : ∀ extra, R.others = .kept extra → parts.lookup .rest = some ⟨extra, .freeForm⟩)
    (hfields : R.fields.Forall fun e => ∃ r, parts.lookup (.field e.1) = some ⟨e.2.get, r⟩
      ∧ r.Keeps e.2.slot.ReadsBack) {fits : ρ → ρ → Prop} :
    (Rules.composite merge fits fun s => parts.lookup s).Keeps
      (R.form read write hwrite).ReadsBack := by
  intro b l v hb hl hv
  obtain ⟨hbextra, hbfields⟩ := h.readsBack_iff.mp hb
  obtain ⟨hlextra, hlfields⟩ := h.readsBack_iff.mp hl
  have hlay := (hparts.partwise.lay_iff b l v).mp hv
  refine h.readsBack_iff.mpr ⟨?_, fun e he => ?_⟩
  · unfold extra at hbextra hlextra ⊢
    split
    · exact FreeForm.avoids_empty _
    · next hother =>
      simp only [hother] at hbextra hlextra
      exact Rules.keeps_avoids R.names _ _ _ hbextra hlextra (hlay _ _ (hothers _ hother))
  · obtain ⟨r, hlookup, hkeeps⟩ := List.forall_iff_forall_mem.mp hfields e he
    exact hkeeps _ _ _ (hbfields e he) (hlfields e he) (hlay _ _ hlookup)

end RecordFormat.Describes

end BuildFleet
