import BuildFleet.Instance.Basic
import BuildFleet.Proofs.Json.RoundTrip
import BuildFleet.Proofs.Time.Texts

/-!
# The forms of a status

How the parts of an instance's status are kept as JSON. All of them are always written, and all but
instants are read back whatever they are.

> `Instant.readsBack_form_iff`: an instant is read back if it is one that there is;
> `InstanceStatus.readsBack_iff`: so a status is read back if its conditions hold since such
> instants (`InstanceStatus.IsKept`), and
> `InstanceStatus.isKept_of_ofJson?`: every status that is read is like that.
-/

namespace BuildFleet

namespace Instant

def form : Form Instant where
  read := ofJson?
  write := toJson
  FoundIn i j := j = .str i.toText
  write_ne_null _ h := nomatch h

/-- An instant is read back exactly if it is one that there is. -/
@[simp] theorem readsBack_form_iff {i : Instant} : form.ReadsBack i ↔ i.IsKept := by
  simp only [Form.ReadsBack, form, ofJson?, toJson, Json.text?, Option.bind_some]
  exact ofText?_toText_iff

/-- An instant that is read is one that there is. -/
@[simp] theorem sound_form : form.Sound := by
  intro j i h
  obtain ⟨s, -, hs⟩ := Option.bind_eq_some_iff.mp h
  exact readsBack_form_iff.mpr (isKept_of_ofText? hs)

end Instant

namespace ConditionStatus

def form : Form ConditionStatus where
  read := ofJson?
  write s := .str s.text
  FoundIn s j := j = .str s.text
  write_ne_null _ h := nomatch h

/-- The status of a condition is read back. -/
@[simp] theorem readsBack_form (s : ConditionStatus) : form.ReadsBack s := by
  cases s <;> rfl

@[simp] theorem sound_form : form.Sound := fun _ s _ => readsBack_form s

end ConditionStatus

namespace Condition

def format : RecordFormat Condition where
  fields := [
    ("type", ⟨(·.type), .required .text⟩),
    ("status", ⟨(·.status), .required ConditionStatus.form⟩),
    ("reason", ⟨(·.reason), .required .text⟩),
    ("message", ⟨(·.message), .always .text ""⟩),
    ("lastTransitionTime", ⟨(·.lastTransitionTime), .required Instant.form⟩)]
  others := .ignored 5

theorem describes : format.Describes ofJson? toJson where
  nodup := by simp [RecordFormat.names, format]
  reads := by
    refine ⟨_, rfl, fun m => ?_⟩
    iterate 5 refine .field rfl fun _ => ?_
    exact .pure (by and_intros <;> rfl)
  ext := by
    rintro ⟨⟩ ⟨⟩ h _
    simpa [format] using h
  writes x := by
    simp [format, toJson, RecordFormat.written, RecordFormat.extra, FreeForm.empty]
    rfl

def form : Form Condition := format.form ofJson? toJson fun _ => rfl

@[simp] theorem readsBack_form_iff {c : Condition} :
    form.ReadsBack c ↔ c.lastTransitionTime.IsKept := by
  refine describes.readsBack_iff.trans ?_
  simp [format, RecordFormat.extra, FreeForm.avoids_empty]

@[simp] theorem sound_form : form.Sound := by
  refine describes.sound ?_
  simp [format]

end Condition

namespace ManagedKind

def form : Form ManagedKind where
  read := ofJson?
  write k := .str k.text
  FoundIn k j := j = .str k.text
  write_ne_null _ h := nomatch h

@[simp] theorem readsBack_form (k : ManagedKind) : form.ReadsBack k := by
  cases k <;> rfl

end ManagedKind

namespace ManagedRef

def format : RecordFormat ManagedRef where
  fields := [
    ("kind", ⟨(·.kind), .required ManagedKind.form⟩),
    ("namespace", ⟨(·.ns), .required .text⟩),
    ("name", ⟨(·.name), .required .text⟩)]
  others := .ignored 3

theorem describes : format.Describes ofJson? toJson where
  nodup := by simp [RecordFormat.names, format]
  reads := by
    refine ⟨_, rfl, fun m => ?_⟩
    iterate 3 refine .field rfl fun _ => ?_
    exact .pure (by and_intros <;> rfl)
  ext := by
    rintro ⟨⟩ ⟨⟩ h _
    simpa [format] using h
  writes x := by
    simp [format, toJson, RecordFormat.written, RecordFormat.extra, FreeForm.empty]
    rfl

def form : Form ManagedRef := format.form ofJson? toJson fun _ => rfl

@[simp] theorem readsBack_form (r : ManagedRef) : form.ReadsBack r := by
  refine describes.readsBack_iff.mpr ?_
  simp [format, RecordFormat.extra, FreeForm.avoids_empty]

@[simp] theorem sound_form : form.Sound := fun _ r _ => readsBack_form r

end ManagedRef

namespace InstanceStatus

def format : RecordFormat InstanceStatus where
  fields := [
    ("conditions", ⟨(·.conditions), .always Condition.form.list []⟩),
    ("resourceRefs", ⟨(·.refs), .always ManagedRef.form.list []⟩),
    ("endpoint", ⟨(·.endpoint), .always .text ""⟩)]
  others := .ignored 0

theorem describes : format.Describes ofJson? toJson where
  nodup := by simp [RecordFormat.names, format]
  reads := by
    refine ⟨_, rfl, fun m => ?_⟩
    iterate 3 refine .field rfl fun _ => ?_
    exact .pure (by and_intros <;> rfl)
  ext := by
    rintro ⟨⟩ ⟨⟩ h _
    simpa [format] using h
  writes x := by
    simp [format, toJson, RecordFormat.written, RecordFormat.extra, FreeForm.empty]
    rfl

def form : Form InstanceStatus := format.form ofJson? toJson fun _ => rfl

/-- Every condition has held or not since an instant that there is. -/
def IsKept (s : InstanceStatus) : Prop := ∀ c ∈ s.conditions, c.lastTransitionTime.IsKept

instance (s : InstanceStatus) : Decidable s.IsKept := List.decidableBAll _ _

/-- A status is read back exactly if its conditions hold since instants that there are. -/
theorem readsBack_iff {s : InstanceStatus} : form.ReadsBack s ↔ s.IsKept := by
  refine describes.readsBack_iff.trans ?_
  simp [format, RecordFormat.extra, FreeForm.avoids_empty, IsKept]

theorem sound_form : form.Sound := by
  refine describes.sound ?_
  simp [format]

/-- A status that is read has only instants that there are. -/
theorem isKept_of_ofJson? {j : Json} {s : InstanceStatus} (h : ofJson? j = some s) : s.IsKept :=
  readsBack_iff.mp (sound_form j s h)

end InstanceStatus

end BuildFleet
