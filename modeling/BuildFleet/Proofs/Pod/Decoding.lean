import BuildFleet.Proofs.Json.Places
import BuildFleet.Proofs.Pod.Forms

/-!
# What decoding a pod loses

A pod that is read and written again says what it said before, with one exception. Resource
requirements have no part for members without a field, unlike all other records under the metadata
and the specification: what the `resources` of a container have besides their two maps is lost, and
if they are given as a list, they come back as an object.

> `PodMeta.exact` and the like: records that keep other members lose nothing;
> `Requirements.carries`: what requirements lose;
> `Pod.decoded_carried`: of all places in a pod, those in requirements are the only ones where
> something is lost (`Pod.LostAt`).
-/

namespace BuildFleet

open Json (Key Carried)

/-! ## Records that lose nothing -/

@[simp] theorem EnvVar.exact : form.Exact := describes.exact rfl (by simp [format])

@[simp] theorem ContainerPort.exact : form.Exact := describes.exact rfl (by simp [format])

@[simp] theorem VolumeMount.exact : form.Exact := describes.exact rfl (by simp [format])

@[simp] theorem GrpcAction.exact : form.Exact := describes.exact rfl (by simp [format])

@[simp] theorem ExecAction.exact : form.Exact := describes.exact rfl (by simp [format])

@[simp] theorem Probe.exact : form.Exact := describes.exact rfl (by simp [format])

@[simp] theorem LifecycleHandler.exact : form.Exact := describes.exact rfl (by simp [format])

@[simp] theorem Lifecycle.exact : form.Exact := describes.exact rfl (by simp [format])

@[simp] theorem SecurityProfile.exact : form.Exact := describes.exact rfl (by simp [format])

@[simp] theorem SecurityContext.exact : form.Exact := describes.exact rfl (by simp [format])

@[simp] theorem ConfigMapSource.exact : form.Exact := describes.exact rfl (by simp [format])

@[simp] theorem SecretSource.exact : form.Exact := describes.exact rfl (by simp [format])

@[simp] theorem Toleration.exact : form.Exact := describes.exact rfl (by simp [format])

@[simp] theorem TopologySpreadConstraint.exact : form.Exact :=
  describes.exact rfl (by simp [format])

@[simp] theorem LocalReference.exact : form.Exact := describes.exact rfl (by simp [format])

@[simp] theorem PodMeta.exact : form.Exact := describes.exact rfl (by simp [format])

/-! ## Quantities and losses -/

namespace Requirements

/-- A quantity of some resource. -/
def QuantityAt : List Key → Prop
  | [.member k, .member _] => k = "limits" ∨ k = "requests"
  | _ => False

/-- What is not in one of the two maps, and whatever requirements say as a list. -/
def LostAt : List Key → Json → Prop
  | [], x => x.kind ≠ .object
  | .item _ :: _, _ => True
  | .member k :: _, _ => k ≠ "limits" ∧ k ≠ "requests"

/-- Both maps carry all their quantities. -/
theorem carries_map {name : String} (hname : name = "limits" ∨ name = "requests") :
    (Slot.dict .quantity).Carries (fun path => QuantityAt (.member name :: path))
      fun path => LostAt (.member name :: path) := by
  have hkept : ∀ path x, ¬ LostAt (.member name :: path) x :=
    fun _ _ hlost => hname.elim hlost.1 hlost.2
  refine Slot.carries_dict (Form.carries_dict (Q := (· = [])) (L := fun _ _ => False)
    (Form.carries_quantity rfl fun _ _ => not_false) (fun k path => ?_)
    (fun _ _ _ => iff_false_intro (hkept _ _)) (hkept _))
  cases path with
  | nil => exact iff_of_true hname rfl
  | cons _ _ => exact iff_of_false not_false (List.cons_ne_nil _ _)

theorem carries : form.Carries QuantityAt LostAt := by
  refine describes.carries_closed rfl ⟨carries_map (.inl rfl), carries_map (.inr rfl)⟩
    (fun _ => Iff.rfl) (fun _ _ _ => trivial) fun k hk path x => ?_
  show k ≠ "limits" ∧ k ≠ "requests"
  simpa [RecordFormat.names, format] using hk

end Requirements

namespace Container

/-- A quantity in the resources. -/
def QuantityAt : List Key → Prop
  | .member k :: path => k = "resources" ∧ Requirements.QuantityAt path
  | _ => False

/-- What the resources lose. -/
def LostAt : List Key → Json → Prop
  | .member k :: path, x => k = "resources" ∧ Requirements.LostAt path x
  | _, _ => False

/-- Requirements carry over all but what is lost in them. -/
theorem carries_resources : (Slot.optional Requirements.form).Carries
    (fun path => QuantityAt (.member "resources" :: path))
    fun path => LostAt (.member "resources" :: path) :=
  (Slot.carries_optional Requirements.carries).congr (by simp [QuantityAt]) (by simp [LostAt])

theorem carries_other {α : Type} {s : Slot α} (hs : s.Exact) {name : String}
    (hname : name ≠ "resources") : s.Carries (fun path => QuantityAt (.member name :: path))
      fun path => LostAt (.member name :: path) :=
  hs.carries fun _ _ hlost => hname hlost.1

theorem carries : form.Carries QuantityAt LostAt := by
  refine describes.carries rfl ?_ (fun _ => not_false) fun k hk _ _ hlost => ?_
  · simp [format, carries_resources, carries_other]
  · simp [RecordFormat.names, format, hlost.1] at hk

end Container

namespace EmptyDirSource

theorem carries : form.Carries (· = [.member "sizeLimit"]) fun _ _ => False := by
  refine describes.carries rfl ⟨?_, ?_⟩ (fun _ => not_false) fun _ _ _ _ => not_false
  · exact Slot.Exact.carries Slot.exact_text fun _ _ => not_false
  · exact Slot.carries_optional (Form.carries_quantity rfl fun _ _ => not_false)

end EmptyDirSource

namespace Volume

/-- The size limit of an empty directory. -/
def QuantityAt (path : List Key) : Prop := path = [.member "emptyDir", .member "sizeLimit"]

theorem carries : form.Carries QuantityAt fun _ _ => False := by
  refine describes.carries rfl ?_ (fun _ => not_false) fun _ _ _ _ => not_false
  have hemptyDir : (Slot.optional EmptyDirSource.form).Carries
      (fun path => QuantityAt (.member "emptyDir" :: path)) fun _ _ => False :=
    (Slot.carries_optional EmptyDirSource.carries).congr (by simp [QuantityAt]) fun _ _ => Iff.rfl
  refine ⟨?_, hemptyDir, ?_, ?_⟩
  all_goals exact Slot.Exact.carries (by simp) fun _ _ => not_false

end Volume

namespace PodSpec

/-- A quantity in one of the containers or volumes. -/
def QuantityAt : List Key → Prop
  | .member k :: .item _ :: path =>
    (k = "containers" ∨ k = "initContainers") ∧ Container.QuantityAt path
      ∨ k = "volumes" ∧ Volume.QuantityAt path
  | _ => False

/-- What one of the containers loses. -/
def LostAt : List Key → Json → Prop
  | .member k :: .item _ :: path, x =>
    (k = "containers" ∨ k = "initContainers") ∧ Container.LostAt path x
  | _, _ => False

/-- A list of containers carries over all but what is lost in their requirements. -/
theorem carries_containers {name : String} (hname : name = "containers" ∨ name = "initContainers") :
    (Slot.list Container.form).Carries (fun path => QuantityAt (.member name :: path))
      fun path => LostAt (.member name :: path) := by
  refine Slot.carries_list (Form.carries_list Container.carries (fun i path => ?_)
    (fun i path x => ?_) fun _ => not_false)
  · have hvolumes : name ≠ "volumes" := by rintro rfl; simp at hname
    simp [QuantityAt, hname, hvolumes]
  · simp [LostAt, hname]

/-- Volumes lose nothing. -/
theorem carries_volumes : (Slot.list Volume.form).Carries
    (fun path => QuantityAt (.member "volumes" :: path))
    fun path => LostAt (.member "volumes" :: path) := by
  refine Slot.carries_list (Form.carries_list Volume.carries (fun i path => ?_)
    (fun i path x => ?_) fun _ => not_false)
  · simp [QuantityAt]
  · simp [LostAt]

/-- Outside of containers nothing is lost. -/
theorem not_lostAt {name : String} (hname : name ≠ "containers" ∧ name ≠ "initContainers")
    (path : List Key) (x : Json) : ¬ LostAt (.member name :: path) x := by
  intro hlost
  match path, hlost with
  | .item _ :: _, hlost => exact hlost.1.elim hname.1 hname.2

theorem carries_other {α : Type} {s : Slot α} (hs : s.Exact) {name : String}
    (hname : name ≠ "containers" ∧ name ≠ "initContainers") :
    s.Carries (fun path => QuantityAt (.member name :: path))
      fun path => LostAt (.member name :: path) :=
  hs.carries (not_lostAt hname)

theorem carries : form.Carries QuantityAt LostAt := by
  refine describes.carries rfl ?_ (fun _ => not_false) fun k hk path x => ?_
  · simp [format, carries_containers, carries_volumes, carries_other]
  · exact not_lostAt (by simp_all [RecordFormat.names, format]) path x

end PodSpec

namespace Pod

def QuantityAt : List Key → Prop
  | .member k :: path => k = "spec" ∧ PodSpec.QuantityAt path
  | _ => False

/-- What the containers lose, members that a pod has no field for, and whatever it says as a
list. -/
def LostAt : List Key → Json → Prop
  | [], x => x.kind ≠ .object
  | .item _ :: _, _ => True
  | .member k :: path, x => k ≠ "metadata" ∧ k ≠ "spec" ∨ k = "spec" ∧ PodSpec.LostAt path x

/-- Whatever counts in a pod that is read is said in the same place of what is written of it, unless
it is lost. -/
theorem decoded_carried {j : Json} {p : Pod} (hj : j.WellFormed) (hp : ofJson? j = some p)
    {path : List Key} {x : Json} (hx : j.descend? path = some x) (hcounts : Json.Counts path x) :
    (∃ y, p.toJson.descend? path = some y ∧ Json.SaidBy (QuantityAt path) x y)
      ↔ ¬ LostAt path x := by
  have hmetadata : (Slot.always PodMeta.form {}).Carries
      (fun path => QuantityAt (.member "metadata" :: path))
      fun path => LostAt (.member "metadata" :: path) :=
    Slot.carries_always (PodMeta.exact.carries fun path x => by simp [LostAt])
  have hspec : (Slot.always PodSpec.form {}).Carries
      (fun path => QuantityAt (.member "spec" :: path))
      fun path => LostAt (.member "spec" :: path) :=
    (Slot.carries_always PodSpec.carries).congr (by simp [QuantityAt]) (by simp [LostAt])
  have hothers : ∀ k ∉ format.names, ∀ path x, LostAt (.member k :: path) x := by
    intro k hk path x
    refine Or.inl ?_
    simpa [RecordFormat.names, format] using hk
  have hcarries : form.Carries QuantityAt LostAt := describes.carries_closed rfl
    ⟨hmetadata, hspec⟩ (fun _ => Iff.rfl) (fun _ _ _ => trivial) hothers
  exact hcarries j p hj hp path x hx hcounts

/-- A container that limits the processor and claims a device. -/
def claimingJson : Json := .obj [("spec", .obj [("containers", .arr [.obj [
  ("name", .str "buildkit"),
  ("resources", .obj [("claims", .arr [.obj [("name", .str "gpu")]]),
    ("limits", .obj [("cpu", .int 2)])])]])])]

/-- The pod with claims is well-formed. -/
theorem claimingJson_wellFormed : claimingJson.WellFormed := by
  simp only [claimingJson, Json.WellFormed, Json.AllWellFormed, Json.FieldsWellFormed,
    Entries.Sorted]
  decide

/-- A place in the resources of the first container. -/
def inFirstResources (path : List Key) : List Key :=
  .member "spec" :: .member "containers" :: .item 0 :: .member "resources" :: path

/-- The limit beside the claims is carried over, as a quantity. -/
theorem decoded_carried_cpu : ∃ p y, ofJson? claimingJson = some p
    ∧ p.toJson.descend? (inFirstResources [.member "limits", .member "cpu"]) = some y
    ∧ Json.SaidBy True (.int 2) y := by
  have hread : (ofJson? claimingJson).isSome = true := by decide
  obtain ⟨p, hp⟩ := Option.isSome_iff_exists.mp hread
  have hplace : claimingJson.descend? (inFirstResources [.member "limits", .member "cpu"])
      = some (.int 2) := by
    simp [inFirstResources, claimingJson, Json.member?, Json.items?, Entries.get?]
  have hcounts : Json.Counts (inFirstResources [.member "limits", .member "cpu"]) (.int 2) := by
    simp [Json.Counts, Json.Blank]
  obtain ⟨y, hy, hsaid⟩ := (decoded_carried claimingJson_wellFormed hp hplace hcounts).mpr (by
    simp [inFirstResources, LostAt, PodSpec.LostAt, Container.LostAt, Requirements.LostAt])
  refine ⟨p, y, hp, hy, ?_⟩
  simpa [inFirstResources, QuantityAt, PodSpec.QuantityAt, Container.QuantityAt,
    Requirements.QuantityAt] using hsaid

/-- The device is lost. -/
theorem claims_lost : claimingJson.WellFormed ∧ ∃ p, ofJson? claimingJson = some p
    ∧ claimingJson.descend? (inFirstResources [.member "claims"])
      = some (.arr [.obj [("name", .str "gpu")]])
    ∧ p.toJson.descend? (inFirstResources [.member "claims"]) = none := by
  have hread : ((ofJson? claimingJson).map fun p =>
      (p.toJson.descend? (inFirstResources [.member "claims"])).isNone) = some true := by
    decide
  obtain ⟨p, hp, hnone⟩ := Option.map_eq_some_iff.mp hread
  refine ⟨claimingJson_wellFormed, p, hp, ?_, Option.isNone_iff_eq_none.mp hnone⟩
  simp [inFirstResources, claimingJson, Json.member?, Json.items?, Entries.get?]

end Pod

end BuildFleet
