import BuildFleet.Proofs.Kubernetes.Fits
import BuildFleet.Proofs.Pod.RoundTrip

/-!
# The fields of a pod in the pod of the API

A pod goes to the API through JSON, and there it meets the fields of the API, which drops members
that it does not know. None of the pod's own fields is one of these: every record of a pod fits the
object that the API has in its place, so a field that is set is found there, with its value, at any
depth and for each item of a list.

> `PodSpec.fits`: this holds of the contents, record by record;
> `PodMeta.foundIn_objectMeta`: and of the metadata, which the API takes apart and puts together
> again;
> `Pod.foundIn_of_readsBack`: so it holds of a pod that is read back from what is written of it.

That the pods that there are are read back is shown for those that were read or merged
(`Pod.Obtained.readsBack`) and for those that are built (`buildPod_readsBack`).
-/

namespace BuildFleet

@[simp] theorem Form.fits_strings : Form.text.list.Fits PodFormat.strings := fits_list fits_text

@[simp] theorem Form.fits_stringMap : Form.text.dict.Fits PodFormat.stringMap :=
  fits_dict fits_text readsBack_text

@[simp] theorem Form.fits_quantities : Form.quantity.dict.Fits PodFormat.quantities :=
  fits_dict fits_quantity readsBack_quantity

/-! ## Records

The shape has different names for its fields, and each field of the record is found among them. -/

/-- The API has the limits and requests of requirements. -/
@[simp] theorem Requirements.fits : form.Fits PodFormat.resourceRequirements := by
  refine describes.fits (by simp [Shape.optional]) ?_
  simp only [format, List.Forall]
  and_intros
  all_goals exact ⟨_, _, rfl, by simp⟩

@[simp] theorem EnvVar.fits : form.Fits PodFormat.envVar := by
  refine describes.fits (by simp [Shape.required, Shape.optional]) ?_
  simp only [format, List.Forall]
  and_intros
  all_goals exact ⟨_, _, rfl, by simp⟩

@[simp] theorem ContainerPort.fits : form.Fits PodFormat.containerPort := by
  refine describes.fits (by simp [Shape.required, Shape.optional]) ?_
  simp only [format, List.Forall]
  and_intros
  all_goals exact ⟨_, _, rfl, by simp⟩

@[simp] theorem VolumeMount.fits : form.Fits PodFormat.volumeMount := by
  refine describes.fits (by simp [Shape.required, Shape.optional]) ?_
  simp only [format, List.Forall]
  and_intros
  all_goals exact ⟨_, _, rfl, by simp⟩

@[simp] theorem GrpcAction.fits : form.Fits
    (.object [Shape.required "port" .int32, Shape.optional "service" .string]) := by
  refine describes.fits (by simp [Shape.required, Shape.optional]) ?_
  simp only [format, List.Forall]
  and_intros
  all_goals exact ⟨_, _, rfl, by simp⟩

@[simp] theorem ExecAction.fits : form.Fits PodFormat.execAction := by
  refine describes.fits (by simp [Shape.optional]) ?_
  simp only [format, List.Forall]
  exact ⟨_, _, rfl, by simp⟩

@[simp] theorem Probe.fits : form.Fits PodFormat.probe := by
  refine describes.fits (by simp [Shape.optional]) ?_
  simp only [format, List.Forall]
  and_intros
  all_goals exact ⟨_, _, rfl, by simp⟩

@[simp] theorem LifecycleHandler.fits : form.Fits PodFormat.lifecycleHandler := by
  refine describes.fits (by simp [Shape.optional]) ?_
  simp only [format, List.Forall]
  exact ⟨_, _, rfl, by simp⟩

@[simp] theorem Lifecycle.fits : form.Fits PodFormat.lifecycle := by
  refine describes.fits (by simp [Shape.optional]) ?_
  simp only [format, List.Forall]
  exact ⟨_, _, rfl, by simp⟩

@[simp] theorem SecurityProfile.fits : form.Fits PodFormat.securityProfile := by
  refine describes.fits (by simp [Shape.required, Shape.optional]) ?_
  simp only [format, List.Forall]
  and_intros
  all_goals exact ⟨_, _, rfl, by simp⟩

@[simp] theorem SecurityContext.fits : form.Fits PodFormat.securityContext := by
  refine describes.fits (by simp [Shape.optional]) ?_
  simp only [format, List.Forall]
  and_intros
  all_goals exact ⟨_, _, rfl, by simp⟩

/-- The API has all fields of a container. -/
@[simp] theorem Container.fits : form.Fits PodFormat.container := by
  refine describes.fits (by simp [PodFormat.containerFields, Shape.required, Shape.optional]) ?_
  simp only [format, List.Forall]
  and_intros
  all_goals exact ⟨_, _, rfl, by simp⟩

@[simp] theorem EmptyDirSource.fits : form.Fits
    (.object [Shape.optional "medium" .string, Shape.optional "sizeLimit" .string]) := by
  refine describes.fits (by simp [Shape.optional]) ?_
  simp only [format, List.Forall]
  and_intros
  all_goals exact ⟨_, _, rfl, by simp⟩

@[simp] theorem ConfigMapSource.fits : form.Fits (.object [
    Shape.optional "defaultMode" .int32, Shape.optional "items" (.list PodFormat.keyToPath),
    Shape.required "name" .string, Shape.optional "optional" .boolean]) := by
  refine describes.fits (by simp [Shape.required, Shape.optional]) ?_
  simp only [format, List.Forall]
  and_intros
  all_goals exact ⟨_, _, rfl, by simp⟩

@[simp] theorem SecretSource.fits : form.Fits (.object [
    Shape.optional "defaultMode" .int32, Shape.optional "items" (.list PodFormat.keyToPath),
    Shape.optional "optional" .boolean, Shape.optional "secretName" .string]) := by
  refine describes.fits (by simp [Shape.optional]) ?_
  simp only [format, List.Forall]
  and_intros
  all_goals exact ⟨_, _, rfl, by simp⟩

@[simp] theorem Volume.fits : form.Fits PodFormat.volume := by
  refine describes.fits (by simp [Shape.required, Shape.optional]) ?_
  simp only [format, List.Forall]
  and_intros
  all_goals exact ⟨_, _, rfl, by simp⟩

@[simp] theorem Toleration.fits : form.Fits PodFormat.toleration := by
  refine describes.fits (by simp [Shape.optional]) ?_
  simp only [format, List.Forall]
  and_intros
  all_goals exact ⟨_, _, rfl, by simp⟩

@[simp] theorem TopologySpreadConstraint.fits : form.Fits PodFormat.topologySpreadConstraint := by
  refine describes.fits (by simp [Shape.required, Shape.optional]) ?_
  simp only [format, List.Forall]
  and_intros
  all_goals exact ⟨_, _, rfl, by simp⟩

@[simp] theorem LocalReference.fits : form.Fits PodFormat.localReference := by
  refine describes.fits (by simp) ?_
  simp only [format, List.Forall]
  exact ⟨_, _, rfl, by simp⟩

@[simp] theorem PodMeta.fits : form.Fits PodFormat.objectMeta := by
  refine describes.fits (by simp [Shape.optional]) ?_
  simp only [format, List.Forall]
  and_intros
  all_goals exact ⟨_, _, rfl, by simp⟩

/-- The API has all fields of a pod's contents. -/
@[simp] theorem PodSpec.fits : form.Fits PodFormat.podSpec := by
  refine describes.fits (by simp [Shape.required, Shape.optional]) ?_
  simp only [format, List.Forall]
  and_intros
  all_goals exact ⟨_, _, rfl, by simp⟩

/-! ## Metadata -/

/-- A map of texts is a well-formed object. -/
theorem Json.wellFormed_ofDict_text (d : Dict String) : (ofDict str d).WellFormed := by
  show (obj (Entries.mapValues str d.entries)).WellFormed
  rw [WellFormed, fieldsWellFormed_iff]
  refine ⟨Entries.mapValues_sorted _ d.sorted, fun e he => ?_⟩
  obtain ⟨e', -, rfl⟩ := List.mem_map.mp he
  trivial

/-- Texts have the shape of texts already. -/
theorem Shape.eq_of_conform?_stringMap {d : Dict String} {w : Json}
    (h : PodFormat.stringMap.conform? (Json.ofDict .str d) = some w) : w = Json.ofDict .str d := by
  have hentries : ∀ l : List (String × String), ((Entries.mapValues Json.str l).mapM fun e =>
      (string.conform? e.2).map fun v => (e.1, v)) = some (Entries.mapValues Json.str l) := by
    intro l
    induction l with
    | nil => rfl
    | cons e rest ih => exact mapM_cons_eq_some.mpr ⟨_, _, by rw [conform?]; rfl, ih, rfl⟩
  rw [PodFormat.stringMap, conform?] at h
  obtain ⟨members, hmembers, h⟩ := Option.bind_eq_some_iff.mp h
  obtain rfl := Option.some.inj hmembers
  obtain ⟨out, hout, rfl⟩ := Option.map_eq_some_iff.mp h
  obtain rfl := Option.some.inj ((hentries d.entries).symm.trans hout)
  rfl

/-- An owner, as the API has it. -/
def OwnerReference.form : Form OwnerReference where
  read := ofJson?
  write := toJson
  FoundIn o j := j = o.toJson
  write_ne_null _ h := nomatch h

namespace ObjectMeta

def format : RecordFormat ObjectMeta where
  fields := [
    ("name", ⟨(·.name), .optional .text⟩),
    ("generateName", ⟨(·.generateName), .optional .text⟩),
    ("namespace", ⟨(·.ns), .optional .text⟩),
    ("uid", ⟨(·.uid), .optional .text⟩),
    ("generation", ⟨(·.generation), .optional .int64⟩),
    ("ownerReferences", ⟨(·.ownerReferences), .optional (.list OwnerReference.form)⟩)]
  others := .kept (·.others)

/-- Metadata is brought into its shape and then read as a record is. -/
theorem describes : ∃ read, format.Describes read toJson
    ∧ ∀ j, ofJson? j = (PodFormat.objectMeta.conform? j).bind read := by
  refine ⟨_, ⟨by simp [RecordFormat.names, format], ⟨_, rfl, fun m => ?_⟩, ?_, ?_⟩,
    fun j => Option.bind_assoc (PodFormat.objectMeta.conform? j) Members.ofOpen? _⟩
  · iterate 6 refine .field rfl fun _ => ?_
    exact .pure (by and_intros <;> rfl)
  · rintro ⟨⟩ ⟨⟩ h hothers
    simpa [format, RecordFormat.extra, and_assoc] using And.intro h hothers
  · intro x
    simp [format, toJson, RecordFormat.written, RecordFormat.extra]
    rfl

/-- Metadata that was read comes from members in key order, which have the shape's fields of what
was given. -/
theorem exists_members {j : Json} {m : ObjectMeta} (h : ofJson? j = some m) :
    ∃ members, PodFormat.objectMeta.conform? j = some (.obj members) ∧ Entries.Sorted members
      ∧ (∀ e ∈ format.fields, e.2.slot.read (Entries.get? e.1 members) = some (e.2.get m))
      ∧ format.rest members = format.extra m := by
  obtain ⟨read, hdescribes, hread⟩ := describes
  rw [hread] at h
  obtain ⟨w, hw, hm⟩ := Option.bind_eq_some_iff.mp h
  obtain ⟨members, hmembers, hfields, hothers⟩ := hdescribes.read_iff.mp hm
  obtain ⟨_, -, hout⟩ := Option.bind_eq_some_iff.mp ((Shape.conform?.eq_def _ _).symm.trans hw)
  obtain ⟨out, -, rfl⟩ := Option.map_eq_some_iff.mp hout
  obtain rfl := Option.some.inj hmembers
  exact ⟨_, hw, Entries.ofList_sorted out, hfields, hothers⟩

/-- A text in a field of its own is written again. -/
theorem member?_toJson_text {j : Json} {m : ObjectMeta} (h : ofJson? j = some m) {name s : String}
    {get : ObjectMeta → Option String}
    (hlookup : format.fields.lookup name = some ⟨get, .optional .text⟩)
    (hshape : PodFormat.objectMeta.HasField name .string) (hj : j.member? name = some (.str s)) :
    m.toJson.member? name = some (.str s) := by
  have he := mem_of_lookup hlookup
  obtain ⟨members, hconform, -, hfields, hothers⟩ := exists_members h
  obtain ⟨y, hy, hmember⟩ := hshape.member?_conform? hconform hj JsonKind.noConfusion
  obtain rfl := Form.fits_text s y (Form.readsBack_text s) hy
  have hread := hfields _ he
  have hget : Entries.get? name members = some (.str s) := hmember
  rw [hget] at hread
  have hm : get m = some s := (Option.some.inj hread).symm
  obtain ⟨read, hdescribes, -⟩ := describes
  have havoids : (format.extra m).Avoids format.names := hothers ▸ format.avoids_rest members
  rw [hdescribes.member?_write he, havoids name (List.mem_map_of_mem he), Option.none_or]
  exact congrArg (Option.map Json.str) hm

/-- Texts under names that have no field are written again. -/
theorem member?_toJson_texts {j : Json} {m : ObjectMeta} (h : ofJson? j = some m) {name : String}
    {d : Dict String} (hname : name ∉ format.names)
    (hshape : PodFormat.objectMeta.HasField name PodFormat.stringMap)
    (hj : j.member? name = some (Json.ofDict .str d)) :
    m.toJson.member? name = some (Json.ofDict .str d) := by
  obtain ⟨members, hconform, hsorted, -, hothers⟩ := exists_members h
  obtain ⟨y, hy, hmember⟩ := hshape.member?_conform? hconform hj JsonKind.noConfusion
  obtain rfl := Shape.eq_of_conform?_stringMap hy
  have hget : Entries.get? name members = some (Json.ofDict .str d) := hmember
  obtain ⟨read, hdescribes, -⟩ := describes
  rw [hdescribes.member?_write_of_notMem hname, ← hothers]
  show (FreeForm.ofMembers (Members.without members format.names)).toJson.member? name = _
  rw [FreeForm.member?_ofMembers (m := Members.without members format.names)
      (Entries.filterKeys_sorted _ hsorted),
    Members.get?_without, if_neg hname, hget, Option.map_some,
    Json.canonical_eq_self (Json.wellFormed_ofDict_text d)]

/-- The owners make no difference to what is written elsewhere. -/
theorem member?_toJson_owners (m : ObjectMeta) (owners : Option (List OwnerReference))
    {name : String} (hname : "ownerReferences" ≠ name) :
    { m with ownerReferences := owners }.toJson.member? name = m.toJson.member? name := by
  simp only [toJson, Json.member?_ofFields_append, Members.member?_option_of_ne hname]

end ObjectMeta

namespace PodMeta

variable {p : PodMeta} {m : ObjectMeta} {name : String}

/-- A field that is set is found if it is written again. -/
theorem foundIn_of_written {α : Type} {get : PodMeta → α} {f : Form α} {default : α}
    {blank : α → Bool} (hp : form.ReadsBack p) (hself : ∀ x, f.FoundIn x (f.write x))
    (he : (name, ⟨get, .defaulted f default blank⟩) ∈ format.fields)
    (hm : p.toJson.member? name = some (f.write (get p)) →
      m.toJson.member? name = some (f.write (get p))) :
    (Slot.defaulted f default blank).FoundIn (get p) (m.toJson.member? name) := by
  intro hset
  have hmember := describes.member?_write_of_readsBack hp he
  have hwritten : (Slot.defaulted f default blank).write (get p) = some (f.write (get p)) := by
    show (if blank (get p) then none else some (f.write (get p))) = _
    rw [hset]
    rfl
  exact ⟨_, hm (hmember.trans hwritten), hself (get p)⟩

/-- The metadata of a pod is found in the metadata of the API, whoever the owners are. -/
theorem foundIn_objectMeta (hp : form.ReadsBack p) (h : ObjectMeta.ofJson? p.toJson = some m)
    (owners : Option (List OwnerReference)) :
    form.FoundIn p { m with ownerReferences := owners }.toJson := by
  refine ⟨rfl, List.forall_iff_forall_mem.mp ?_⟩
  simp only [format, List.Forall]
  have htexts : ∀ d : Dict String, Form.text.dict.FoundIn d (Form.text.dict.write d) := by
    refine fun d => ⟨rfl, fun k s hs => ⟨.str s, ?_, rfl⟩⟩
    exact (Entries.get?_mapValues Json.str k d.entries).trans (congrArg (Option.map Json.str) hs)
  refine ⟨?name, ?generateName, ?ns, ?labels, ?annotations⟩
  all_goals rw [ObjectMeta.member?_toJson_owners m owners (by simp)]
  case name | generateName | ns =>
    exact foundIn_of_written hp (fun _ => rfl) (by simp [format])
      (ObjectMeta.member?_toJson_text h rfl
        (Shape.hasField_of_lookup (by simp [Shape.optional]) rfl))
  case labels | annotations =>
    exact foundIn_of_written hp htexts (by simp [format])
      (ObjectMeta.member?_toJson_texts h (by simp [RecordFormat.names, ObjectMeta.format])
        (Shape.hasField_of_lookup (by simp [Shape.optional]) rfl))

end PodMeta

namespace Pod

variable {p : Pod} {owner : Option OwnerReference} {api : ApiPod}

/-- The metadata of a pod of the API is that of the pod that was built, with the owner as its only
one if there is one. -/
theorem metadata_toApi? (h : p.toApi? owner = some api) :
    ∃ m owners, ObjectMeta.ofJson? p.metadata.toJson = some m
      ∧ api.metadata = { m with ownerReferences := owners } ∧ ∀ o ∈ owner, owners = some [o] := by
  obtain ⟨read, hread, rfl⟩ := Option.map_eq_some_iff.mp h
  have hmetadata : ObjectMeta.ofJson? p.metadata.toJson = some read.metadata := by
    unfold ApiPod.ofJson? at hread
    simp only [Option.bind_eq_bind, Option.bind_eq_some_iff] at hread
    obtain ⟨m, hm, -, -, -, -, metadata, hmetadata, spec, -, status, -, hread⟩ := hread
    obtain rfl := Option.some.inj hread
    obtain rfl := Option.some.inj hm
    have hmember : p.toJson.member? "metadata" = some p.metadata.toJson := by
      simp [Pod.toJson, Json.member?_ofFields_append]
    obtain ⟨x, hx, rfl⟩ :=
      Members.optional?_eq_some hmember JsonKind.noConfusion hmetadata
    exact hx
  cases owner with
  | none => exact ⟨_, _, hmetadata, rfl, fun o ho => absurd ho (Option.not_mem_none o)⟩
  | some o => exact ⟨_, _, hmetadata, rfl, fun o' ho => by rw [Option.some.inj ho]⟩

/-- An owner that is given is the only one. -/
theorem ownerReferences_toApi? (h : p.toApi? owner = some api) :
    ∀ o ∈ owner, api.metadata.ownerReferences = some [o] := by
  intro o ho
  obtain ⟨m, owners, -, hmetadata, howners⟩ := metadata_toApi? h
  rw [hmetadata]
  exact howners o ho

/-- Nothing that a pod says in its fields is lost in the pod of the API, if the pod is read back
from what is written of it. -/
theorem foundIn_of_readsBack (hp : form.ReadsBack p) (h : p.toApi? owner = some api) :
    form.FoundIn p api.toJson := by
  obtain ⟨m, owners, hm, hmetadata, -⟩ := metadata_toApi? h
  obtain ⟨spec, hspec, hconform⟩ := spec_toApi? h
  obtain ⟨hmetadataReads, hspecReads⟩ := readsBack_iff.mp hp
  have hmetadataJson : api.toJson.member? "metadata" = some api.metadata.toJson := by
    simp [ApiPod.toJson, Json.member?_ofFields_append]
  have hspecJson : api.toJson.member? "spec" = some spec := by
    have hwritten : Members.option "spec" id api.spec = Members.always "spec" spec := by
      rw [hspec]
      rfl
    simp [ApiPod.toJson, Json.member?_ofFields_append, hwritten]
  refine ⟨rfl, List.forall_iff_forall_mem.mp ?_⟩
  simp only [format, List.Forall]
  constructor
  · intro _
    refine ⟨_, hmetadataJson, ?_⟩
    rw [hmetadata]
    exact PodMeta.foundIn_objectMeta hmetadataReads hm owners
  · intro _
    exact ⟨_, hspecJson, PodSpec.fits p.spec spec hspecReads hconform⟩

end Pod

end BuildFleet
