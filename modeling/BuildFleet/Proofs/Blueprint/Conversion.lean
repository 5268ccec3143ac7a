import BuildFleet.Proofs.Blueprint.Daemon
import BuildFleet.Proofs.Kubernetes.Fields
import BuildFleet.Proofs.Pod.RoundTrip

/-!
# Built pods in the API

A pod that is built for a template that was read is itself read back from what is written of it.
Merging keeps this, so it is enough that each of the layers has it: what the operator sets of its
own has no members besides the fields, and its numbers are in their range; all else is the
template's, where reading has seen to it.

A pod that is put together by hand need not be read back: a member beside the fields can bear the
name of one, and then it is the member that is found in the API. No pod comes about so here.

> `buildPod_readsBack`: a built pod is read back;
> `Pod.foundIn_toApi?`: so nothing that a pod says in its fields is lost on its way to the API, be
> the pod read, merged or built.
-/

namespace BuildFleet

/-! ## What the operator sets -/

/-- What is not there is as one likes. -/
theorem forall_mem_none {α : Type} {P : α → Prop} : ∀ x ∈ (none : Option α), P x :=
  fun x hx => absurd hx (Option.not_mem_none x)

/-- What is there is as the one value is. -/
theorem forall_mem_some {α : Type} {P : α → Prop} {x : α} (h : P x) : ∀ y ∈ some x, P y :=
  fun _ hy => Option.some.inj hy ▸ h

/-- A variable without other members is read back. -/
theorem EnvVar.readsBack_of_extra {e : EnvVar} (h : e.extra = .empty) : form.ReadsBack e :=
  describes.readsBack_iff.mpr (by simp [format, RecordFormat.extra, h, FreeForm.avoids_empty])

/-- A mount without other members is read back. -/
theorem VolumeMount.readsBack_of_extra {m : VolumeMount} (h : m.extra = .empty) :
    form.ReadsBack m :=
  describes.readsBack_iff.mpr (by simp [format, RecordFormat.extra, h, FreeForm.avoids_empty])

/-- The volume of a ConfigMap is read back if its mode is. -/
theorem Volume.readsBack_ofConfigMap {mode : Option Int}
    (hmode : ∀ n ∈ mode, Form.int32.ReadsBack n) (name configMap : String) :
    form.ReadsBack (ofConfigMap name configMap mode) := by
  have hsource : ConfigMapSource.form.ReadsBack { name := configMap, defaultMode := mode } := by
    refine ConfigMapSource.describes.readsBack_iff.mpr ?_
    simpa [ConfigMapSource.format, RecordFormat.extra, FreeForm.avoids_empty] using hmode
  refine describes.readsBack_iff.mpr ?_
  simp [format, RecordFormat.extra, FreeForm.avoids_empty, ofConfigMap, hsource]

/-- A check of the daemon is read back if its numbers are. -/
theorem readsBack_daemonProbe {port period failures : Int} (hport : Form.int32.ReadsBack port)
    (hperiod : Form.int32.ReadsBack period) (hfailures : Form.int32.ReadsBack failures) :
    Probe.form.ReadsBack (daemonProbe port period failures) := by
  have hgrpc : GrpcAction.form.ReadsBack { port } := by
    refine GrpcAction.describes.readsBack_iff.mpr ?_
    simp [GrpcAction.format, RecordFormat.extra, FreeForm.avoids_empty, hport]
  have hdelay : Form.int32.ReadsBack 5 := rfl
  refine Probe.describes.readsBack_iff.mpr ?_
  simp [Probe.format, RecordFormat.extra, FreeForm.avoids_empty, daemonProbe, hgrpc, hdelay,
    hperiod, hfailures]

/-- The volumes and mounts of the artifacts are read back. -/
theorem readsBack_artifactVolumes {t : Template} {v : Volume × VolumeMount}
    (h : v ∈ artifactVolumes t) : Volume.form.ReadsBack v.1 ∧ VolumeMount.form.ReadsBack v.2 := by
  obtain ⟨kind, -, hv⟩ := List.mem_filterMap.mp h
  obtain ⟨a, -, rfl⟩ := Option.map_eq_some_iff.mp hv
  cases kind with
  | daemonConfig =>
    exact ⟨Volume.readsBack_ofConfigMap forall_mem_none _ _, VolumeMount.readsBack_of_extra rfl⟩
  | scripts =>
    have hmode : Form.int32.ReadsBack scriptsMode := rfl
    exact ⟨Volume.readsBack_ofConfigMap (forall_mem_some hmode) _ _,
      VolumeMount.readsBack_of_extra rfl⟩

/-- The daemon's container is read back if its port is. -/
theorem readsBack_daemonDefault {t : Template} (hport : Form.int32.ReadsBack t.spec.port) :
    Container.form.ReadsBack (daemonDefault t) := by
  have hports : ContainerPort.form.ReadsBack
      { name := "tcp", containerPort := t.spec.port, protocol := "TCP" } := by
    refine ContainerPort.describes.readsBack_iff.mpr ?_
    simp [ContainerPort.format, RecordFormat.extra, FreeForm.avoids_empty, hport]
  have hmounts : ∀ m ∈ (daemonDefault t).volumeMounts, VolumeMount.form.ReadsBack m := by
    refine List.forall_mem_cons.mpr ⟨VolumeMount.readsBack_of_extra rfl, ?_⟩
    exact List.forall_mem_map.mpr fun v hv => (readsBack_artifactVolumes hv).2
  have hreadiness : Probe.form.ReadsBack (daemonProbe t.spec.port 15 2) :=
    readsBack_daemonProbe hport rfl rfl
  have hliveness : Probe.form.ReadsBack (daemonProbe t.spec.port 30 6) :=
    readsBack_daemonProbe hport rfl rfl
  have hhook : ∀ l ∈ (daemonDefault t).lifecycle, Lifecycle.form.ReadsBack l := by
    intro l hl
    obtain ⟨-, -, rfl⟩ := Option.map_eq_some_iff.mp hl
    rfl
  have hrights : SecurityContext.form.ReadsBack (daemonRights t.spec.rootless) := by
    cases t.spec.rootless <;> rfl
  refine Container.readsBack_iff.mpr ⟨FreeForm.avoids_empty _, ?_⟩
  exact ⟨List.forall_mem_nil _, List.forall_mem_singleton.mpr hports, hmounts,
    forall_mem_some hreadiness, forall_mem_some hliveness, hhook, forall_mem_some hrights⟩

/-- The environment for OpenTelemetry is read back. -/
theorem readsBack_otlpEnv (o : OtlpSettings) : ∀ e ∈ otlpEnv o, EnvVar.form.ReadsBack e := by
  refine List.forall_mem_cons.mpr ⟨EnvVar.readsBack_of_extra rfl, ?_⟩
  split
  · exact List.forall_mem_nil _
  · exact List.forall_mem_singleton.mpr (EnvVar.readsBack_of_extra rfl)

/-- The defaults are read back if the port is. -/
theorem readsBack_daemonDefaults (i : Instance) {t : Template}
    (hport : Form.int32.ReadsBack t.spec.port) : Pod.form.ReadsBack (daemonDefaults i t) := by
  have hstate : Volume.form.ReadsBack { name := stateVolume, emptyDir := some {} } := rfl
  have hvolumes : ∀ v ∈ (daemonDefaults i t).spec.volumes, Volume.form.ReadsBack v := by
    refine List.forall_mem_cons.mpr ⟨hstate, ?_⟩
    exact List.forall_mem_map.mpr fun v hv => (readsBack_artifactVolumes hv).1
  have hgrace : Form.int64.ReadsBack graceSeconds := rfl
  refine Pod.readsBack_iff.mpr ⟨PodMeta.readsBack_iff.mpr (FreeForm.avoids_empty _), ?_⟩
  refine PodSpec.readsBack_iff.mpr ⟨FreeForm.avoids_empty _, ?_⟩
  exact ⟨List.forall_mem_singleton.mpr (readsBack_daemonDefault hport), List.forall_mem_nil _,
    hvolumes, forall_mem_some hgrace, forall_mem_none, List.forall_mem_nil _,
    List.forall_mem_nil _, List.forall_mem_nil _⟩

/-- What ties a pod to its instance are texts. -/
theorem readsBack_identityLayer (i : Instance) : Pod.form.ReadsBack (identityLayer i) :=
  Pod.readsBack_iff.mpr
    ⟨PodMeta.readsBack_iff.mpr (FreeForm.avoids_empty _), PodSpec.readsBack_empty⟩

/-! ## What the template says -/

/-- The specification of a template that was read is read back. -/
theorem Template.readsBack_of_ofJson? {j : Json} {t : Template} (h : ofJson? j = some t) :
    TemplateSpec.form.ReadsBack t.spec := by
  unfold ofJson? at h
  simp only [Option.bind_eq_bind, Option.bind_eq_some_iff] at h
  obtain ⟨m, -, metadata, -, spec, hspec, status, -, h⟩ := h
  obtain ⟨j', -, hread⟩ := Option.bind_eq_some_iff.mp hspec
  obtain rfl := Option.some.inj h
  exact TemplateSpec.sound j' spec hread

/-- The settings of a template that is read back are. -/
theorem readsBack_settingsLayer {t : Template} (h : TemplateSpec.form.ReadsBack t.spec) :
    Pod.form.ReadsBack (settingsLayer t) := by
  obtain ⟨-, hscheduling, hlifecycle, -⟩ := TemplateSpec.readsBack_iff.mp h
  obtain ⟨htolerations, hspread⟩ := TemplateScheduling.readsBack_iff.mp hscheduling
  obtain ⟨hgrace, hdeadline⟩ := TemplateLifecycle.readsBack_iff.mp hlifecycle
  refine Pod.readsBack_iff.mpr ⟨PodMeta.readsBack_iff.mpr (FreeForm.avoids_empty _), ?_⟩
  refine PodSpec.readsBack_iff.mpr ⟨FreeForm.avoids_empty _, ?_⟩
  refine ⟨List.forall_mem_singleton.mpr ?_, List.forall_mem_nil _, List.forall_mem_nil _, hgrace,
    hdeadline, htolerations, hspread, List.forall_mem_nil _⟩
  refine Container.readsBack_iff.mpr ⟨FreeForm.avoids_empty _, ?_, List.forall_mem_nil _,
    List.forall_mem_nil _, forall_mem_none, forall_mem_none, forall_mem_none, forall_mem_none⟩
  -- the environment is the only part of the container that holds more than texts
  dsimp only
  cases t.spec.observability.otlp with
  | none => exact List.forall_mem_nil _
  | some o => exact readsBack_otlpEnv o

/-! ## What is built -/

/-- A container is read back with any resources. -/
theorem Container.readsBack_resources {c : Container} (hc : form.ReadsBack c)
    (resources : Option Requirements) : form.ReadsBack { c with resources } := by
  obtain ⟨hextra, hparts⟩ := readsBack_iff.mp hc
  exact readsBack_iff.mpr ⟨hextra, hparts⟩

/-- Changing a container keeps that a pod is read back if it keeps this of the container. -/
theorem Pod.readsBack_modifyContainer {f : Container → Container} {name : String} {p : Pod}
    (hf : ∀ c, Container.form.ReadsBack c → Container.form.ReadsBack (f c))
    (hp : form.ReadsBack p) : form.ReadsBack (p.modifyContainer name f) := by
  obtain ⟨hmetadata, hspec⟩ := readsBack_iff.mp hp
  obtain ⟨hextra, hcontainers, hrest⟩ := PodSpec.readsBack_iff.mp hspec
  have hchanged : ∀ c ∈ modifyContainer.go name f p.spec.containers, Container.form.ReadsBack c :=
    forall_modifyContainer hf hcontainers
  exact readsBack_iff.mpr ⟨hmetadata, PodSpec.readsBack_iff.mpr ⟨hextra, hchanged, hrest⟩⟩

/-- A pod that is built for a template that was read is read back from what is written of it. -/
theorem buildPod_readsBack {i : Instance} {t : Template} {j : Json} {pod : Pod}
    (ht : Template.ofJson? j = some t) (h : buildPod i t = .ok pod) : Pod.form.ReadsBack pod := by
  have hspec : TemplateSpec.form.ReadsBack t.withDefaults.spec := by
    obtain ⟨hport, hrest⟩ := TemplateSpec.readsBack_iff.mp (Template.readsBack_of_ofJson? ht)
    refine TemplateSpec.readsBack_iff.mpr ⟨?_, hrest⟩
    show Form.int32.ReadsBack (if t.spec.port = 0 then defaultPort else t.spec.port)
    split
    · exact readsBack_defaultPort
    · exact hport
  obtain ⟨hport, -, -, hpartial⟩ := TemplateSpec.readsBack_iff.mp hspec
  obtain ⟨merged, c, hmerged, -, rfl, -⟩ := buildPod_ok h
  have hpartialReads : Pod.form.ReadsBack (t.withDefaults.spec.podTemplate.getD .empty) := by
    cases hp : t.withDefaults.spec.podTemplate with
    | none => exact Pod.readsBack_empty
    | some p => exact hpartial p hp
  have hlayers : ∀ p ∈ podLayers i t.withDefaults, Pod.form.ReadsBack p :=
    List.forall_mem_cons.mpr ⟨readsBack_settingsLayer hspec, List.forall_mem_cons.mpr
      ⟨hpartialReads, List.forall_mem_singleton.mpr (readsBack_identityLayer i)⟩⟩
  have hmergedReads : Pod.form.ReadsBack merged :=
    Pod.keeps_readsBack.mergeAll hmerged (readsBack_daemonDefaults i hport) hlayers
  exact Pod.readsBack_modifyContainer (fun c hc => Container.readsBack_resources hc _) hmergedReads

/-- A pod that is built for a template that was read. -/
def Pod.Built (p : Pod) : Prop := ∃ i t j, Template.ofJson? j = some t ∧ buildPod i t = .ok p

/-! ## What the API has -/

namespace Pod

/-- Nothing that a pod says in its fields is lost in the pod of the API, if it is read back from
what is written of it, as it is if it was read, merged or built. An owner that is given is the only
one. -/
theorem foundIn_toApi? {p : Pod} {owner : Option OwnerReference} {api : ApiPod}
    (h : p.toApi? owner = some api) :
    (ofJson? p.toJson = some p ∨ p.Obtained ∨ p.Built → form.FoundIn p api.toJson)
      ∧ ∀ o ∈ owner, api.metadata.ownerReferences = some [o] := by
  refine ⟨?_, ownerReferences_toApi? h⟩
  rintro (hreads | hobtained | ⟨i, t, j, ht, hbuilt⟩)
  · exact foundIn_of_readsBack hreads h
  · exact foundIn_of_readsBack hobtained.readsBack h
  · exact foundIn_of_readsBack (buildPod_readsBack ht hbuilt) h

/-- A pod with an owner among its other members is read and goes to the API for another owner. -/
theorem foundIn_toApi?_owned :
    let j : Json := .obj [
      ("metadata", .obj [
        ("name", .str "builder"),
        ("ownerReferences", .arr [.obj [("apiVersion", .str "v1"), ("kind", .str "Job"),
          ("name", .str "old"), ("uid", .str "1")]])]),
      ("spec", .obj [
        ("containers", .arr [.obj [
          ("name", .str "buildkit"),
          ("resources", .obj [("limits", .obj [("cpu", .str "500m")])]),
          ("readinessProbe", .obj [("grpc", .obj [("port", .int 1234)])])]]),
        ("terminationGracePeriodSeconds", .int 30)])]
    let o : OwnerReference := ⟨"v1", "Job", "new", "2", some true, none⟩
    ∃ p api, ofJson? j = some p ∧ p.toApi? (some o) = some api ∧ form.FoundIn p api.toJson
      ∧ api.metadata.ownerReferences = some [o] := by
  intro j o
  have happlies : ((ofJson? j).bind fun p => p.toApi? (some o)).isSome = true := by decide
  obtain ⟨api, happlied⟩ := Option.isSome_iff_exists.mp happlies
  obtain ⟨p, hp, hapi⟩ := Option.bind_eq_some_iff.mp happlied
  obtain ⟨hfound, howners⟩ := foundIn_toApi? hapi
  exact ⟨p, api, hp, hapi, hfound (.inr (.inl (.read hp))), howners o rfl⟩

end Pod

end BuildFleet
