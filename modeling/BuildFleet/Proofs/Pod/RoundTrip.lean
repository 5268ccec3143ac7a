import BuildFleet.Proofs.Json.RoundTrip
import BuildFleet.Proofs.Pod.Rules
import BuildFleet.Proofs.Template.Forms

/-!
# Pods, templates and instances are read back

Whatever is read of a pod, a template, an instance or resource requirements is read back from what
is written of it, and so is a pod that comes of merging others. What could go wrong is seen in
`RecordFormat.Describes.readsBack_iff`: a field that is left out has to stand for what is read
without it, numbers have to stay in their range, and members without a field have to stay apart from
the fields.

> `Pod.sound`, `TemplateSpec.sound`, `InstanceSpec.sound`, `Requirements.sound`: reading sees to
> this;
> `Pod.keeps_readsBack`: merging keeps it;
> `written_reads_back`: so it holds of all that is read, and of all pods made from such ones.
-/

namespace BuildFleet

/-! ## What is read -/

@[simp] theorem Requirements.sound : form.Sound := describes.sound (by simp [format])

/-- Requirements have no numbers and keep no other members. -/
@[simp] theorem Requirements.readsBack (r : Requirements) : form.ReadsBack r :=
  describes.readsBack_iff.mpr (by simp [format, RecordFormat.extra, FreeForm.avoids_empty])

@[simp] theorem EnvVar.sound : form.Sound := describes.sound (by simp [format])

@[simp] theorem ContainerPort.sound : form.Sound := describes.sound (by simp [format])

@[simp] theorem VolumeMount.sound : form.Sound := describes.sound (by simp [format])

@[simp] theorem GrpcAction.sound : form.Sound := describes.sound (by simp [format])

@[simp] theorem ExecAction.sound : form.Sound := describes.sound (by simp [format])

@[simp] theorem Probe.sound : form.Sound := describes.sound (by simp [format])

@[simp] theorem LifecycleHandler.sound : form.Sound := describes.sound (by simp [format])

@[simp] theorem Lifecycle.sound : form.Sound := describes.sound (by simp [format])

@[simp] theorem SecurityProfile.sound : form.Sound := describes.sound (by simp [format])

@[simp] theorem SecurityContext.sound : form.Sound := describes.sound (by simp [format])

@[simp] theorem Container.sound : form.Sound := describes.sound (by simp [format])

@[simp] theorem EmptyDirSource.sound : form.Sound := describes.sound (by simp [format])

@[simp] theorem ConfigMapSource.sound : form.Sound := describes.sound (by simp [format])

@[simp] theorem SecretSource.sound : form.Sound := describes.sound (by simp [format])

@[simp] theorem Volume.sound : form.Sound := describes.sound (by simp [format])

@[simp] theorem Toleration.sound : form.Sound := describes.sound (by simp [format])

@[simp] theorem TopologySpreadConstraint.sound : form.Sound := describes.sound (by simp [format])

@[simp] theorem LocalReference.sound : form.Sound := describes.sound (by simp [format])

@[simp] theorem PodMeta.sound : form.Sound := describes.sound (by simp [format])

@[simp] theorem PodMeta.readsBack_empty : form.ReadsBack {} := rfl

@[simp] theorem PodSpec.sound : form.Sound := describes.sound (by simp [format])

@[simp] theorem PodSpec.readsBack_empty : form.ReadsBack {} := rfl

@[simp] theorem Pod.sound : form.Sound := describes.sound (by simp [format])

@[simp] theorem TemplateResources.sound : form.Sound := describes.sound (by simp [format])

@[simp] theorem TemplateResources.readsBack (r : TemplateResources) : form.ReadsBack r :=
  describes.readsBack_iff.mpr (by simp [format, RecordFormat.extra, FreeForm.avoids_empty])

@[simp] theorem TemplateScheduling.sound : form.Sound := describes.sound (by simp [format])

@[simp] theorem TemplateScheduling.readsBack_empty : form.ReadsBack {} := rfl

@[simp] theorem TemplateLifecycle.sound : form.Sound := describes.sound (by simp [format])

@[simp] theorem TemplateLifecycle.readsBack_empty : form.ReadsBack {} := rfl

@[simp] theorem OtlpSettings.sound : form.Sound := describes.sound (by simp [format])

@[simp] theorem OtlpSettings.readsBack (o : OtlpSettings) : form.ReadsBack o :=
  describes.readsBack_iff.mpr (by simp [format, RecordFormat.extra, FreeForm.avoids_empty])

@[simp] theorem TemplateObservability.sound : form.Sound := describes.sound (by simp [format])

@[simp] theorem TemplateObservability.readsBack (o : TemplateObservability) : form.ReadsBack o :=
  describes.readsBack_iff.mpr (by simp [format, RecordFormat.extra, FreeForm.avoids_empty])

@[simp] theorem readsBack_defaultPort : Form.int32.ReadsBack defaultPort := rfl

@[simp] theorem TemplateSpec.sound : form.Sound := describes.sound (by simp [format])

@[simp] theorem InstanceSpec.sound : form.Sound := describes.sound (by simp [format])

/-! ## What a pod and a template hinge on

Texts are read back whatever they are, so only the parts that hold numbers or members without a
field are left. -/

/-- A container is read back if its parts are and no other member has the name of a field. -/
theorem Container.readsBack_iff {c : Container} : form.ReadsBack c
    ↔ c.extra.Avoids format.names ∧ (∀ e ∈ c.env, EnvVar.form.ReadsBack e)
      ∧ (∀ p ∈ c.ports, ContainerPort.form.ReadsBack p)
      ∧ (∀ m ∈ c.volumeMounts, VolumeMount.form.ReadsBack m)
      ∧ (∀ p ∈ c.readinessProbe, Probe.form.ReadsBack p)
      ∧ (∀ p ∈ c.livenessProbe, Probe.form.ReadsBack p)
      ∧ (∀ l ∈ c.lifecycle, Lifecycle.form.ReadsBack l)
      ∧ ∀ s ∈ c.securityContext, SecurityContext.form.ReadsBack s := by
  refine describes.readsBack_iff.trans (and_congr Iff.rfl ?_)
  simp [format]

-- The image that is read is not the one of the container, but the member beside it.
example :
    let c : Container := { name := "buildkit", image := "good:1"
                           extra := .ofMembers [("image", .str "evil:2")] }
    (Container.ofJson? c.toJson).map (·.image) = some "evil:2" := by decide

/-- The contents of a pod are read back if their parts are and no other member has the name of a
field. -/
theorem PodSpec.readsBack_iff {s : PodSpec} : form.ReadsBack s
    ↔ s.extra.Avoids format.names ∧ (∀ c ∈ s.containers, Container.form.ReadsBack c)
      ∧ (∀ c ∈ s.initContainers, Container.form.ReadsBack c)
      ∧ (∀ v ∈ s.volumes, Volume.form.ReadsBack v)
      ∧ (∀ n ∈ s.terminationGracePeriodSeconds, Form.int64.ReadsBack n)
      ∧ (∀ n ∈ s.activeDeadlineSeconds, Form.int64.ReadsBack n)
      ∧ (∀ t ∈ s.tolerations, Toleration.form.ReadsBack t)
      ∧ (∀ c ∈ s.topologySpreadConstraints, TopologySpreadConstraint.form.ReadsBack c)
      ∧ ∀ r ∈ s.imagePullSecrets, LocalReference.form.ReadsBack r := by
  refine describes.readsBack_iff.trans (and_congr Iff.rfl ?_)
  simp [format]

/-- Metadata has only texts. -/
theorem PodMeta.readsBack_iff {m : PodMeta} : form.ReadsBack m ↔ m.extra.Avoids format.names := by
  refine describes.readsBack_iff.trans ?_
  simp [format, RecordFormat.extra]

/-- A pod is read back if its metadata and its contents are. -/
theorem Pod.readsBack_iff {p : Pod} :
    form.ReadsBack p ↔ PodMeta.form.ReadsBack p.metadata ∧ PodSpec.form.ReadsBack p.spec := by
  refine describes.readsBack_iff.trans ?_
  simp [format, RecordFormat.extra, FreeForm.avoids_empty]

theorem Pod.readsBack_empty : form.ReadsBack .empty := rfl

/-- The scheduling of a template is read back if its tolerations and its spread are. -/
theorem TemplateScheduling.readsBack_iff {s : TemplateScheduling} : form.ReadsBack s
    ↔ (∀ t ∈ s.tolerations, Toleration.form.ReadsBack t)
      ∧ ∀ c ∈ s.topologySpreadConstraints, TopologySpreadConstraint.form.ReadsBack c := by
  refine describes.readsBack_iff.trans ?_
  simp [format, RecordFormat.extra, FreeForm.avoids_empty]

/-- What a template says of stopping is read back if its times are. -/
theorem TemplateLifecycle.readsBack_iff {s : TemplateLifecycle} : form.ReadsBack s
    ↔ (∀ n ∈ s.terminationGracePeriodSeconds, Form.int64.ReadsBack n)
      ∧ ∀ n ∈ s.activeDeadlineSeconds, Form.int64.ReadsBack n := by
  refine describes.readsBack_iff.trans ?_
  simp [format, RecordFormat.extra, FreeForm.avoids_empty]

/-- A template is read back if its port, its scheduling, its times and its partial pod are. -/
theorem TemplateSpec.readsBack_iff {s : TemplateSpec} : form.ReadsBack s
    ↔ Form.int32.ReadsBack s.port ∧ TemplateScheduling.form.ReadsBack s.scheduling
      ∧ TemplateLifecycle.form.ReadsBack s.lifecycle
      ∧ ∀ p ∈ s.podTemplate, Pod.form.ReadsBack p := by
  refine describes.readsBack_iff.trans ?_
  simp [format, RecordFormat.extra, FreeForm.avoids_empty]

/-! ## What is merged

A field of a record is found among the parts that merge under its name, and its rules keep that it
is read back. -/

@[simp] theorem Requirements.keeps_readsBack : rules.Keeps form.ReadsBack := by
  refine describes.keeps fieldwise (by rintro _ ⟨⟩) ?_
  simp only [format, List.Forall]
  and_intros
  all_goals exact ⟨_, rfl, by simp⟩

@[simp] theorem EnvVar.keeps_readsBack : rules.Keeps form.ReadsBack := by
  refine describes.keeps fieldwise (by rintro _ ⟨⟩; rfl) ?_
  simp only [format, List.Forall]
  and_intros
  all_goals exact ⟨_, rfl, by simp⟩

@[simp] theorem ContainerPort.keeps_readsBack : rules.Keeps form.ReadsBack := by
  refine describes.keeps fieldwise (by rintro _ ⟨⟩; rfl) ?_
  simp only [format, List.Forall]
  and_intros
  all_goals exact ⟨_, rfl, by simp⟩

@[simp] theorem VolumeMount.keeps_readsBack : rules.Keeps form.ReadsBack := by
  refine describes.keeps fieldwise (by rintro _ ⟨⟩; rfl) ?_
  simp only [format, List.Forall]
  and_intros
  all_goals exact ⟨_, rfl, by simp⟩

@[simp] theorem GrpcAction.keeps_readsBack : rules.Keeps form.ReadsBack := by
  refine describes.keeps fieldwise (by rintro _ ⟨⟩; rfl) ?_
  simp only [format, List.Forall]
  and_intros
  all_goals exact ⟨_, rfl, by simp⟩

@[simp] theorem ExecAction.keeps_readsBack : rules.Keeps form.ReadsBack := by
  refine describes.keeps fieldwise (by rintro _ ⟨⟩; rfl) ?_
  simp only [format, List.Forall]
  exact ⟨_, rfl, by simp⟩

@[simp] theorem Probe.keeps_readsBack : rules.Keeps form.ReadsBack := by
  refine describes.keeps fieldwise (by rintro _ ⟨⟩; rfl) ?_
  simp only [format, List.Forall]
  and_intros
  all_goals exact ⟨_, rfl, by simp⟩

@[simp] theorem LifecycleHandler.keeps_readsBack : rules.Keeps form.ReadsBack := by
  refine describes.keeps fieldwise (by rintro _ ⟨⟩; rfl) ?_
  simp only [format, List.Forall]
  exact ⟨_, rfl, by simp⟩

@[simp] theorem Lifecycle.keeps_readsBack : rules.Keeps form.ReadsBack := by
  refine describes.keeps fieldwise (by rintro _ ⟨⟩; rfl) ?_
  simp only [format, List.Forall]
  exact ⟨_, rfl, by simp⟩

@[simp] theorem SecurityProfile.keeps_readsBack : rules.Keeps form.ReadsBack := by
  refine describes.keeps fieldwise (by rintro _ ⟨⟩; rfl) ?_
  simp only [format, List.Forall]
  and_intros
  all_goals exact ⟨_, rfl, by simp⟩

@[simp] theorem SecurityContext.keeps_readsBack : rules.Keeps form.ReadsBack := by
  refine describes.keeps fieldwise (by rintro _ ⟨⟩; rfl) ?_
  simp only [format, List.Forall]
  and_intros
  all_goals exact ⟨_, rfl, by simp⟩

@[simp] theorem Container.keeps_readsBack : rules.Keeps form.ReadsBack := by
  refine describes.keeps fieldwise (by rintro _ ⟨⟩; rfl) ?_
  simp only [format, List.Forall]
  and_intros
  all_goals exact ⟨_, rfl, by simp⟩

@[simp] theorem EmptyDirSource.keeps_readsBack : rules.Keeps form.ReadsBack := by
  refine describes.keeps fieldwise (by rintro _ ⟨⟩; rfl) ?_
  simp only [format, List.Forall]
  and_intros
  all_goals exact ⟨_, rfl, by simp⟩

@[simp] theorem ConfigMapSource.keeps_readsBack : rules.Keeps form.ReadsBack := by
  refine describes.keeps fieldwise (by rintro _ ⟨⟩; rfl) ?_
  simp only [format, List.Forall]
  and_intros
  all_goals exact ⟨_, rfl, by simp⟩

@[simp] theorem SecretSource.keeps_readsBack : rules.Keeps form.ReadsBack := by
  refine describes.keeps fieldwise (by rintro _ ⟨⟩; rfl) ?_
  simp only [format, List.Forall]
  and_intros
  all_goals exact ⟨_, rfl, by simp⟩

@[simp] theorem Volume.keeps_readsBack : rules.Keeps form.ReadsBack := by
  refine describes.keeps fieldwise (by rintro _ ⟨⟩; rfl) ?_
  simp only [format, List.Forall]
  and_intros
  all_goals exact ⟨_, rfl, by simp⟩

@[simp] theorem TopologySpreadConstraint.keeps_readsBack : rules.Keeps form.ReadsBack := by
  refine describes.keeps fieldwise (by rintro _ ⟨⟩; rfl) ?_
  simp only [format, List.Forall]
  and_intros
  all_goals exact ⟨_, rfl, by simp⟩

@[simp] theorem LocalReference.keeps_readsBack : rules.Keeps form.ReadsBack := by
  refine describes.keeps fieldwise (by rintro _ ⟨⟩; rfl) ?_
  simp only [format, List.Forall]
  exact ⟨_, rfl, by simp⟩

@[simp] theorem PodMeta.keeps_readsBack : rules.Keeps form.ReadsBack := by
  refine describes.keeps fieldwise (by rintro _ ⟨⟩; rfl) ?_
  simp only [format, List.Forall]
  and_intros
  all_goals exact ⟨_, rfl, by simp⟩

@[simp] theorem PodSpec.keeps_readsBack : rules.Keeps form.ReadsBack := by
  refine describes.keeps fieldwise (by rintro _ ⟨⟩; rfl) ?_
  simp only [format, List.Forall]
  and_intros
  all_goals exact ⟨_, rfl, by simp⟩

@[simp] theorem Pod.keeps_readsBack : rules.Keeps form.ReadsBack := by
  refine describes.keeps fieldwise (by rintro _ ⟨⟩) ?_
  simp only [format, List.Forall]
  and_intros
  all_goals exact ⟨_, rfl, by simp⟩

/-! ## Pods made from others -/

/-- A pod that was read, or merged from pods that were. -/
inductive Pod.Obtained : Pod → Prop
  | read {j : Json} {p : Pod} (h : ofJson? j = some p) : Obtained p
  | merged {base v : Pod} {layers : List Pod} (hbase : Obtained base)
      (hlayers : ∀ l ∈ layers, Obtained l) (h : mergeAll base layers = .ok v) : Obtained v

theorem Pod.Obtained.readsBack {p : Pod} (h : p.Obtained) : form.ReadsBack p := by
  induction h with
  | read h => exact Pod.sound _ _ h
  | merged _ _ h hbase hlayers => exact keeps_readsBack.mergeAll h hbase hlayers

/-- Reading undoes writing of all that was read, and of all pods merged from pods that were. -/
theorem written_reads_back :
    (∀ j s, TemplateSpec.ofJson? j = some s → TemplateSpec.ofJson? s.toJson = some s)
      ∧ (∀ j s, InstanceSpec.ofJson? j = some s → InstanceSpec.ofJson? s.toJson = some s)
      ∧ (∀ j r, Requirements.ofJson? j = some r → Requirements.ofJson? r.toJson = some r)
      ∧ ∀ p : Pod, p.Obtained → Pod.ofJson? p.toJson = some p :=
  ⟨TemplateSpec.sound, InstanceSpec.sound, Requirements.sound, fun _ hp => hp.readsBack⟩

/-- A default is laid under a fragment with a member that has no field. -/
theorem merged_fragment_reads_back : ∃ base fragment v,
    Pod.ofJson? (.obj [("spec", .obj [("containers",
        .arr [.obj [("name", .str "buildkit"), ("image", .str "")]])])]) = some base
      ∧ Pod.ofJson? (.obj [("spec", .obj [("containers",
        .arr [.obj [("name", .str "buildkit"),
          ("ports", .arr [.obj [("containerPort", .int 1234)]]),
          ("tty", .bool true)]])])]) = some fragment
      ∧ mergeAll base [fragment] = .ok v ∧ Pod.ofJson? v.toJson = some v := by
  have hmerges : ((Pod.ofJson? (.obj [("spec", .obj [("containers",
        .arr [.obj [("name", .str "buildkit"), ("image", .str "")]])])])).bind fun base =>
      (Pod.ofJson? (.obj [("spec", .obj [("containers",
        .arr [.obj [("name", .str "buildkit"),
          ("ports", .arr [.obj [("containerPort", .int 1234)]]),
          ("tty", .bool true)]])])])).bind fun fragment =>
        (mergeAll base [fragment]).toOption).isSome = true := by decide
  obtain ⟨v, hv⟩ := Option.isSome_iff_exists.mp hmerges
  obtain ⟨base, hbase, hv⟩ := Option.bind_eq_some_iff.mp hv
  obtain ⟨fragment, hfragment, hv⟩ := Option.bind_eq_some_iff.mp hv
  have hmerged := eq_ok_of_toOption hv
  have hobtained : v.Obtained :=
    .merged (.read hbase) (fun l hl => List.mem_singleton.mp hl ▸ .read hfragment) hmerged
  exact ⟨base, fragment, v, hbase, hfragment, hmerged, written_reads_back.2.2.2 v hobtained⟩

end BuildFleet
