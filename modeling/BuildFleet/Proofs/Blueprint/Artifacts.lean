import BuildFleet.Proofs.Blueprint.Port
import BuildFleet.Proofs.Merge.Frame
import BuildFleet.Proofs.Operator.Publication

/-!
# What pods mount and what templates publish

A pod mounts the ConfigMaps of its template by name, and takes its hook from a file in one of them;
the template publishes the ConfigMaps in a cycle of its own. Nobody compares the two. They agree
because both start from the same template with its defaults filled in, and because no layer reaches
what the first one says about the ConfigMaps, unless the partial pod speaks of their volumes, their
places in the daemon's container or its hook (`Pod.LeavesArtifacts`).

> `buildPod_artifacts`: what a built pod has of the artifacts of its template;
> `buildPod_published`: that is what a cycle of the template publishes.
-/

namespace BuildFleet

namespace ArtifactKind

/-- The volume with the artifacts of a kind. -/
def volume : ArtifactKind → String
  | daemonConfig => configVolume
  | scripts => scriptsVolume

/-- Where the artifacts of a kind are mounted. -/
def mountPath (rootless : Bool) : ArtifactKind → String
  | daemonConfig => configPath rootless
  | scripts => scriptsPath

def mode : ArtifactKind → Option Int
  | daemonConfig => none
  | scripts => some scriptsMode

def mount (rootless : Bool) (kind : ArtifactKind) : VolumeMount :=
  { name := kind.volume, mountPath := kind.mountPath rootless }

end ArtifactKind

/-- The volume with the files of an artifact. -/
def Artifact.asVolume (kind : ArtifactKind) (a : Artifact) : Volume :=
  .ofConfigMap kind.volume a.name kind.mode

/-- The partial pod says nothing about the artifacts: it has no volume of their names, and for the
daemon's container no mount at their places and no hooks. -/
structure Pod.LeavesArtifacts (p : Pod) (rootless : Bool) : Prop where
  volumes : ∀ v ∈ p.spec.volumes, ∀ kind : ArtifactKind, v.name ≠ kind.volume
  mounts : ∀ c ∈ p.spec.containers, c.name = daemonContainer →
    ∀ m ∈ c.volumeMounts, ∀ kind : ArtifactKind, m.mountPath ≠ kind.mountPath rootless
  lifecycle : ∀ c ∈ p.spec.containers, c.name = daemonContainer → c.lifecycle = none

/-- A pod without volumes, mounts and hooks leaves those of the artifacts alone. -/
theorem Pod.leavesArtifacts_of_bare {p : Pod} {rootless : Bool} (hvolumes : p.spec.volumes = [])
    (hcontainers : ∀ c ∈ p.spec.containers, c.volumeMounts = [] ∧ c.lifecycle = none) :
    p.LeavesArtifacts rootless where
  volumes := by
    rw [hvolumes]
    exact fun v hv => absurd hv List.not_mem_nil
  mounts := by
    intro c hc _
    rw [(hcontainers c hc).1]
    exact fun m hm => absurd hm List.not_mem_nil
  lifecycle := fun c hc _ => (hcontainers c hc).2

/-! ## What layers leave alone -/

/-- The volumes of a name stay as they are under layers that have no volume of that name. -/
theorem Pod.withstands_volumes (name : String) (vs : List Volume) : rules.Withstands
    (fun p => p.spec.volumes.filter (·.name == name) = vs)
    (fun p => ∀ v ∈ p.spec.volumes, v.name ≠ name) := by
  have hvolumes : PodSpec.rules.Withstands (fun s => s.volumes.filter (·.name == name) = vs)
      (fun s => ∀ v ∈ s.volumes, v.name ≠ name) :=
    PodSpec.fieldwise.withstands
      (e := (.field "volumes", ⟨(·.volumes), Volume.rules.keyed Volume.mergeKey⟩))
      (by simp [PodSpec.parts]) (Rules.withstands_keyed Volume.keepsKey vs)
  exact fieldwise.withstands (e := (.field "spec", ⟨(·.spec), PodSpec.rules⟩)) (by simp [parts])
    hvolumes

/-- The mounts at a path stay as they are under layers that mount nothing there. -/
theorem Container.withstands_mounts (path : String) (ms : List VolumeMount) : rules.Withstands
    (fun c => c.volumeMounts.filter (·.mountPath == path) = ms)
    (fun c => ∀ m ∈ c.volumeMounts, m.mountPath ≠ path) :=
  fieldwise.withstands
    (e := (.field "volumeMounts", ⟨(·.volumeMounts), VolumeMount.rules.keyed VolumeMount.mergeKey⟩))
    (by simp [parts]) (Rules.withstands_keyed VolumeMount.keepsKey ms)

/-- The hooks of a container stay as they are under layers that set none. -/
theorem Container.withstands_lifecycle (hooks : Option Lifecycle) :
    rules.Withstands (fun c => c.lifecycle = hooks) (fun c => c.lifecycle = none) :=
  fieldwise.withstands (e := (.field "lifecycle", ⟨(·.lifecycle), .optional Lifecycle.rules⟩))
    (by simp [parts]) (Rules.withstands_optional_none Lifecycle.rules hooks)

/-- The daemon's container withstands what containers of its name withstand. -/
theorem Pod.withstands_daemon {P Q : Container → Prop} (h : Container.rules.Withstands P Q) :
    rules.Withstands (fun p => ∃ c, p.IsDaemon c ∧ P c)
      (fun p => ∀ c ∈ p.spec.containers, c.name = daemonContainer → Q c) := by
  have hcontainers : PodSpec.rules.Withstands
      (fun s => ∃ c, s.containers.filter (·.name == daemonContainer) = [c] ∧ P c)
      (fun s => ∀ c ∈ s.containers, c.name = daemonContainer → Q c) :=
    PodSpec.fieldwise.withstands
      (e := (.field "containers", ⟨(·.containers), Container.rules.keyed Container.mergeKey⟩))
      (by simp [PodSpec.parts]) (Rules.Withstands.keyed Container.keepsKey h)
  exact fieldwise.withstands (e := (.field "spec", ⟨(·.spec), PodSpec.rules⟩)) (by simp [parts])
    hcontainers

/-! ## What the defaults say -/

section

variable (i : Instance) (t : Template)

/-- The volume and the mount of an artifact are those of its kind. -/
theorem artifactVolume_eq (kind : ArtifactKind) : artifactVolume t kind
    = (Artifact.derive? t kind).map fun a => (a.asVolume kind, kind.mount t.spec.rootless) := by
  cases kind <;> rfl

/-- What is told apart by its kind comes from the artifact of that kind. -/
theorem filter_artifactVolumes {α : Type} (get : Volume × VolumeMount → α) (isOf : α → Bool)
    (kind : ArtifactKind) (hisOf : ∀ kind' e, artifactVolume t kind' = some e →
      isOf (get e) = decide (kind' = kind)) :
    ((artifactVolumes t).map get).filter isOf = ((artifactVolume t kind).map get).toList := by
  have hconfig := hisOf .daemonConfig
  have hscripts := hisOf .scripts
  unfold artifactVolumes ArtifactKind.all
  simp only [List.filterMap_cons, List.filterMap_nil]
  cases kind with
  | daemonConfig =>
    generalize artifactVolume t .daemonConfig = config at hconfig ⊢
    generalize artifactVolume t .scripts = scripts at hscripts ⊢
    cases config <;> cases scripts <;> simp [hconfig, hscripts]
  | scripts =>
    generalize artifactVolume t .daemonConfig = config at hconfig ⊢
    generalize artifactVolume t .scripts = scripts at hscripts ⊢
    cases config <;> cases scripts <;> simp [hconfig, hscripts]

/-- Under the name of an artifact's volume the defaults have that volume, if there is such an
artifact, and nothing else. -/
theorem volumes_daemonDefaults (kind : ArtifactKind) :
    (daemonDefaults i t).spec.volumes.filter (·.name == kind.volume)
      = ((Artifact.derive? t kind).map (·.asVolume kind)).toList := by
  have hstate : stateVolume ≠ kind.volume := by
    cases kind <;> decide
  have hartifacts := filter_artifactVolumes t (·.1) (·.name == kind.volume) kind
    fun kind' e he => by
      rw [artifactVolume_eq] at he
      obtain ⟨a, -, rfl⟩ := Option.map_eq_some_iff.mp he
      cases kind <;> cases kind' <;> rfl
  rw [artifactVolume_eq, Option.map_map] at hartifacts
  exact (List.filter_cons_of_neg (by simpa using hstate)).trans hartifacts

/-- At the path of an artifact's mount the daemon's container has that mount, if there is such an
artifact, and nothing else. -/
theorem mounts_daemonDefault (kind : ArtifactKind) :
    (daemonDefault t).volumeMounts.filter (·.mountPath == kind.mountPath t.spec.rootless)
      = ((Artifact.derive? t kind).map fun _ => kind.mount t.spec.rootless).toList := by
  have hstate : statePath t.spec.rootless ≠ kind.mountPath t.spec.rootless := by
    cases t.spec.rootless <;> cases kind <;> decide
  have hartifacts := filter_artifactVolumes t (·.2)
    (·.mountPath == kind.mountPath t.spec.rootless) kind fun kind' e he => by
      rw [artifactVolume_eq] at he
      obtain ⟨a, -, rfl⟩ := Option.map_eq_some_iff.mp he
      show (kind'.mountPath t.spec.rootless == kind.mountPath t.spec.rootless) = _
      cases t.spec.rootless <;> cases kind <;> cases kind' <;> rfl
  rw [artifactVolume_eq, Option.map_map] at hartifacts
  exact (List.filter_cons_of_neg (by simpa using hstate)).trans hartifacts

end

/-! ## What a built pod has -/

/-- The volumes, mounts and hooks for artifacts are those that the template has artifacts for. -/
theorem buildPod_artifacts {i : Instance} {t : Template} {pod : Pod} (h : buildPod i t = .ok pod)
    (hfree : ∀ p ∈ t.spec.podTemplate, p.LeavesArtifacts t.spec.rootless) :
    (∀ kind : ArtifactKind, pod.spec.volumes.filter (·.name == kind.volume)
        = ((Artifact.derive? t.withDefaults kind).map (·.asVolume kind)).toList)
      ∧ ∃ c, pod.IsDaemon c
        ∧ c.lifecycle = (Artifact.derive? t.withDefaults .scripts).map (fun _ => preStopHook)
        ∧ ∀ kind : ArtifactKind,
          c.volumeMounts.filter (·.mountPath == kind.mountPath t.spec.rootless)
            = ((Artifact.derive? t.withDefaults kind).map
              fun _ => kind.mount t.spec.rootless).toList := by
  obtain ⟨merged, -, hmerged, -, rfl, -⟩ := buildPod_ok h
  -- whatever settings, partial pod and identity say is said elsewhere
  have hnone : ∀ c ∈ ([] : List Container), c.volumeMounts = [] ∧ c.lifecycle = none :=
    fun c hc => absurd hc List.not_mem_nil
  have hpartial : (t.withDefaults.spec.podTemplate.getD .empty).LeavesArtifacts t.spec.rootless := by
    show (t.spec.podTemplate.getD .empty).LeavesArtifacts t.spec.rootless
    cases hp : t.spec.podTemplate with
    | none => exact Pod.leavesArtifacts_of_bare rfl hnone
    | some p => exact hfree p hp
  have hlayers : ∀ p ∈ podLayers i t.withDefaults, p.LeavesArtifacts t.spec.rootless := by
    refine List.forall_mem_cons.mpr ⟨?_, List.forall_mem_cons.mpr ⟨hpartial, ?_⟩⟩
    · exact Pod.leavesArtifacts_of_bare rfl (List.forall_mem_singleton.mpr ⟨rfl, rfl⟩)
    · exact List.forall_mem_singleton.mpr (Pod.leavesArtifacts_of_bare rfl hnone)
  refine ⟨?_, ?_⟩
  · intro kind
    have hvolumes := (Pod.withstands_volumes kind.volume _).mergeAll hmerged
      (volumes_daemonDefaults i t.withDefaults kind)
      fun p hp v hv => (hlayers p hp).volumes v hv kind
    exact hvolumes
  · have hcontainer := (Container.withstands_lifecycle
      ((Artifact.derive? t.withDefaults .scripts).map fun _ => preStopHook)).and
      (Rules.withstands_forall fun kind : ArtifactKind => Container.withstands_mounts
        (kind.mountPath t.spec.rootless) ((Artifact.derive? t.withDefaults kind).map
          fun _ => kind.mount t.spec.rootless).toList)
    obtain ⟨c, hc, hlifecycle, hmounts⟩ := (Pod.withstands_daemon hcontainer).mergeAll hmerged
      ⟨daemonDefault t.withDefaults, rfl, rfl, mounts_daemonDefault t.withDefaults⟩
      fun p hp c hc hname => ⟨(hlayers p hp).lifecycle c hc hname,
        fun kind m hm => (hlayers p hp).mounts c hc hname m hm kind⟩
    exact ⟨settleResources i t.withDefaults c,
      Pod.filter_modifyContainer (f := settleResources i t.withDefaults) (fun _ => rfl) hc,
      hlifecycle, hmounts⟩

/-- The pod has a volume for artifacts of the kind with the files of the named ConfigMap, and its
daemon's container mounts that. -/
def Pod.Mounts (p : Pod) (kind : ArtifactKind) (name : String) : Prop :=
  (∃ v ∈ p.spec.volumes, v.name = kind.volume ∧ ∃ source, v.configMap = some source
    ∧ source.name = name)
    ∧ ∃ c, p.IsDaemon c ∧ ∃ m ∈ c.volumeMounts, m.name = kind.volume

/-- What is left of a list when it is filtered was in it. -/
theorem mem_of_filter_eq {α : Type} {p : α → Bool} {l : List α} {x : α}
    (h : l.filter p = (some x).toList) : x ∈ l := by
  have hmem : x ∈ l.filter p := by
    rw [h]
    exact List.mem_singleton_self x
  exact List.mem_of_mem_filter hmem

/-- What a built pod mounts are the artifacts of its template. -/
theorem buildPod_mounts_iff {i : Instance} {t : Template} {pod : Pod} (h : buildPod i t = .ok pod)
    (hfree : ∀ p ∈ t.spec.podTemplate, p.LeavesArtifacts t.spec.rootless) (kind : ArtifactKind)
    (name : String) : pod.Mounts kind name
      ↔ ∃ a, Artifact.derive? t.withDefaults kind = some a ∧ a.name = name := by
  obtain ⟨hvolumes, c, hc, -, hmounts⟩ := buildPod_artifacts h hfree
  constructor
  · intro hpod
    obtain ⟨⟨v, hv, hname, source, hsource, hsourceName⟩, -⟩ := hpod
    have hmem : v ∈ ((Artifact.derive? t.withDefaults kind).map (·.asVolume kind)).toList := by
      rw [← hvolumes kind]
      exact List.mem_filter.mpr ⟨hv, beq_iff_eq.mpr hname⟩
    obtain ⟨a, ha, rfl⟩ := Option.map_eq_some_iff.mp (Option.mem_toList.mp hmem)
    refine ⟨a, ha, ?_⟩
    rw [← hsourceName, ← Option.some.inj hsource]
  · intro hartifact
    obtain ⟨a, ha, rfl⟩ := hartifact
    have hv := hvolumes kind
    have hm := hmounts kind
    rw [ha] at hv hm
    refine ⟨⟨a.asVolume kind, ?_, rfl, _, rfl, rfl⟩, c, hc, kind.mount t.spec.rootless, ?_, rfl⟩
    · exact mem_of_filter_eq hv
    · exact mem_of_filter_eq hm

/-- The command that is run before a container is stopped. -/
def Container.stopCommand? (c : Container) : Option (List String) := do
  let hooks ← c.lifecycle
  let handler ← hooks.preStop
  let exec ← handler.exec
  return exec.command

/-- The script is the one that comes with the operator, with the port in it where that one first
sets a port. -/
def SetsPort (port : Int) (script : String) : Prop :=
  ∃ before after : String, preStopSource = before ++ "BUILDKITD_PORT=1234" ++ after
    ∧ (∀ b a : String, preStopSource = b ++ "BUILDKITD_PORT=1234" ++ a → before.length ≤ b.length)
    ∧ script = before ++ "BUILDKITD_PORT=" ++ toString port ++ after

/-- The script that comes with the operator sets a port, so another one can be put in its place. -/
theorem setsPort_preStopScript (port : Int) : SetsPort port (preStopScript port) := by
  have hfound : (Text.around? portPlaceholder.toList preStopSource.toList).isSome = true := by
    rw [preStopSource, String.toList_join]
    decide +kernel
  obtain ⟨before, after, hsource, hfirst, hreplaced⟩ := Text.replaceFirst_eq hfound
  refine ⟨before, after, hsource, hfirst, ?_⟩
  rw [preStopScript, hreplaced, ← String.append_assoc]

/-- Before its daemon is stopped, the pod runs a file from where the scripts are mounted. In the
ConfigMap that file is the operator's script with the first port of the container in it. -/
def Pod.StopsWith (p : Pod) (c : ConfigMap) : Prop :=
  ∃ d q qs, p.IsDaemon d ∧ d.ports = q :: qs ∧ ∃ m ∈ d.volumeMounts, m.name = scriptsVolume
    ∧ ∃ file, d.stopCommand? = some ["/bin/sh", m.mountPath ++ "/" ++ file]
      ∧ ∃ script, c.data.get? file = some script ∧ SetsPort q.containerPort script

/-! ## What is published -/

/-- The label that tells what a ConfigMap is. -/
def componentLabel : String := "app.kubernetes.io/component"

/-- Among the calls a ConfigMap of the kind is applied in the namespace. -/
def Applies (calls : List Call) (ns : String) (kind : ArtifactKind) (c : ConfigMap) : Prop :=
  .applyConfigMap c ∈ calls ∧ c.ns = ns ∧ c.labels.get? componentLabel = some kind.suffix

/-- A template applies a ConfigMap for a kind of artifact exactly if that is the ConfigMap that it
derives for the kind. -/
theorem Template.publication_eq_apply {t : Template} {ns : String} {kind : ArtifactKind}
    {c : ConfigMap} : (t.publication ns kind).call = .applyConfigMap c ↔ t.artifact? kind = some c := by
  unfold publication
  cases t.artifact? kind with
  | none => simp
  | some c' => simp

/-- The ConfigMap of an artifact carries the suffix of its kind as a label. -/
theorem Template.component_artifact? {t : Template} {kind : ArtifactKind} {c : ConfigMap}
    (h : t.artifact? kind = some c) : c.labels.get? componentLabel = some kind.suffix := by
  obtain ⟨a, ha, rfl⟩ := Option.map_eq_some_iff.mp h
  obtain ⟨contents, rfl⟩ := Artifact.exists_make ha
  show Entries.get? componentLabel (Entries.ofList
    [("app.kubernetes.io/managed-by", operatorName), (componentLabel, kind.suffix)]) = _
  rw [Entries.get?_ofList_cons, Entries.get?_ofList_cons, if_pos rfl]
  rfl

/-- What a cycle of a valid template applies are its artifacts. -/
theorem Template.applies_iff {σ : Type} {server : Server σ} {t : Template} {ns : String}
    {now : Instant} {s : σ} {action : Action} (hns : t.ns = some ns)
    (hvalid : t.withDefaults.check.isValid = true)
    (hok : ((t.reconcile now).run server s).result = .ok action) (kind : ArtifactKind)
    (c : ConfigMap) :
    Applies ((t.reconcile now).run server s).calls ns kind c ↔ t.artifact? kind = some c := by
  have hcalls : ((t.reconcile now).run server s).calls
      = ArtifactKind.all.map (fun kind => (t.publication ns kind).call)
        ++ [.patchTemplateStatus ns t.name (t.nextStatus ns now)] := by
    rw [← Program.map_call_exchanges, Template.reconcile_ok hns hok, if_pos hvalid,
      List.map_append, List.map_map]
    rfl
  unfold Applies
  rw [hcalls]
  constructor
  · intro happlied
    obtain ⟨hcall, -, hlabel⟩ := happlied
    rcases List.mem_append.mp hcall with hcall | hcall
    · obtain ⟨kind', -, hcall⟩ := List.mem_map.mp hcall
      have hartifact := publication_eq_apply.mp hcall
      -- the label tells which of them it is
      have hsuffix : kind'.suffix = kind.suffix :=
        Option.some.inj ((component_artifact? hartifact).symm.trans hlabel)
      have hkind : kind' = kind := by
        cases kind <;> cases kind' <;> simp [ArtifactKind.suffix] at hsuffix ⊢
      exact hkind ▸ hartifact
    · cases List.mem_singleton.mp hcall
  · intro hartifact
    have hmem : kind ∈ ArtifactKind.all := by cases kind <;> decide
    refine ⟨?_, congrArg ObjectKey.ns (artifact?_eq_some hns hartifact),
      component_artifact? hartifact⟩
    exact List.mem_append_left _ (List.mem_map.mpr
      ⟨kind, hmem, publication_eq_apply.mpr hartifact⟩)

/-- The scripts have one file, the script for the template's port. -/
theorem Artifact.get?_scripts {t : Template} {a : Artifact} (h : derive? t .scripts = some a) :
    a.data.get? ArtifactKind.scripts.fileName = some (preStopScript t.spec.port) := by
  rw [derive?] at h
  split at h
  · obtain rfl := Option.some.inj h
    show Entries.get? ArtifactKind.scripts.fileName
      (Entries.ofList [(ArtifactKind.scripts.fileName, preStopScript t.spec.port)]) = _
    rw [Entries.get?_ofList_cons, if_pos rfl]
    rfl
  · exact nomatch h

/-! ## The two agree -/

/-- The container that a pod leads with is the daemon's, and begins with the port. -/
theorem Pod.LeadsWith.exists_isDaemon {p : Pod} {port : Int} (h : p.LeadsWith port) :
    ∃ d q qs, p.IsDaemon d ∧ d.ports = q :: qs ∧ q.containerPort = port := by
  obtain ⟨d, ds, hcontainers, hname, hothers, q, qs, hports, hnumber⟩ := h
  refine ⟨d, q, qs, ?_, hports, hnumber⟩
  unfold Pod.IsDaemon
  rw [hcontainers, List.filter_cons_of_pos (by simpa using hname), List.cons_eq_cons]
  refine ⟨rfl, List.filter_eq_nil_iff.mpr ?_⟩
  intro e he
  simpa using hothers e he

/-- The identity of the instance is laid over the metadata that comes of all other layers. -/
theorem exists_metadata_identity {i : Instance} {t : Template} {merged : Pod}
    (h : mergeAll (daemonDefaults i t) (podLayers i t) = .ok merged) :
    ∃ others : PodMeta,
      PodMeta.rules.lay others (identityLayer i).metadata = some merged.metadata := by
  obtain ⟨settings, -, h⟩ := mergeAll_cons_eq_ok_iff.mp h
  obtain ⟨partial', -, h⟩ := mergeAll_cons_eq_ok_iff.mp h
  have hidentity := mergeAll_singleton_eq_ok_iff.mp h
  exact ⟨partial'.metadata,
    (Pod.fieldwise.partwise.lay_iff _ _ _).mp hidentity (.field "metadata") _ rfl⟩

/-- A pod is built for the namespace of its instance, whatever the partial pod says. -/
theorem buildPod_ns {i : Instance} {t : Template} {pod : Pod} (h : buildPod i t = .ok pod)
    {ns : String} (hns : i.ns = some ns) (hne : ns ≠ "") : pod.metadata.ns = ns := by
  obtain ⟨merged, -, hmerged, -, rfl, -⟩ := buildPod_ok h
  obtain ⟨others, hmetadata⟩ := exists_metadata_identity hmerged
  have hnamespace : Rules.text.lay others.ns (i.ns.getD "") = some merged.metadata.ns :=
    (PodMeta.fieldwise.partwise.lay_iff _ _ _).mp hmetadata (.field "namespace") _ rfl
  rw [hns] at hnamespace
  have hset : ¬ ns.isEmpty = true := by simpa using hne
  exact (Option.some.inj hnamespace).symm.trans (if_neg hset)

/-- What the pod of an instance mounts is what a successful cycle of its template applies, in the
namespace that both are in, and the hook of the pod is one of the files in that. -/
theorem buildPod_published {σ : Type} {server : Server σ} {i : Instance} {t : Template} {pod : Pod}
    {ns : String} {now : Instant} {s : σ} {action : Action} (hpod : buildPod i t = .ok pod)
    (hfree : ∀ p ∈ t.spec.podTemplate, p.LeavesArtifacts t.spec.rootless)
    (hi : i.ns = some ns) (ht : t.ns = some ns)
    (hok : ((t.reconcile now).run server s).result = .ok action) :
    let calls := ((t.reconcile now).run server s).calls
    (ns ≠ "" → pod.metadata.ns = ns)
      ∧ (∀ kind name, pod.Mounts kind name ↔ ∃ c, Applies calls ns kind c ∧ c.name = name)
      ∧ (∀ kind c, Applies calls ns kind c →
        ∃ d, pod.IsDaemon d ∧ kind.mount t.spec.rootless ∈ d.volumeMounts)
      ∧ (∀ c, Applies calls ns .scripts c → pod.StopsWith c)
      ∧ ((∀ c, ¬ Applies calls ns .scripts c) → ∀ d, pod.IsDaemon d → d.lifecycle = none) := by
  intro calls
  obtain ⟨hvalid, -⟩ := buildPod_isOk_iff.mp ⟨pod, hpod⟩
  have happlies : ∀ kind c, Applies calls ns kind c ↔ t.artifact? kind = some c :=
    Template.applies_iff ht hvalid hok
  obtain ⟨-, d, hd, hlifecycle, hmounts⟩ := buildPod_artifacts hpod hfree
  have hmounted : ∀ kind c, Applies calls ns kind c →
      kind.mount t.spec.rootless ∈ d.volumeMounts := by
    intro kind c hc
    obtain ⟨a, ha, -⟩ := Option.map_eq_some_iff.mp ((happlies _ _).mp hc)
    have hmount := hmounts kind
    rw [ha] at hmount
    exact mem_of_filter_eq hmount
  refine ⟨buildPod_ns hpod hi, ?_, fun kind c hc => ⟨d, hd, hmounted kind c hc⟩, ?_, ?_⟩
  · intro kind name
    rw [buildPod_mounts_iff hpod hfree]
    constructor
    · intro h
      obtain ⟨a, ha, hname⟩ := h
      refine ⟨a.toConfigMap t.owner, (happlies _ _).mpr ?_, hname⟩
      exact Option.map_eq_some_iff.mpr ⟨a, ha, rfl⟩
    · intro h
      obtain ⟨c, hc, rfl⟩ := h
      obtain ⟨a, ha, rfl⟩ := Option.map_eq_some_iff.mp ((happlies _ _).mp hc)
      exact ⟨a, ha, rfl⟩
  · intro c hc
    have hmount := hmounted .scripts c hc
    obtain ⟨a, ha, rfl⟩ := Option.map_eq_some_iff.mp ((happlies _ _).mp hc)
    obtain ⟨d', q, qs, hd', hports, hport⟩ := (buildPod_leads hpod).exists_isDaemon
    obtain rfl := hd'.unique hd
    refine ⟨d', q, qs, hd, hports, ArtifactKind.scripts.mount t.spec.rootless, hmount, rfl,
      ArtifactKind.scripts.fileName, ?_, _, Artifact.get?_scripts ha, ?_⟩
    · unfold Container.stopCommand?
      rw [hlifecycle, ha]
      rfl
    · rw [hport]
      exact setsPort_preStopScript _
  · intro hnone d' hd'
    obtain rfl := hd'.unique hd
    cases ha : Artifact.derive? t.withDefaults .scripts with
    | none =>
      rw [hlifecycle, ha]
      rfl
    | some a =>
      have hartifact : t.artifact? .scripts = some (a.toConfigMap t.owner) :=
        Option.map_eq_some_iff.mpr ⟨a, ha, rfl⟩
      exact absurd ((happlies _ _).mpr hartifact) (hnone _)

/-- A partial pod with another volume, which the daemon's container mounts, leaves the artifacts
where they are. -/
theorem buildPod_published_cache :
    let i : Instance := {
      metadata := { name := some "my-build", ns := some "ci" }
      spec := { template := "default" } }
    let t : Template := {
      metadata := { name := some "default", ns := some "ci" }
      spec := {
        port := 8372
        buildkitdToml := "debug = true"
        lifecycle := { preStopScript := true }
        podTemplate := some {
          spec := {
            containers := [{
              name := daemonContainer
              volumeMounts := [{ name := "cache", mountPath := "/cache" }] }]
            volumes := [{ name := "cache", emptyDir := some {} }] } } } }
    let cycle := (t.reconcile ⟨0, 0⟩).run Simulation.directServer sampleMaps
    ∃ pod c, buildPod i t = .ok pod ∧ pod.metadata.ns = "ci" ∧ cycle.result.isOk = true
      ∧ pod.Mounts .daemonConfig "buildkit-default-toml"
      ∧ pod.Mounts .scripts "buildkit-default-scripts"
      ∧ Applies cycle.calls "ci" .scripts c ∧ pod.StopsWith c := by
  intro i t cycle
  have hbuilt : (buildPod i t).isOk = true := by decide +kernel
  have hran : cycle.result.isOk = true := by decide +kernel
  obtain ⟨pod, hpod⟩ := exists_pod hbuilt
  obtain ⟨action, hok⟩ := exists_of_isOk hran
  have hfree : ∀ p ∈ t.spec.podTemplate, p.LeavesArtifacts t.spec.rootless := by
    intro p hp
    obtain rfl := Option.some.inj hp
    refine ⟨?_, ?_, ?_⟩
    · exact List.forall_mem_singleton.mpr fun kind => by cases kind <;> decide
    · refine List.forall_mem_singleton.mpr fun _ => List.forall_mem_singleton.mpr fun kind => ?_
      cases kind <;> decide
    · exact List.forall_mem_singleton.mpr fun _ => rfl
  obtain ⟨hns, hmounts, -, hstops, -⟩ := buildPod_published hpod hfree rfl rfl hok
  have happlies : ∀ kind c, t.artifact? kind = some c → Applies cycle.calls "ci" kind c :=
    fun kind c => (Template.applies_iff rfl (buildPod_isOk_iff.mp ⟨pod, hpod⟩).1 hok kind c).mpr
  have hconfig := happlies .daemonConfig _ rfl
  have hscripts := happlies .scripts _ rfl
  exact ⟨pod, _, hpod, hns (by decide), hran, (hmounts _ _).mpr ⟨_, hconfig, rfl⟩,
    (hmounts _ _).mpr ⟨_, hscripts, rfl⟩, hscripts, hstops _ hscripts⟩

end BuildFleet
