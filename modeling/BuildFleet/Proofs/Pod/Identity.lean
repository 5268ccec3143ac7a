import BuildFleet.Proofs.Merge.Gathering
import BuildFleet.Proofs.Merge.Identity
import BuildFleet.Proofs.Pod.Layers

/-!
# Layers that change nothing

A pod that says nothing is laid over any pod without effect, and a layer that was laid before is
laid once more without effect. The other way round, a pod laid over the one that says nothing comes
out as it was exactly if none of its own lists names a key twice: elements with one key are one
element to a merge, also where a single layer lists them.

> `Pod.merge_empty`: the pod that says nothing, as a layer and as a base, and what becomes of
> elements that the base lacks;
> `Pod.merge_again`: a layer that is laid twice.
-/

namespace BuildFleet

/-! ## The pod that says nothing -/

/-- None of the pod's own keyed lists has two elements with the same key. The lists inside of its
containers may. -/
def PodSpec.OwnKeysDistinct (s : PodSpec) : Prop :=
  (s.containers.map Container.mergeKey).Nodup
    ∧ (s.initContainers.map Container.mergeKey).Nodup
    ∧ (s.volumes.map Volume.mergeKey).Nodup
    ∧ (s.topologySpreadConstraints.map TopologySpreadConstraint.mergeKey).Nodup
    ∧ (s.imagePullSecrets.map LocalReference.mergeKey).Nodup

instance (s : PodSpec) : Decidable s.OwnKeysDistinct :=
  inferInstanceAs (Decidable (_ ∧ _ ∧ _ ∧ _ ∧ _))

/-- What the lists of a layer's containers have that those of a container of the base lack is in the
lists of `v`. -/
structure Container.ListsAdopted (b : Container) (ls : List Container) (v : Container) : Prop where
  env : Adopts EnvVar.mergeKey b.env (ls.flatMap (·.env)) v.env
  ports : Adopts ContainerPort.mergeKey b.ports (ls.flatMap (·.ports)) v.ports
  volumeMounts :
    Adopts VolumeMount.mergeKey b.volumeMounts (ls.flatMap (·.volumeMounts)) v.volumeMounts

/-- The containers of a layer that the base lacks are in `v`, and so is what those have that it does
not lack. -/
structure ContainersAdopted (b l v : List Container) : Prop where
  containers : Adopts Container.mergeKey b l v
  lists : ∀ name z, b.find? (·.mergeKey == name) = some z →
    ∃ w, v.find? (·.mergeKey == name) = some w
      ∧ z.ListsAdopted (l.filter (·.mergeKey == name)) w

/-- What the lists of a layer have that the base lacks is in those of `v`. -/
structure PodSpec.ListsAdopted (b l v : PodSpec) : Prop where
  containers : ContainersAdopted b.containers l.containers v.containers
  initContainers : ContainersAdopted b.initContainers l.initContainers v.initContainers
  volumes : Adopts Volume.mergeKey b.volumes l.volumes v.volumes
  topologySpreadConstraints : Adopts TopologySpreadConstraint.mergeKey b.topologySpreadConstraints
    l.topologySpreadConstraints v.topologySpreadConstraints
  imagePullSecrets : Adopts LocalReference.mergeKey b.imagePullSecrets l.imagePullSecrets
    v.imagePullSecrets

/-- The empty pod changes no pod. -/
theorem Pod.lay_empty_right (x : Pod) : Pod.rules.lay x .empty = some x := by
  simp [Pod.empty, Pod.fieldwise.lay_iff, Pod.parts, Facet.lay, PodMeta.fieldwise.lay_iff,
    PodMeta.parts, PodSpec.fieldwise.lay_iff, PodSpec.parts, Rules.lay_optional_none_right]

/-- Over the empty pod a pod stays as it is exactly if its own keys are different. -/
theorem Pod.lay_empty_left_iff {x : Pod} :
    Pod.rules.lay .empty x = some x ↔ x.spec.OwnKeysDistinct := by
  simp [PodSpec.OwnKeysDistinct, Pod.empty, Pod.fieldwise.lay_iff, Pod.parts, Facet.lay,
    PodMeta.fieldwise.lay_iff, PodMeta.parts, PodSpec.fieldwise.lay_iff, PodSpec.parts,
    Rules.lay_optional_none_left,
    Rules.lay_keyed_nil_left_iff (r := Container.rules) Container.keepsKey,
    Rules.lay_keyed_nil_left_iff (r := Volume.rules) Volume.keepsKey,
    Rules.lay_keyed_nil_left_iff (r := TopologySpreadConstraint.rules)
      TopologySpreadConstraint.keepsKey,
    Rules.lay_keyed_nil_left_iff (r := LocalReference.rules) LocalReference.keepsKey]

/-! ## Elements that the base lacks -/

/-- The keyed lists of a container merge as keyed lists. -/
theorem Container.lists_of_lay {b l v : Container} (h : Container.rules.lay b l = some v) :
    (EnvVar.rules.keyed EnvVar.mergeKey).lay b.env l.env = some v.env
      ∧ (ContainerPort.rules.keyed ContainerPort.mergeKey).lay b.ports l.ports = some v.ports
      ∧ (VolumeMount.rules.keyed VolumeMount.mergeKey).lay b.volumeMounts l.volumeMounts
        = some v.volumeMounts := by
  simp only [Container.fieldwise.lay_iff, Container.parts, Facet.lay, List.forall_mem_cons] at h
  obtain ⟨-, -, -, -, -, henv, hports, hvolumeMounts, -⟩ := h
  exact ⟨henv, hports, hvolumeMounts⟩

/-- A container onto which others were laid has adopted what their lists have and its own lack. -/
theorem Container.listsAdopted_of_layAll {b v : Container} {ls : List Container}
    (h : Container.rules.layAll (some b) ls = some (some v)) : b.ListsAdopted ls v where
  env := Rules.adopts_keyed EnvVar.keepsKey
    (Rules.lay_flatMap_of_layAll (fun _ _ _ hlay => (Container.lists_of_lay hlay).1) h)
  ports := Rules.adopts_keyed ContainerPort.keepsKey
    (Rules.lay_flatMap_of_layAll (fun _ _ _ hlay => (Container.lists_of_lay hlay).2.1) h)
  volumeMounts := Rules.adopts_keyed VolumeMount.keepsKey
    (Rules.lay_flatMap_of_layAll (fun _ _ _ hlay => (Container.lists_of_lay hlay).2.2) h)

/-- Merged containers have adopted those that the base lacks, and so have their lists. -/
theorem containersAdopted_of_lay {b l v : List Container}
    (h : (Container.rules.keyed Container.mergeKey).lay b l = some v) : ContainersAdopted b l v where
  containers := Rules.adopts_keyed Container.keepsKey h
  lists name z hz := by
    have hall := Rules.layAll_keyed Container.keepsKey (k := name) h
    have hsome := Rules.isSome_find?_keyed Container.keepsKey (k := name) h
    rw [hz, Option.isSome_some, Bool.true_or] at hsome
    obtain ⟨w, hw⟩ := Option.isSome_iff_exists.mp hsome
    rw [hz, hw] at hall
    exact ⟨w, hw, Container.listsAdopted_of_layAll hall⟩

/-- Merged contents have adopted what the lists of the layer have and those of the base lack. -/
theorem PodSpec.listsAdopted_of_lay {b l v : PodSpec} (h : PodSpec.rules.lay b l = some v) :
    b.ListsAdopted l v := by
  simp only [PodSpec.fieldwise.lay_iff, PodSpec.parts, Facet.lay, List.forall_mem_cons] at h
  obtain ⟨hcontainers, hinitContainers, hvolumes, -, -, -, -, -, -, -, -, hconstraints, -, hsecrets,
    -⟩ := h
  exact {
    containers := containersAdopted_of_lay hcontainers
    initContainers := containersAdopted_of_lay hinitContainers
    volumes := Rules.adopts_keyed Volume.keepsKey hvolumes
    topologySpreadConstraints := Rules.adopts_keyed TopologySpreadConstraint.keepsKey hconstraints
    imagePullSecrets := Rules.adopts_keyed LocalReference.keepsKey hsecrets }

/-- A merged pod has adopted what the lists of the layer have and those of the base lack. -/
theorem Pod.listsAdopted_of_lay {b l v : Pod} (h : Pod.rules.lay b l = some v) :
    b.spec.ListsAdopted l.spec v.spec := by
  simp only [Pod.fieldwise.lay_iff, Pod.parts, Facet.lay, List.forall_mem_cons] at h
  exact PodSpec.listsAdopted_of_lay h.2.1

/-- The pod that says nothing changes nothing as a layer. As a base it leaves a pod as it is exactly
if none of the pod's own lists repeats a key. Whatever the base is, what its lists lack is added,
with each key once. -/
theorem Pod.merge_empty (x : Pod) :
    (merge x .empty).result = .ok x
      ∧ ((merge .empty x).result = .ok x ↔ x.spec.OwnKeysDistinct)
      ∧ ∀ base v, (merge base x).result = .ok v → base.spec.ListsAdopted x.spec v.spec := by
  refine ⟨?_, ?_, ?_⟩
  · exact Merged.result_eq_ok_iff.mpr x.lay_empty_right
  · rw [Merged.result_eq_ok_iff]
    exact Pod.lay_empty_left_iff
  · intro base v hv
    exact Pod.listsAdopted_of_lay (Merged.result_eq_ok_iff.mp hv)

/-- A port that a container of the base lacks, and a volume that the base lacks. -/
theorem Pod.merge_empty_port :
    let base : Pod := { spec := { containers := [{ name := "dns", image := "coredns" }] } }
    let layer : Pod := {
      spec := {
        containers := [{ name := "dns", ports := [{ containerPort := 53, protocol := "UDP" }] }]
        volumes := [{ name := "zones" }] } }
    (merge layer .empty).result = .ok layer ∧ (merge .empty layer).result = .ok layer
      ∧ ∃ v, (merge base layer).result = .ok v ∧ base.spec.ListsAdopted layer.spec v.spec := by
  intro base layer
  have hkeys : layer.spec.OwnKeysDistinct := by decide
  have hok : (merge base layer).result.isOk = true := by decide
  obtain ⟨v, hv⟩ := exists_of_isOk hok
  obtain ⟨hright, hleft, hadopted⟩ := Pod.merge_empty layer
  exact ⟨hright, hleft.mpr hkeys, v, hv, hadopted base v hv⟩

/-- Two constraints on one topology key are folded into one, and so are two ports with one number in
a container that the base has without ports. -/
theorem Pod.merge_empty_folds :
    let x : Pod := {
      spec := {
        topologySpreadConstraints := [
          { topologyKey := "zone", maxSkew := some 1, whenUnsatisfiable := "DoNotSchedule" },
          { topologyKey := "zone", maxSkew := some 2, whenUnsatisfiable := "ScheduleAnyway" }] } }
    let base : Pod := { spec := { containers := [{ name := "dns" }] } }
    let layer : Pod := {
      spec := {
        containers := [{
          name := "dns"
          ports := [
            { containerPort := 53, protocol := "TCP" },
            { containerPort := 53, protocol := "UDP" }] }] } }
    (merge .empty x).result ≠ .ok x
      ∧ (∃ v, (merge .empty x).result = .ok v ∧ v.spec.topologySpreadConstraints.length = 1)
      ∧ ∃ v, (merge base layer).result = .ok v
        ∧ v.spec.containers.map (fun c => c.ports.length) = [1] := by
  intro x base layer
  have hkeys : ¬ x.spec.OwnKeysDistinct := by decide
  refine ⟨?_, ?_, ?_⟩
  · rw [Ne, Merged.result_eq_ok_iff]
    exact fun h => hkeys (Pod.lay_empty_left_iff.mp h)
  · obtain ⟨v, hv⟩ := exists_of_isOk (show (merge .empty x).result.isOk = true by decide)
    exact ⟨v, hv, by cases hv; rfl⟩
  · obtain ⟨v, hv⟩ := exists_of_isOk (show (merge base layer).result.isOk = true by decide)
    exact ⟨v, hv, by cases hv; rfl⟩

/-! ## A layer that is laid twice -/

/-- A layer without repeated keys that has been laid is laid once more without effect. -/
theorem Pod.merge_again {base layer v : Pod} (hlayer : layer.DistinctKeys)
    (h : (merge base layer).result = .ok v) : (merge v layer).result = .ok v :=
  Merged.result_eq_ok_iff.mpr
    (Pod.composed.lay_again (Pod.distinct_iff.mpr hlayer) (Merged.result_eq_ok_iff.mp h))

/-- A container that is appended whole the first time and merged field by field the second time. -/
theorem Pod.merge_again_sidecar :
    let base : Pod := {
      metadata := { labels := Dict.empty.insert "app" "fleet" }
      spec := { containers := [{ name := "buildkit", image := "moby/buildkit" }] } }
    let layer : Pod := {
      metadata := { labels := Dict.empty.insert "app" "" }
      spec := {
        containers := [
          { name := "sidecar"
            env := [{ name := "DEBUG", value := "1" }]
            ports := [{ containerPort := 53 }]
            extra := .ofMembers [("tty", .null), ("hook", .obj [("args", .arr [.bool true])])] },
          { name := "buildkit", args := ["--trace"] }] } }
    layer.DistinctKeys ∧ ∃ v, (merge base layer).result = .ok v
      ∧ (merge v layer).result = .ok v := by
  intro base layer
  have hlayer : layer.DistinctKeys := by decide
  have hok : (merge base layer).result.isOk = true := by decide
  obtain ⟨v, hv⟩ := exists_of_isOk hok
  exact ⟨hlayer, v, hv, Pod.merge_again hlayer hv⟩

end BuildFleet
