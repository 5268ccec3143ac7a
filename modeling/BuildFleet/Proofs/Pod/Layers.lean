import BuildFleet.Proofs.Merge.Grouping
import BuildFleet.Proofs.Merge.Override
import BuildFleet.Proofs.Merge.Retention
import BuildFleet.Proofs.Pod.Rules

/-!
# Layers of a pod

What the rules of merging come to for whole pods.

> `Pod.mergeAll_assoc`: it makes no difference whether layers are laid over a base one by one or
> merged among themselves first;
> `Pod.mergeAll_retains`: no layer takes anything away from what is below it;
> `Pod.look_merge`: what a layer says wins at every place, and where it says nothing the base's
> value stays.

The first and the last need layers whose keyed lists do not repeat keys (`Pod.DistinctKeys`).
-/

namespace BuildFleet

/-! ## Keys that are not repeated -/

/-- No keyed list of the container has two elements with the same key. -/
def Container.DistinctKeys (c : Container) : Prop :=
  (c.env.map EnvVar.mergeKey).Nodup ∧ (c.ports.map ContainerPort.mergeKey).Nodup
    ∧ (c.volumeMounts.map VolumeMount.mergeKey).Nodup

instance (c : Container) : Decidable c.DistinctKeys :=
  inferInstanceAs (Decidable (_ ∧ _ ∧ _))

/-- No keyed list of the pod has two elements with the same key, and neither have its containers'
lists. -/
def Pod.DistinctKeys (p : Pod) : Prop :=
  ((p.spec.containers.map Container.mergeKey).Nodup ∧ ∀ c ∈ p.spec.containers, c.DistinctKeys)
    ∧ ((p.spec.initContainers.map Container.mergeKey).Nodup
      ∧ ∀ c ∈ p.spec.initContainers, c.DistinctKeys)
    ∧ (p.spec.volumes.map Volume.mergeKey).Nodup
    ∧ (p.spec.topologySpreadConstraints.map TopologySpreadConstraint.mergeKey).Nodup
    ∧ (p.spec.imagePullSecrets.map LocalReference.mergeKey).Nodup

instance (p : Pod) : Decidable p.DistinctKeys :=
  inferInstanceAs (Decidable ((_ ∧ _) ∧ (_ ∧ _) ∧ _ ∧ _ ∧ _))

/-- A container has no doubled keys exactly if its own lists have none. -/
theorem Container.distinct_iff {c : Container} : Container.rules.Distinct c ↔ c.DistinctKeys := by
  simp [Container.DistinctKeys, Container.fieldwise.distinct_iff, Container.parts,
    EnvVar.fieldwise.distinct_iff, EnvVar.parts, ContainerPort.fieldwise.distinct_iff,
    ContainerPort.parts, VolumeMount.fieldwise.distinct_iff, VolumeMount.parts,
    Requirements.fieldwise.distinct_iff, Requirements.parts, Probe.fieldwise.distinct_iff,
    Probe.parts, GrpcAction.fieldwise.distinct_iff, GrpcAction.parts,
    ExecAction.fieldwise.distinct_iff, ExecAction.parts, Lifecycle.fieldwise.distinct_iff,
    Lifecycle.parts, LifecycleHandler.fieldwise.distinct_iff, LifecycleHandler.parts,
    SecurityContext.fieldwise.distinct_iff, SecurityContext.parts,
    SecurityProfile.fieldwise.distinct_iff, SecurityProfile.parts]

/-- A pod has no doubled keys exactly if its lists and those of its containers have none. -/
theorem Pod.distinct_iff {p : Pod} : Pod.rules.Distinct p ↔ p.DistinctKeys := by
  simp [Pod.DistinctKeys, Pod.fieldwise.distinct_iff, Pod.parts, PodMeta.fieldwise.distinct_iff,
    PodMeta.parts, PodSpec.fieldwise.distinct_iff, PodSpec.parts, Container.distinct_iff,
    Volume.fieldwise.distinct_iff, Volume.parts, EmptyDirSource.fieldwise.distinct_iff,
    EmptyDirSource.parts, ConfigMapSource.fieldwise.distinct_iff, ConfigMapSource.parts,
    SecretSource.fieldwise.distinct_iff, SecretSource.parts,
    TopologySpreadConstraint.fieldwise.distinct_iff, TopologySpreadConstraint.parts,
    LocalReference.fieldwise.distinct_iff, LocalReference.parts]

/-! ## Grouping layers -/

/-- Two layers over a base are the same as the second over the first, and that over the base: the
one succeeds if the other does, with the same pod. -/
theorem Pod.mergeAll_assoc {a c : Pod} (ha : a.DistinctKeys) (hc : c.DistinctKeys) (b v : Pod) :
    mergeAll b [a, c] = .ok v ↔ ∃ ac, mergeAll a [c] = .ok ac ∧ mergeAll b [ac] = .ok v := by
  have hgroups : ((merge b a).value?.bind fun x => (merge x c).value?)
      = (merge a c).value?.bind fun y => (merge b y).value? :=
    Pod.composed.groupsAt b a c (Pod.distinct_iff.mpr ha) (Pod.distinct_iff.mpr hc)
  rw [mergeAll_pair_eq_ok_iff, hgroups, Option.bind_eq_some_iff]
  simp only [mergeAll_singleton_eq_ok_iff]

/-- A variable that both layers set, and a sidecar that one adds and the other completes. -/
theorem Pod.mergeAll_assoc_sidecar :
    let b : Pod := { spec := { containers := [{ name := "buildkit", image := "moby/buildkit" }] } }
    let a : Pod := {
      spec := {
        containers := [
          { name := "buildkit", env := [{ name := "DEBUG", value := "0" }] },
          { name := "sidecar" }] } }
    let c : Pod := {
      spec := {
        containers := [
          { name := "sidecar", image := "busybox" },
          { name := "buildkit", env := [{ name := "DEBUG", value := "1" }] }] } }
    a.DistinctKeys ∧ c.DistinctKeys ∧ ∃ v ac, mergeAll b [a, c] = .ok v
      ∧ mergeAll a [c] = .ok ac ∧ mergeAll b [ac] = .ok v := by
  intro b a c
  have ha : a.DistinctKeys := by decide
  have hc : c.DistinctKeys := by decide
  have hok : (mergeAll b [a, c]).isOk = true := by decide
  obtain ⟨v, hv⟩ := exists_of_isOk hok
  obtain ⟨ac, hac, hbac⟩ := (Pod.mergeAll_assoc ha hc b v).mp hv
  exact ⟨ha, hc, v, ac, hv, hac, hbac⟩

/-! ## Nothing is removed -/

/-- Whatever the layers are, the pod has all that the base has. -/
theorem Pod.mergeAll_retains {base v : Pod} {layers : List Pod}
    (h : mergeAll base layers = .ok v) : Pod.rules.Retains base v :=
  Pod.composed.retains_mergeAll h

/-- Layers that repeat a container, replace its arguments and leave a volume's name out. -/
theorem Pod.mergeAll_retains_repeated :
    let base : Pod := {
      spec := {
        containers := [
          { name := "buildkit", image := "moby/buildkit", args := ["--debug"] },
          { name := "sidecar", securityContext := some { privileged := some false } }]
        volumes := [{ name := "cache", emptyDir := some { medium := "Memory" } }] } }
    let layer : Pod := {
      spec := {
        containers := [
          { name := "sidecar", image := "busybox" },
          { name := "sidecar", securityContext := some { runAsUser := some 1000 } },
          { name := "buildkit", args := ["--trace"] }]
        volumes := [{ name := "" }] } }
    ∃ v, mergeAll base [layer, .empty, layer] = .ok v ∧ Pod.rules.Retains base v := by
  intro base layer
  have hok : (mergeAll base [layer, .empty, layer]).isOk = true := by decide
  obtain ⟨v, hv⟩ := exists_of_isOk hok
  exact ⟨v, hv, Pod.mergeAll_retains hv⟩

/-! ## What a layer says -/

/-- At every place the pod has what the layer says there, and the base's value where it says
nothing. -/
theorem Pod.look_merge {base layer v : Pod} (hlayer : layer.DistinctKeys)
    (h : (merge base layer).result = .ok v) (place : Place) :
    Pod.rules.look v place
      = Leaf.onto (Pod.rules.look layer place) (Pod.rules.look base place) :=
  Pod.composed.look_lay base layer v trivial (Pod.distinct_iff.mpr hlayer)
    (Merged.result_eq_ok_iff.mp h) place

/-- A layer that replaces an image and a free-form null, and says nothing about the arguments. -/
theorem Pod.look_merge_image :
    let base : Pod := {
      spec := {
        containers := [{
          name := "buildkit"
          image := "moby/buildkit:v0.12"
          args := ["--debug"]
          extra := .ofMembers [("tty", .null)] }] } }
    let layer : Pod := {
      spec := {
        containers := [{
          name := "buildkit"
          image := "moby/buildkit:v0.13"
          extra := .ofMembers [("tty", .bool true)] }] } }
    layer.DistinctKeys ∧ ∃ v, (merge base layer).result = .ok v ∧ ∀ place,
      Pod.rules.look v place
        = Leaf.onto (Pod.rules.look layer place) (Pod.rules.look base place) := by
  intro base layer
  have hlayer : layer.DistinctKeys := by decide
  have hok : (merge base layer).result.isOk = true := by decide
  obtain ⟨v, hv⟩ := exists_of_isOk hok
  exact ⟨hlayer, v, hv, Pod.look_merge hlayer hv⟩

example :
    let base : Pod := {
      spec := { containers := [{ name := "sidecar" }, { name := "buildkit", image := "v0.12" }] } }
    let layer : Pod := { spec := { containers := [{ name := "buildkit", image := "v0.13" }] } }
    Pod.rules.look (merge base layer).value
      [.field "spec", .field "containers", .element "buildkit", .field "image"]
      = some (.text "v0.13") := by
  rfl

end BuildFleet
