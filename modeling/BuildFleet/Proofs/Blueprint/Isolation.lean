import BuildFleet.Blueprint
import BuildFleet.Proofs.Merge.Layers

/-!
# What an instance has no say in

An instance enters its pod in three places: the labels and annotations of the defaults, the identity
on top of all layers, and the resources that are settled last. None of them reaches the rest of the
pod. `Pod.fromTemplate` blanks what an instance may set, and

> `buildPod_fromTemplate`: what is left is the same for all instances of a template, and so is the
> failure where no pod can be built.

The reason is that blanking goes well with merging (`PodMeta.merge_shared`, `Pod.merge_shared`).
Labels, annotations and names always merge, so it makes no difference whether they are blanked
before the layers are merged or after, and blanked layers do not mention the instance any more.
-/

namespace BuildFleet

/-! ## Blanking the metadata of an instance -/

/-- The metadata that an instance has no say in. -/
def PodMeta.shared (m : PodMeta) : PodMeta :=
  { m with generateName := "", ns := "", labels := .empty, annotations := .empty }

/-- The pod without the metadata that an instance may set. -/
def Pod.shared (p : Pod) : Pod := { p with metadata := p.metadata.shared }

/-- Maps of values that always merge do so too. -/
theorem mergeEntries_mismatch {α : Type} [Mergeable α]
    (h : ∀ b l : α, (merge b l).mismatch = none) :
    ∀ (entries : List (String × α)) (base : Dict α), (mergeEntries base entries).mismatch = none
  | [], _ => rfl
  | (k, v) :: rest, base => by
    rw [mergeEntries]
    split
    · exact mergeEntries_mismatch h rest _
    · next old _ =>
      have hold : ((merge old v).within (.field k)).mismatch = none := by
        rw [Merged.within, h old v]
        rfl
      split
      · exact mergeEntries_mismatch h rest _
      · next heq =>
        rw [heq] at hold
        exact absurd hold (by simp)

/-- Merging texts fails nowhere, so it fails nowhere within a field either. -/
theorem within_merge_texts_mismatch (s : Segment) (base layer : Dict String) :
    ((merge base layer).within s).mismatch = none := by
  have h : (merge base layer).mismatch = none :=
    mergeEntries_mismatch (fun _ _ => rfl) layer.entries base
  rw [Merged.within, h]
  rfl

/-- Metadata merges as soon as its members without a field do. -/
theorem PodMeta.merge_eq (b l : PodMeta) :
    merge b l = (merge b.extra l.extra).map fun extra =>
      { name := (merge b.name l.name).value
        generateName := (merge b.generateName l.generateName).value
        ns := (merge b.ns l.ns).value
        labels := (merge b.labels l.labels).value
        annotations := (merge b.annotations l.annotations).value
        extra } := by
  -- the three names
  refine (Layering.run_part_bind_of_merged rfl).trans ?_
  refine (Layering.run_part_bind_of_merged rfl).trans ?_
  refine (Layering.run_part_bind_of_merged rfl).trans ?_
  -- labels and annotations
  refine (Layering.run_part_bind_of_merged (within_merge_texts_mismatch ..)).trans ?_
  refine (Layering.run_part_bind_of_merged (within_merge_texts_mismatch ..)).trans ?_
  rfl

/-- Merging metadata without what is an instance's own is merging it and leaving that out
afterwards. -/
theorem PodMeta.merge_shared (b l : PodMeta) :
    merge b.shared l.shared = (merge b l).map PodMeta.shared := by
  rw [PodMeta.merge_eq, PodMeta.merge_eq]
  rfl

/-- Merging pods without what is an instance's own is merging them and leaving that out afterwards.
-/
theorem Pod.merge_shared (b l : Pod) : merge b.shared l.shared = (merge b l).map Pod.shared := by
  refine Layering.run_part_bind_map (g := PodMeta.shared) (f := Pod.shared) ?_ fun m e => rfl
  show (merge b.metadata.shared l.metadata.shared).within (.field "metadata") = _
  rw [PodMeta.merge_shared]
  rfl

/-! ## Blanking the resources of the daemon -/

/-- The container without its resources. -/
def Container.unsettled (c : Container) : Container := { c with resources := none }

/-- What a template alone decides of a pod: everything but the start of its name, its namespace,
labels and annotations, and the resources of the daemon's container. -/
def Pod.fromTemplate (p : Pod) : Pod :=
  p.shared.modifyContainer daemonContainer Container.unsettled

/-- Changing a container twice is changing it once, if it is still found the second time. -/
theorem Pod.modifyContainer_go_go {f g : Container → Container} {name : String}
    (hf : ∀ c, (f c).name = c.name) : ∀ cs : List Container,
      Pod.modifyContainer.go name g (Pod.modifyContainer.go name f cs)
        = Pod.modifyContainer.go name (fun c => g (f c)) cs
  | [] => rfl
  | c :: rest => by
    rw [Pod.modifyContainer.go, Pod.modifyContainer.go]
    by_cases hc : c.name = name
    · rw [if_pos hc, if_pos hc, Pod.modifyContainer.go, if_pos ((hf c).trans hc)]
    · rw [if_neg hc, if_neg hc, Pod.modifyContainer.go, if_neg hc,
        Pod.modifyContainer_go_go hf rest]

/-- Settling resources changes nothing that the template alone decides. -/
theorem Pod.fromTemplate_settled (i : Instance) (t : Template) (p : Pod) :
    (p.modifyContainer daemonContainer (settleResources i t)).fromTemplate = p.fromTemplate := by
  have h : Pod.modifyContainer.go daemonContainer Container.unsettled
      (Pod.modifyContainer.go daemonContainer (settleResources i t) p.spec.containers)
      = Pod.modifyContainer.go daemonContainer Container.unsettled p.spec.containers :=
    Pod.modifyContainer_go_go (f := settleResources i t) (fun _ => rfl) _
  exact congrArg (fun cs => { metadata := p.metadata.shared
                              spec := { p.spec with containers := cs } : Pod }) h

/-- The layers of an instance, blanked. -/
theorem mergeAll_shared (i : Instance) (t : Template) :
    (mergeAll (daemonDefaults i t) (podLayers i t)).map Pod.shared
      = mergeAll { spec := (daemonDefaults i t).spec }
          [(settingsLayer t).shared, (t.spec.podTemplate.getD .empty).shared, .empty] :=
  (mergeAll_map Pod.merge_shared (podLayers i t) (daemonDefaults i t)).symm

/-- What the template alone decides follows from the blanked layers. -/
theorem assemblePod_fromTemplate (i : Instance) (t : Template) :
    (assemblePod i t).map Pod.fromTemplate
      = match (mergeAll (daemonDefaults i t) (podLayers i t)).map Pod.shared with
        | .error e => .error (.merge e)
        | .ok pod =>
          match pod.container? daemonContainer with
          | none => .error (.internal "buildkit container missing after merge")
          | some _ => .ok (pod.modifyContainer daemonContainer Container.unsettled) := by
  unfold assemblePod
  cases mergeAll (daemonDefaults i t) (podLayers i t) with
  | error e => rfl
  | ok pod =>
    have hsame : pod.shared.container? daemonContainer = pod.container? daemonContainer := rfl
    show Except.map Pod.fromTemplate (match pod.container? daemonContainer with
      | none => .error (Failure.internal "buildkit container missing after merge")
      | some _ => .ok (pod.modifyContainer daemonContainer (settleResources i t)))
      = match pod.shared.container? daemonContainer with
        | none => .error (Failure.internal "buildkit container missing after merge")
        | some _ => .ok (pod.shared.modifyContainer daemonContainer Container.unsettled)
    rw [hsame]
    cases pod.container? daemonContainer with
    | none => rfl
    | some c => exact congrArg Except.ok (Pod.fromTemplate_settled i t pod)

/-- Two instances of a template are refused for the same reason, or get pods that differ at most in
the start of the name, the namespace, the labels, the annotations and the resources of the
daemon's container. -/
theorem buildPod_fromTemplate (i j : Instance) (t : Template) :
    (buildPod i t).map Pod.fromTemplate = (buildPod j t).map Pod.fromTemplate := by
  unfold buildPod
  dsimp only
  cases t.withDefaults.check.result with
  | error e => rfl
  | ok report =>
    show (assemblePod i t.withDefaults).map Pod.fromTemplate
      = (assemblePod j t.withDefaults).map Pod.fromTemplate
    rw [assemblePod_fromTemplate, assemblePod_fromTemplate, mergeAll_shared, mergeAll_shared]
    rfl

end BuildFleet
