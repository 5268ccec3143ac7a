import BuildFleet.Blueprint
import BuildFleet.Proofs.Pod.Rules

/-!
# The daemon's container in a built pod

The containers of a built pod come from the template alone: the daemon's default container, then
what the template's settings and its partial pod lay over it (`Template.containers`). The partial
pod may list the daemon's container any number of times, and other containers too, but all of it
goes into the one that is there from the start, because containers are keyed by name.

> `buildPod_ok`: a pod that was built has exactly one container with the daemon's name, and that is
> what the template gives with the instance's resources settled.
-/

namespace BuildFleet

/-- The container is the daemon's, and no other has its name. -/
def Pod.IsDaemon (p : Pod) (c : Container) : Prop :=
  p.spec.containers.filter (·.name == daemonContainer) = [c]

/-- There is only one daemon's container. -/
theorem Pod.IsDaemon.unique {p : Pod} {c d : Container} (hc : p.IsDaemon c) (hd : p.IsDaemon d) :
    c = d :=
  List.singleton_inj.mp (hc.symm.trans hd)

/-- It is the one that is found under the name. -/
theorem Pod.IsDaemon.container?_eq {p : Pod} {c : Container} (h : p.IsDaemon c) :
    p.container? daemonContainer = some c := by
  unfold IsDaemon at h
  unfold container?
  rw [← List.head?_filter, h]
  rfl

/-- The containers with those of a layer laid over them. -/
def layContainers (cs : List Container) (layer : Pod) : List Container :=
  (keyed Container.mergeKey cs layer.spec.containers).value

/-- Merging pods lays their containers over one another. -/
theorem Pod.containers_merge {base layer : Pod} (h : (merge base layer).mismatch = none) :
    (merge base layer).value.spec.containers = layContainers base.spec.containers layer := by
  have hrest : ∀ m : PodMeta, Layering.Persistent (do
      let s ← Layering.field "spec" base.spec layer.spec
      pure ({ metadata := m, spec := s } : Pod)) :=
    fun m => Layering.persistent_part_bind (Layering.persistent_pure _)
  -- once the metadata has merged, the outcome's containers are the ones of the merged spec
  have hrun := (Layering.run_part_bind hrest h).2
  exact congrArg (fun m => m.value.spec.containers) hrun

namespace Template

/-- The layers that the template has for the containers, over the daemon's default one. -/
def layers (t : Template) : List Pod := [settingsLayer t, t.spec.podTemplate.getD .empty]

/-- The containers that the template gives to its instances. -/
def containers (t : Template) : List Container := t.layers.foldl layContainers [daemonDefault t]

/-- The daemon's container as the template gives it. -/
def IsDaemon (t : Template) (c : Container) : Prop :=
  t.containers.filter (·.name == daemonContainer) = [c]

/-- No two containers share a name, and the daemon's is among them. -/
theorem containers_keys (t : Template) :
    (t.containers.map Container.mergeKey).Nodup
      ∧ daemonContainer ∈ t.containers.map Container.mergeKey := by
  have hdefault : ([daemonDefault t].map Container.mergeKey).Nodup
      ∧ daemonContainer ∈ [daemonDefault t].map Container.mergeKey :=
    ⟨List.pairwise_singleton _ _, List.mem_singleton_self daemonContainer⟩
  refine List.foldlRecOn (motive := fun cs => (cs.map Container.mergeKey).Nodup
    ∧ daemonContainer ∈ cs.map Container.mergeKey) t.layers layContainers hdefault ?_
  intro cs h layer _
  exact ⟨keys_keyed_nodup Container.keepsKey h.1 _,
    (keys_prefix_keyed Container.keepsKey cs _).subset h.2⟩

/-- A template always gives a container for the daemon. -/
theorem exists_isDaemon (t : Template) : ∃ c, t.IsDaemon c :=
  filter_key_of_nodup t.containers_keys.1 t.containers_keys.2

end Template

/-- The merged layers have the containers of the template: the identity adds none. -/
theorem containers_mergeAll {i : Instance} {t : Template} {pod : Pod}
    (h : mergeAll (daemonDefaults i t) (podLayers i t) = .ok pod) :
    pod.spec.containers = t.containers :=
  mergeAll_view (fun p : Pod => p.spec.containers) layContainers
    (fun _ _ hm => Pod.containers_merge hm) h

/-- The daemon's container is among those of the merged layers. -/
theorem exists_container?_mergeAll {i : Instance} {t : Template} {pod : Pod}
    (h : mergeAll (daemonDefaults i t) (podLayers i t) = .ok pod) :
    ∃ c, pod.container? daemonContainer = some c := by
  obtain ⟨c, hc⟩ := t.exists_isDaemon
  refine ⟨c, ?_⟩
  unfold Pod.container?
  rw [containers_mergeAll h, ← List.head?_filter, hc]
  rfl

/-! ## Changing one container -/

/-- Changing a container that keeps its name changes it in place. -/
theorem Pod.filter_modifyContainer {f : Container → Container} {name : String}
    (hf : ∀ c, (f c).name = c.name) :
    ∀ {cs : List Container} {c : Container}, cs.filter (·.name == name) = [c] →
      (Pod.modifyContainer.go name f cs).filter (·.name == name) = [f c]
  | [], _, h => nomatch h
  | d :: rest, c, h => by
    rw [List.filter_cons] at h
    rw [Pod.modifyContainer.go]
    by_cases hd : d.name = name
    · rw [if_pos (beq_iff_eq.mpr hd), List.cons_eq_cons] at h
      rw [if_pos hd, List.filter_cons, if_pos (beq_iff_eq.mpr ((hf d).trans hd)), h.1, h.2]
    · rw [if_neg fun hb => hd (beq_iff_eq.mp hb)] at h
      rw [if_neg hd, List.filter_cons, if_neg fun hb => hd (beq_iff_eq.mp hb)]
      exact Pod.filter_modifyContainer hf h

/-- What holds of all containers still holds if it holds of the one that is changed. -/
theorem Pod.forall_modifyContainer {P : Container → Prop} {f : Container → Container}
    {name : String} (hf : ∀ c, P c → P (f c)) : ∀ {cs : List Container}, (∀ c ∈ cs, P c) →
      ∀ c ∈ Pod.modifyContainer.go name f cs, P c
  | [], h => h
  | d :: rest, h => by
    obtain ⟨hd, hrest⟩ := List.forall_mem_cons.mp h
    rw [Pod.modifyContainer.go]
    split
    · exact List.forall_mem_cons.mpr ⟨hf d hd, hrest⟩
    · exact List.forall_mem_cons.mpr ⟨hd, Pod.forall_modifyContainer hf hrest⟩

/-- A pod is assembled wherever its layers merge, since the daemon's container is never missing. -/
theorem assemblePod_eq (i : Instance) (t : Template) : assemblePod i t
    = match mergeAll (daemonDefaults i t) (podLayers i t) with
      | .error m => .error (.merge m)
      | .ok merged => .ok (merged.modifyContainer daemonContainer (settleResources i t)) := by
  unfold assemblePod
  cases hmerged : mergeAll (daemonDefaults i t) (podLayers i t) with
  | error m => rfl
  | ok merged =>
    obtain ⟨c, hfind⟩ := exists_container?_mergeAll hmerged
    dsimp only
    rw [hfind]

/-- A template that breaks a rule is refused, and from any other the pod is assembled. -/
theorem buildPod_eq (i : Instance) (t : Template) : buildPod i t
    = if t.withDefaults.check.isValid then assemblePod i t.withDefaults
      else .error (.validation t.withDefaults.check.summary) := by
  unfold buildPod Report.result
  by_cases hvalid : t.withDefaults.check.isValid = true
  · dsimp only
    rw [if_pos hvalid, if_pos hvalid]
  · dsimp only
    rw [if_neg hvalid, if_neg hvalid]

/-- What a pod that was built looks like: the layers merged, and the daemon's container, of which
there is one, got the resources that were settled for it. -/
theorem buildPod_ok {i : Instance} {t : Template} {pod : Pod} (h : buildPod i t = .ok pod) :
    ∃ merged c, mergeAll (daemonDefaults i t.withDefaults) (podLayers i t.withDefaults) = .ok merged
      ∧ t.withDefaults.IsDaemon c
      ∧ pod = merged.modifyContainer daemonContainer (settleResources i t.withDefaults)
      ∧ pod.IsDaemon (settleResources i t.withDefaults c) := by
  obtain ⟨c, hc⟩ := t.withDefaults.exists_isDaemon
  rw [buildPod_eq, assemblePod_eq] at h
  split at h
  · split at h
    · exact nomatch h
    · next merged hmerged =>
      have hpod := (Except.ok.inj h).symm
      refine ⟨merged, c, hmerged, hc, hpod, ?_⟩
      have hd : merged.spec.containers.filter (·.name == daemonContainer) = [c] := by
        rw [containers_mergeAll hmerged]
        exact hc
      rw [hpod]
      exact Pod.filter_modifyContainer (f := settleResources i t.withDefaults) (fun _ => rfl) hd
  · exact nomatch h

/-- Whether a pod can be built does not depend on what the instance asks for. -/
theorem buildPod_isOk_iff {i : Instance} {t : Template} :
    (∃ pod, buildPod i t = .ok pod) ↔ t.withDefaults.check.isValid = true
      ∧ ∃ merged, mergeAll (daemonDefaults i t.withDefaults) (podLayers i t.withDefaults)
        = .ok merged := by
  constructor
  · rintro ⟨pod, h⟩
    obtain ⟨merged, -, hmerged, -⟩ := buildPod_ok h
    refine ⟨?_, merged, hmerged⟩
    by_cases hvalid : t.withDefaults.check.isValid = true
    · exact hvalid
    · rw [buildPod_eq, if_neg hvalid] at h
      exact nomatch h
  · rintro ⟨hvalid, merged, hmerged⟩
    refine ⟨merged.modifyContainer daemonContainer (settleResources i t.withDefaults), ?_⟩
    rw [buildPod_eq, if_pos hvalid, assemblePod_eq, hmerged]

/-- A template that breaks a rule is refused, and with any other only merging can fail. -/
theorem buildPod_cases (i : Instance) (t : Template) :
    (¬ t.withDefaults.check.isValid = true
        ∧ buildPod i t = .error (.validation t.withDefaults.check.summary))
      ∨ (t.withDefaults.check.isValid = true
        ∧ ((∃ pod, buildPod i t = .ok pod) ∨ ∃ m, buildPod i t = .error (.merge m))) := by
  rw [buildPod_eq, assemblePod_eq]
  by_cases hvalid : t.withDefaults.check.isValid = true
  · rw [if_pos hvalid]
    refine Or.inr ⟨hvalid, ?_⟩
    cases mergeAll (daemonDefaults i t.withDefaults) (podLayers i t.withDefaults) with
    | error m => exact Or.inr ⟨m, rfl⟩
    | ok merged => exact Or.inl ⟨_, rfl⟩
  · rw [if_neg hvalid]
    exact Or.inl ⟨hvalid, rfl⟩

/-- A pod that a computation says can be built. -/
theorem exists_pod {i : Instance} {t : Template} (h : (buildPod i t).isOk = true) :
    ∃ pod, buildPod i t = .ok pod :=
  exists_of_isOk h

end BuildFleet
