import BuildFleet.Proofs.Blueprint.Artifacts
import BuildFleet.Proofs.Merge.Gathering

/-!
# What the daemon may do

A template runs its daemon with all rights, or without root and with what a user may do
(`daemonRights`), and each of the two has its own places for state and configuration. Only the
partial pod can change that, in the entries that it has for the daemon's container
(`Template.daemonEntries`). All of them are laid over the default container one after the other,
wherever they stand and however many there are:

> `layAll_daemonEntries`: this is how the daemon's container comes about;
> `buildPod_rights`: so a daemon is as its mode says wherever no entry speaks of it, and the last
> entry that says whether it is privileged decides that.
-/

namespace BuildFleet

/-- Whether the container says that it is privileged or that it is not. -/
def Container.privileged? (c : Container) : Option Bool := c.securityContext.bind (·.privileged)

/-- The entries that the partial pod has for the daemon's container. -/
def Template.daemonEntries (t : Template) : List Container :=
  (t.spec.podTemplate.getD .empty).spec.containers.filter (·.name == daemonContainer)

/-! ## Layers of the daemon's container -/

/-- The containers of merged layers are all containers of the layers, laid as one list. -/
theorem Pod.lay_containers_mergeAll : ∀ {layers : List Pod} {base v : Pod},
    mergeAll base layers = .ok v → (Container.rules.keyed Container.mergeKey).lay
      base.spec.containers (layers.flatMap (·.spec.containers)) = some v.spec.containers
  | [], base, v, h => by
    obtain rfl := Except.ok.inj h
    rfl
  | layer :: layers, base, v, h => by
    obtain ⟨x, hx, h⟩ := mergeAll_cons_eq_ok_iff.mp h
    have hspec : PodSpec.rules.lay base.spec layer.spec = some x.spec :=
      (Pod.fieldwise.partwise.lay_iff _ _ _).mp hx (.field "spec") _ rfl
    have hcontainers : (Container.rules.keyed Container.mergeKey).lay base.spec.containers
        layer.spec.containers = some x.spec.containers :=
      (PodSpec.fieldwise.partwise.lay_iff _ _ _).mp hspec (.field "containers") _ rfl
    rw [List.flatMap_cons, Rules.lay_keyed_append, hcontainers, Option.bind_some]
    exact Pod.lay_containers_mergeAll h

/-- What the layers have for the daemon's container: the settings, and then the entries of the
partial pod. -/
theorem filter_podLayers (i : Instance) (t : Template) :
    ((podLayers i t).flatMap (·.spec.containers)).filter (·.name == daemonContainer)
      = (settingsLayer t).spec.containers ++ t.daemonEntries := by
  have hsettings : (settingsLayer t).spec.containers.filter (·.name == daemonContainer)
      = (settingsLayer t).spec.containers := List.filter_eq_self.mpr (by simp [settingsLayer])
  have hidentity : (identityLayer i).spec.containers = [] := rfl
  simp only [podLayers, List.flatMap_cons, List.flatMap_nil, List.filter_append, hsettings,
    hidentity, List.append_nil]
  rfl

/-- The daemon's container is the default one with the settings and the entries of the partial pod
laid over it, one after the other. -/
theorem layAll_daemonEntries {i : Instance} {t : Template} {merged : Pod} {c : Container}
    (h : mergeAll (daemonDefaults i t) (podLayers i t) = .ok merged) (hc : merged.IsDaemon c) :
    Container.rules.layAll (some (daemonDefault t))
      ((settingsLayer t).spec.containers ++ t.daemonEntries) = some (some c) := by
  have hall := Rules.layAll_keyed Container.keepsKey (k := daemonContainer)
    (Pod.lay_containers_mergeAll h)
  have hfound : merged.spec.containers.find? (Container.mergeKey · == daemonContainer) = some c := by
    rw [← List.head?_filter]
    exact congrArg List.head? hc
  rw [hfound] at hall
  rw [← filter_podLayers i t]
  exact hall

/-- Where each layer is heard over the one below, the last one that says something decides. -/
theorem Rules.getLast?_of_layAll {α β : Type} {r : Rules α} {f : α → Option β}
    (hf : ∀ b l v, r.lay b l = some v → f v = (f l).or (f b)) : ∀ {l : List α} {z w : α},
    r.layAll (some z) l = some (some w) → f w = (l.filterMap f).getLast?.or (f z)
  | [], z, w, h => by
    obtain rfl : z = w := Option.some.inj (Option.some.inj h)
    rfl
  | x :: l, z, w, h => by
    rw [Rules.layAll, Rules.lay_optional_some] at h
    obtain ⟨o, ho, h⟩ := Option.bind_eq_some_iff.mp h
    obtain ⟨y, hy, rfl⟩ := Option.map_eq_some_iff.mp ho
    rw [Rules.getLast?_of_layAll hf h, hf z x y hy, ← Option.or_assoc, List.filterMap_cons]
    cases f x with
    | none => rw [Option.or_none]
    | some b => rw [List.getLast?_cons, Option.or_some]

/-! ## Privileges -/

/-- A flag of a layer wins over the one of the base, and without one the base keeps its own. -/
theorem Rules.lay_optional_flag {b l v : Option Bool} (h : Rules.flag.optional.lay b l = some v) :
    v = l.or b := by
  rcases Rules.lay_optional_cases h with ⟨rfl, rfl⟩ | ⟨rfl, rfl⟩ | ⟨x, y, w, rfl, rfl, rfl, hw⟩
  · exact Option.or_none.symm
  · rfl
  · exact congrArg some (Option.some.inj hw).symm

/-- A container that says whether it is privileged is heard over the one below. -/
theorem Container.privileged?_of_lay {b l v : Container} (h : rules.lay b l = some v) :
    v.privileged? = l.privileged?.or b.privileged? := by
  have hcontext : SecurityContext.rules.optional.lay b.securityContext l.securityContext
      = some v.securityContext :=
    (fieldwise.partwise.lay_iff _ _ _).mp h (.field "securityContext") _ rfl
  unfold privileged?
  rcases Rules.lay_optional_cases hcontext with ⟨hb, hv⟩ | ⟨hl, hv⟩ | ⟨x, y, w, hb, hl, hv, hw⟩
  · rw [hb, hv]
    exact Option.or_none.symm
  · rw [hl, hv]
    rfl
  · rw [hb, hl, hv]
    exact Rules.lay_optional_flag
      ((SecurityContext.fieldwise.partwise.lay_iff _ _ _).mp hw (.field "privileged") _ rfl)

/-- The default container asks for all rights unless the template is one without root. -/
theorem privileged?_daemonDefault (t : Template) :
    (daemonDefault t).privileged? = if t.spec.rootless then none else some true := by
  show (daemonRights t.spec.rootless).privileged = _
  cases t.spec.rootless <;> rfl

/-- The last entry that says whether the daemon is privileged decides that, and else its mode. -/
theorem privileged?_of_mergeAll {i : Instance} {t : Template} {merged : Pod} {c : Container}
    (h : mergeAll (daemonDefaults i t) (podLayers i t) = .ok merged) (hc : merged.IsDaemon c) :
    c.privileged? = (t.daemonEntries.filterMap Container.privileged?).getLast?.or
      (if t.spec.rootless then none else some true) := by
  have hlast := Rules.getLast?_of_layAll (f := Container.privileged?)
    (fun _ _ _ hv => Container.privileged?_of_lay hv) (layAll_daemonEntries h hc)
  have hsettings : (settingsLayer t).spec.containers.filterMap Container.privileged? = [] := rfl
  rw [List.filterMap_append, hsettings, List.nil_append, privileged?_daemonDefault] at hlast
  exact hlast

/-! ## What the entries leave alone -/

/-- The security context stays as it is under layers that set none. -/
theorem Container.withstands_securityContext (context : Option SecurityContext) :
    rules.Withstands (fun c => c.securityContext = context) (fun c => c.securityContext = none) :=
  fieldwise.withstands
    (e := (.field "securityContext", ⟨(·.securityContext), .optional SecurityContext.rules⟩))
    (by simp [parts]) (Rules.withstands_optional_none SecurityContext.rules context)

/-- What the default container has, and withstands the entries of the partial pod as well as the
settings, the daemon's container has. -/
theorem isDaemon_of_withstands {P Q : Container → Prop} (h : Container.rules.Withstands P Q)
    {i : Instance} {t : Template} {merged : Pod} {c : Container}
    (hmerged : mergeAll (daemonDefaults i t) (podLayers i t) = .ok merged) (hc : merged.IsDaemon c)
    (hdefault : P (daemonDefault t)) (hsettings : ∀ e ∈ (settingsLayer t).spec.containers, Q e)
    (hentries : ∀ e ∈ t.daemonEntries, Q e) : P c := by
  have hlayers : ∀ p ∈ podLayers i t, ∀ e ∈ p.spec.containers, e.name = daemonContainer → Q e := by
    refine List.forall_mem_cons.mpr ⟨fun e he _ => hsettings e he, List.forall_mem_cons.mpr
      ⟨?_, List.forall_mem_singleton.mpr fun e he => absurd he List.not_mem_nil⟩⟩
    intro e he hname
    exact hentries e (List.mem_filter.mpr ⟨he, beq_iff_eq.mpr hname⟩)
  obtain ⟨d, hd, hP⟩ :=
    (Pod.withstands_daemon h).mergeAll hmerged ⟨daemonDefault t, rfl, hdefault⟩ hlayers
  exact hc.unique hd ▸ hP

/-- The mounts of the default container: its state, and then its artifacts. -/
theorem volumeMounts_daemonDefault (t : Template) : (daemonDefault t).volumeMounts
    = { name := stateVolume, mountPath := statePath t.spec.rootless }
      :: (((Artifact.derive? t .daemonConfig).map fun _ =>
          ArtifactKind.daemonConfig.mount t.spec.rootless).toList
        ++ ((Artifact.derive? t .scripts).map fun _ =>
          ArtifactKind.scripts.mount t.spec.rootless).toList) := by
  show _ :: (artifactVolumes t).map (·.2) = _
  unfold artifactVolumes ArtifactKind.all
  simp only [List.filterMap_cons, List.filterMap_nil, artifactVolume_eq]
  cases Artifact.derive? t .daemonConfig <;> cases Artifact.derive? t .scripts <;> rfl

/-- At the places of a mode, the default container mounts state and configuration if it is in that
mode, and nothing if it is in the other one. -/
theorem filter_volumeMounts_daemonDefault (t : Template) (mode : Bool) :
    (daemonDefault t).volumeMounts.filter (·.mountPath == statePath mode)
        = (if mode = t.spec.rootless then [{ name := stateVolume, mountPath := statePath mode }]
          else [])
      ∧ (daemonDefault t).volumeMounts.filter (·.mountPath == configPath mode)
        = if mode = t.spec.rootless ∧ t.spec.buildkitdToml ≠ "" then
          [{ name := configVolume, mountPath := configPath mode }] else [] := by
  have hconfig : (Artifact.derive? t .daemonConfig).isSome = decide (t.spec.buildkitdToml ≠ "") := by
    unfold Artifact.derive?
    by_cases h : t.spec.buildkitdToml = ""
    · simp [h]
    · simp [h]
  rw [volumeMounts_daemonDefault]
  generalize Artifact.derive? t .daemonConfig = config at hconfig ⊢
  generalize Artifact.derive? t .scripts = scripts
  generalize t.spec.rootless = rootless
  cases config with
  | none =>
    have hnone : t.spec.buildkitdToml = "" := by simpa using hconfig
    rw [hnone]
    cases scripts <;> cases mode <;> cases rootless <;> exact ⟨rfl, rfl⟩
  | some a =>
    have hsome : t.spec.buildkitdToml ≠ "" := by simpa using hconfig
    simp only [hsome, ne_eq, not_false_eq_true, and_true]
    cases scripts <;> cases mode <;> cases rootless <;> exact ⟨rfl, rfl⟩

/-! ## What a built pod may do -/

/-- In a built pod, the daemon has the rights of its mode if no entry of the partial pod speaks of
rights, and at the places of its mode its state and its configuration, if there is one, where no
entry mounts something else; at those of the other mode there is nothing then. The last entry that
says whether it is privileged decides that, so it is only if its mode is, or an entry asks for it. -/
theorem buildPod_rights {i : Instance} {t : Template} {pod : Pod} (h : buildPod i t = .ok pod) :
    ∃ c, pod.IsDaemon c
      ∧ ((∀ e ∈ t.daemonEntries, e.securityContext = none) →
        c.securityContext = some (if t.spec.rootless then
          { runAsUser := some 1000
            runAsGroup := some 1000
            seccompProfile := some { type := "Unconfined" }
            appArmorProfile := some { type := "Unconfined" } }
        else { privileged := some true }))
      ∧ (∀ mode, (∀ e ∈ t.daemonEntries, ∀ m ∈ e.volumeMounts, m.mountPath ≠ statePath mode) →
        c.volumeMounts.filter (·.mountPath == statePath mode)
          = if mode = t.spec.rootless then [{ name := "buildkitd", mountPath := statePath mode }]
            else [])
      ∧ (∀ mode, (∀ e ∈ t.daemonEntries, ∀ m ∈ e.volumeMounts, m.mountPath ≠ configPath mode) →
        c.volumeMounts.filter (·.mountPath == configPath mode)
          = if mode = t.spec.rootless ∧ t.spec.buildkitdToml ≠ "" then
            [{ name := "config", mountPath := configPath mode }] else [])
      ∧ c.privileged? = (t.daemonEntries.filterMap Container.privileged?).getLast?.or
        (if t.spec.rootless then none else some true)
      ∧ (c.privileged? = some true →
        t.spec.rootless = false ∨ ∃ e ∈ t.daemonEntries, e.privileged? = some true) := by
  obtain ⟨merged, c, hmerged, hc, rfl, hdaemon⟩ := buildPod_ok h
  have hmergedDaemon : merged.IsDaemon c := by
    unfold Pod.IsDaemon
    rw [containers_mergeAll hmerged]
    exact hc
  have hdecides := privileged?_of_mergeAll hmerged hmergedDaemon
  -- settling resources changes neither rights nor mounts
  refine ⟨settleResources i t.withDefaults c, hdaemon, ?_, ?_, ?_, ?_, ?_⟩
  · intro hentries
    have hrights : c.securityContext = some (daemonRights t.spec.rootless) :=
      isDaemon_of_withstands (Container.withstands_securityContext _) hmerged hmergedDaemon rfl
        (List.forall_mem_singleton.mpr rfl) hentries
    exact hrights
  · intro mode hentries
    have hmounts := isDaemon_of_withstands (Container.withstands_mounts (statePath mode) _) hmerged
      hmergedDaemon (filter_volumeMounts_daemonDefault t.withDefaults mode).1
      (List.forall_mem_singleton.mpr fun m hm => absurd hm List.not_mem_nil) hentries
    exact hmounts
  · intro mode hentries
    have hmounts := isDaemon_of_withstands (Container.withstands_mounts (configPath mode) _) hmerged
      hmergedDaemon (filter_volumeMounts_daemonDefault t.withDefaults mode).2
      (List.forall_mem_singleton.mpr fun m hm => absurd hm List.not_mem_nil) hentries
    exact hmounts
  · exact hdecides
  · intro hprivileged
    have hor := hdecides.symm.trans hprivileged
    rcases Option.or_eq_some_iff.mp hor with hlast | ⟨-, hmode⟩
    · obtain ⟨e, he, hasks⟩ := List.mem_filterMap.mp (List.mem_of_getLast? hlast)
      exact Or.inr ⟨e, he, hasks⟩
    · have hrootless : ¬ t.spec.rootless = true := (Option.ite_none_left_eq_some.mp hmode).1
      exact Or.inl (Bool.eq_false_iff.mpr hrootless)

/-- A daemon without root that the partial pod lists twice, next to a container that is privileged.
It is so itself only if one of its entries asks for it. -/
theorem buildPod_rights_repeated :
    let i : Instance := {
      metadata := { name := some "my-build", ns := some "ci" }
      spec := { template := "default" } }
    let t (rights : Option SecurityContext) : Template := {
      metadata := { name := some "default", ns := some "ci" }
      spec := {
        rootless := true
        buildkitdToml := "debug = true"
        podTemplate := some {
          spec := {
            containers := [
              { name := "proxy", securityContext := some { privileged := some true } },
              { name := daemonContainer, securityContext := rights },
              { name := daemonContainer
                volumeMounts := [{ name := "cache", mountPath := "/cache" }] }]
            volumes := [{ name := "cache", emptyDir := some {} }] } } } }
    (∃ pod c, buildPod i (t none) = .ok pod ∧ pod.IsDaemon c
      ∧ c.securityContext = some {
        runAsUser := some 1000
        runAsGroup := some 1000
        seccompProfile := some { type := "Unconfined" }
        appArmorProfile := some { type := "Unconfined" } }
      ∧ c.volumeMounts.filter (·.mountPath == "/home/user/.local/share/buildkit")
        = [{ name := "buildkitd", mountPath := "/home/user/.local/share/buildkit" }]
      ∧ c.volumeMounts.filter (·.mountPath == "/home/user/.config/buildkit")
        = [{ name := "config", mountPath := "/home/user/.config/buildkit" }]
      ∧ c.volumeMounts.filter (·.mountPath == "/etc/buildkit") = [])
    ∧ ∃ pod c, buildPod i (t (some { privileged := some true })) = .ok pod ∧ pod.IsDaemon c
      ∧ c.privileged? = some true := by
  intro i t
  have hmounts : ∀ path, path ≠ "/cache" →
      ∀ e ∈ (t none).daemonEntries, ∀ m ∈ e.volumeMounts, m.mountPath ≠ path := by
    intro path hpath
    refine List.forall_mem_cons.mpr ⟨fun m hm => absurd hm List.not_mem_nil, ?_⟩
    exact List.forall_mem_singleton.mpr (List.forall_mem_singleton.mpr hpath.symm)
  constructor
  · obtain ⟨pod, hpod⟩ := exists_pod (i := i) (t := t none) (by decide +kernel)
    obtain ⟨c, hc, hrights, hstate, hconfig, -⟩ := buildPod_rights hpod
    refine ⟨pod, c, hpod, hc, hrights ?_, hstate true (hmounts _ (by decide)),
      hconfig true (hmounts _ (by decide)), hconfig false (hmounts _ (by decide))⟩
    exact List.forall_mem_cons.mpr ⟨rfl, List.forall_mem_singleton.mpr rfl⟩
  · obtain ⟨pod, hpod⟩ :=
      exists_pod (i := i) (t := t (some { privileged := some true })) (by decide +kernel)
    obtain ⟨c, hc, -, -, -, hprivileged, -⟩ := buildPod_rights hpod
    exact ⟨pod, c, hpod, hc, hprivileged⟩

end BuildFleet
