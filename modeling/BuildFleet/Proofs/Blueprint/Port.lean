import BuildFleet.Operator.Outcome
import BuildFleet.Proofs.Blueprint.Conversion
import BuildFleet.Proofs.Merge.Retention
import BuildFleet.Proofs.Operator.Endpoint

/-!
# The port of a built pod

The operator takes the first port of a pod's first container for the port of the daemon
(`ObservedPod.ofPod`). That this is the port that the daemon was told to listen on depends on how
the pod comes about. The defaults begin with the daemon's container and that with its port; no layer
removes what stands first in a keyed list or changes the number of a port; and turning the pod into
one of the API keeps lists in order.

> `buildPod_leads`: a built pod still begins with the daemon's container and its port
> (`Pod.LeadsWith`);
> `Pod.LeadsWith.observed`: that port is what is observed in the pod of the API;
> `buildPod_port`: so what is published for a pod leads to the port of the template.
-/

namespace BuildFleet

/-- The first container is the daemon's, no other has its name, and the port is the first one that
it declares. -/
def Pod.LeadsWith (p : Pod) (port : Int) : Prop :=
  ∃ c cs, p.spec.containers = c :: cs ∧ c.name = daemonContainer
    ∧ (∀ d ∈ cs, d.name ≠ daemonContainer)
    ∧ ∃ q qs, c.ports = q :: qs ∧ q.containerPort = port

/-! ## What stands first -/

/-- A container that retains another one's ports begins with the same port. -/
theorem Container.first_port_of_retains {c d : Container} (h : rules.Retains c d)
    {p : ContainerPort} {ps : List ContainerPort} (hp : c.ports = p :: ps) :
    ∃ q qs, d.ports = q :: qs ∧ q.containerPort = p.containerPort := by
  have hports : (ContainerPort.rules.keyed ContainerPort.mergeKey).Retains c.ports d.ports :=
    h (.field "ports") _ rfl
  obtain ⟨q, qs, hq, -, hretains⟩ := exists_cons_of_retains hports hp
  have hnumber : q.containerPort = p.containerPort := hretains (.field "containerPort") _ rfl
  exact ⟨q, qs, hq, hnumber⟩

/-- A pod that retains another one's containers begins with the same container. -/
theorem Pod.first_container_of_retains {p v : Pod} (h : rules.Retains p v) {c : Container}
    {cs : List Container} (hc : p.spec.containers = c :: cs) :
    ∃ d ds, v.spec.containers = d :: ds ∧ d.name = c.name ∧ Container.rules.Retains c d := by
  have hspec : PodSpec.rules.Retains p.spec v.spec := h (.field "spec") _ rfl
  have hcontainers : (Container.rules.keyed Container.mergeKey).Retains p.spec.containers
      v.spec.containers := hspec (.field "containers") _ rfl
  exact exists_cons_of_retains hcontainers hc

/-- A pod that was built begins with the daemon's container, and that with the template's port. -/
theorem buildPod_leads {i : Instance} {t : Template} {pod : Pod} (h : buildPod i t = .ok pod) :
    pod.LeadsWith t.withDefaults.spec.port := by
  obtain ⟨merged, c, hmerged, -, rfl, hdaemon⟩ := buildPod_ok h
  have hretains : Pod.rules.Retains (daemonDefaults i t.withDefaults) merged :=
    Pod.composed.retains_mergeAll hmerged
  obtain ⟨d, ds, hcontainers, hdefault, hd⟩ := Pod.first_container_of_retains hretains rfl
  obtain ⟨q, qs, hports, hnumber⟩ := Container.first_port_of_retains hd rfl
  have hname : d.name = daemonContainer := hdefault
  have hsettled : (merged.modifyContainer daemonContainer
      (settleResources i t.withDefaults)).spec.containers
      = settleResources i t.withDefaults d :: ds := by
    show Pod.modifyContainer.go _ _ merged.spec.containers = _
    rw [hcontainers, Pod.modifyContainer.go, if_pos hname]
  have hothers : ∀ e ∈ ds, e.name ≠ daemonContainer := by
    unfold Pod.IsDaemon at hdaemon
    have hsame : (settleResources i t.withDefaults d).name = daemonContainer := hname
    rw [hsettled, List.filter_cons_of_pos (by simpa using hsame), List.cons_eq_cons] at hdaemon
    intro e he hename
    exact List.filter_eq_nil_iff.mp hdaemon.2 e he (beq_iff_eq.mpr hename)
  exact ⟨_, ds, hsettled, hname, hothers, q, qs, hports, hnumber⟩

/-! ## What is observed -/

/-- The first of a list that is said by a JSON value is said by the first item there. -/
theorem Slot.exists_of_foundIn_list {α : Type} {f : Form α} {x : α} {xs : List α} {o : Option Json}
    (h : (list f).FoundIn (x :: xs) o) : ∃ j js, o = some (.arr (j :: js)) ∧ f.FoundIn x j := by
  obtain ⟨_, ho, items, rfl, hitems⟩ := h rfl
  obtain ⟨j, js, hj, -, rfl⟩ := List.forall₂_cons_left_iff.mp hitems
  exact ⟨j, js, ho, hj⟩

/-- What is observed in a pod of the API is the port that the built pod leads with, whatever its
metadata and status are. -/
theorem Pod.LeadsWith.observed {p : Pod} {port : Int} (hleads : p.LeadsWith port)
    (hreads : Pod.form.ReadsBack p) {owner : Option OwnerReference} {api seen : ApiPod}
    (hapi : p.toApi? owner = some api) (hseen : seen.spec = api.spec) :
    (ObservedPod.ofPod seen).port = some port := by
  obtain ⟨c, cs, hcontainers, -, -, q, qs, hports, rfl⟩ := hleads
  obtain ⟨-, hspecReads⟩ := Pod.readsBack_iff.mp hreads
  obtain ⟨spec, hspec, hconform⟩ := Pod.spec_toApi? hapi
  -- the first container of the list, the first of its ports, and the number of that
  have hfound : PodSpec.form.FoundIn p.spec spec := PodSpec.fits p.spec spec hspecReads hconform
  have hlist : (Slot.list Container.form).FoundIn p.spec.containers (spec.member? "containers") :=
    hfound.2 ("containers", ⟨(·.containers), .list Container.form⟩) (by simp [PodSpec.format])
  rw [hcontainers] at hlist
  obtain ⟨container, others, hcontainer, hc⟩ := Slot.exists_of_foundIn_list hlist
  have hportList : (Slot.list ContainerPort.form).FoundIn c.ports (container.member? "ports") :=
    hc.2 ("ports", ⟨(·.ports), .list ContainerPort.form⟩) (by simp [Container.format])
  rw [hports] at hportList
  obtain ⟨first, rest, hfirst, hq⟩ := Slot.exists_of_foundIn_list hportList
  obtain ⟨_, hnumber, rfl⟩ := hq.2 ("containerPort", ⟨(·.containerPort), .required .int32⟩)
    (by simp [ContainerPort.format])
  have hport : (ObservedPod.ofPod seen).port = (Json.int q.containerPort).int32? := by
    unfold ObservedPod.ofPod
    simp only [hseen, hspec, ObservedPod.firstOf?_eq_some_iff.mpr ⟨_, hcontainer⟩,
      ObservedPod.firstOf?_eq_some_iff.mpr ⟨_, hfirst⟩, Option.mem_def.mp hnumber,
      Option.bind_eq_bind, Option.bind_some]
  rw [hport]
  -- the number is in its range, since it is read back
  obtain ⟨-, hcontainersRead, -⟩ := PodSpec.readsBack_iff.mp hspecReads
  have hcReads : Container.form.ReadsBack c :=
    hcontainersRead c (hcontainers ▸ List.mem_cons_self)
  obtain ⟨-, -, hportsRead, -⟩ := Container.readsBack_iff.mp hcReads
  obtain ⟨-, hfields⟩ :=
    ContainerPort.describes.readsBack_iff.mp (hportsRead q (hports ▸ List.mem_cons_self))
  exact hfields ("containerPort", ⟨(·.containerPort), .required .int32⟩)
    (by simp [ContainerPort.format])

/-- The pod of an instance begins with the container and the port of the daemon, which is the
template's port or 1234 if that is zero. If the template was read, then this is the port that is
observed in the API, whatever becomes there of the pod's metadata and status, and what is published
is this port of the pod's address. -/
theorem buildPod_port {i : Instance} {t : Template} {pod : Pod} (hpod : buildPod i t = .ok pod) :
    let port := if t.spec.port = 0 then 1234 else t.spec.port
    pod.LeadsWith port ∧ ∀ j, Template.ofJson? j = some t →
      ∀ owner api, pod.toApi? owner = some api → ∀ seen : ApiPod, seen.spec = api.spec →
        (ObservedPod.ofPod seen).port = some port
          ∧ ∀ backoff endpoint, (ObservedPod.ofPod seen).evaluate backoff = .done endpoint →
            ∃ ip, (ObservedPod.ofPod seen).podIp = some ip ∧ endpoint = endpointText ip port := by
  intro port
  have hleads : pod.LeadsWith port := buildPod_leads hpod
  refine ⟨hleads, ?_⟩
  intro j ht owner api hapi seen hseen
  have hport : (ObservedPod.ofPod seen).port = some port :=
    hleads.observed (buildPod_readsBack ht hpod) hapi hseen
  refine ⟨hport, ?_⟩
  intro backoff endpoint hdone
  have hendpoint : (ObservedPod.ofPod seen).endpoint? = some endpoint :=
    ObservedPod.evaluate_done hdone
  unfold ObservedPod.endpoint? at hendpoint
  obtain ⟨ip, hip, hendpoint⟩ := Option.bind_eq_some_iff.mp hendpoint
  rw [hport] at hendpoint
  exact ⟨ip, hip, (Option.some.inj hendpoint).symm⟩

/-- A partial pod that lists another container first, and the daemon's with a port of its own before
the one it has, which it renames. -/
theorem buildPod_port_sidecar :
    let i : Instance := { spec := { template := "default" } }
    let j : Json := .obj [
      ("metadata", .obj [("name", .str "default")]),
      ("spec", .obj [
        ("port", .int 8372),
        ("podTemplate", .obj [
          ("spec", .obj [
            ("containers", .arr [
              .obj [("name", .str "proxy"), ("ports", .arr [.obj [("containerPort", .int 80)]])],
              .obj [
                ("name", .str "buildkit"),
                ("ports", .arr [
                  .obj [("containerPort", .int 9090), ("hostPort", .int 9090)],
                  .obj [("containerPort", .int 8372), ("name", .str "grpc")]])]])])])])]
    let status : Json := .obj [("phase", .str "Running"), ("podIP", .str "10.0.0.7")]
    ∃ t pod api, Template.ofJson? j = some t ∧ buildPod i t = .ok pod ∧ pod.toApi? none = some api
      ∧ pod.LeadsWith 8372
      ∧ (ObservedPod.ofPod { api with status := some status }).evaluate 5
        = .done (endpointText "10.0.0.7" 8372) := by
  intro i j status
  have hport : (Template.ofJson? j).map (·.spec.port) = some 8372 := by decide
  have hrun : ((Template.ofJson? j).bind fun t => (buildPod i t).toOption.bind fun pod =>
      (pod.toApi? none).map fun api =>
        let seen := ObservedPod.ofPod { api with status := some status }
        (seen.podIp, seen.evaluate 5))
      = some (some "10.0.0.7", .done "tcp://10.0.0.7:8372") := by decide
  obtain ⟨t, ht, hrun⟩ := Option.bind_eq_some_iff.mp hrun
  obtain ⟨pod, hpod, hrun⟩ := Option.bind_eq_some_iff.mp hrun
  obtain ⟨api, hapi, hrun⟩ := Option.map_eq_some_iff.mp hrun
  have hok : buildPod i t = .ok pod := eq_ok_of_toOption hpod
  have hspec : t.spec.port = 8372 := by
    rw [ht] at hport
    exact Option.some.inj hport
  have hnumber : (if t.spec.port = 0 then 1234 else t.spec.port) = 8372 := by
    rw [hspec]
    rfl
  obtain ⟨hleads, hobserved⟩ := buildPod_port hok
  rw [hnumber] at hleads hobserved
  obtain ⟨-, hdone⟩ := hobserved j ht none api hapi { api with status := some status } rfl
  obtain ⟨hip, hevaluate⟩ := Prod.mk.inj hrun
  obtain ⟨ip, hip', hendpoint⟩ := hdone 5 _ hevaluate
  obtain rfl := Option.some.inj (hip.symm.trans hip')
  exact ⟨t, pod, api, ht, hok, hapi, hleads, hendpoint ▸ hevaluate⟩

end BuildFleet
