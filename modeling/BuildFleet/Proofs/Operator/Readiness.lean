import BuildFleet.Operator.Outcome
import BuildFleet.Proofs.Kubernetes.Given

/-!
# When a daemon is taken to serve

A pod is looked at through a few of its parts, and a pod that is on its way lacks some of them. A
phase or an address that is missing counts as one that is not there yet. Readiness is looked at
where the status speaks of it: every container that has a status has to be ready, and one that has
none is not missed.

> `ObservedPod.evaluate_done_iff`: a daemon is taken to serve exactly if its pod runs, has an
> address and a first port, and no container status says otherwise (`ApiPod.Serves`). Then all of
> its containers are ready (`ApiPod.AllReady`) exactly if each of them has a status
> (`ApiPod.Covered`).

> `ObservedPod.evaluate_unreported`: a pod whose only container has no status yet is taken to serve.
-/

namespace BuildFleet

namespace Json

/-- Only lists have items. -/
theorem items?_eq_some_iff {j : Json} {items : List Json} : j.items? = some items ↔ j = .arr items := by
  cases j with
  | arr items' => rw [items?, Option.some.injEq, arr.injEq]
  | _ => exact iff_of_false (fun h => nomatch h) (fun h => nomatch h)

/-- The items of a list in an object; none if object or list are absent. -/
def itemsOf (o : Option Json) (name : String) : List Json :=
  ((o.bind fun j => j.member? name).bind items?).getD []

/-- A list has a first item if it is there and is not empty. -/
theorem itemsOf_eq_cons_iff {o : Option Json} {name : String} {x : Json} {xs : List Json} :
    itemsOf o name = x :: xs ↔ ∃ j, o = some j ∧ j.member? name = some (.arr (x :: xs)) := by
  unfold itemsOf
  constructor
  · intro h
    rcases Option.getD_eq_iff.mp h with h | ⟨-, h⟩
    · obtain ⟨w, hw, hitems⟩ := Option.bind_eq_some_iff.mp h
      obtain ⟨j, hj, hw⟩ := Option.bind_eq_some_iff.mp hw
      obtain rfl := items?_eq_some_iff.mp hitems
      exact ⟨j, hj, hw⟩
    · exact nomatch h
  · intro h
    obtain ⟨j, rfl, hw⟩ := h
    rw [Option.bind_some, hw]
    rfl

/-- The items of a list in a field conform if the object does. -/
theorem conforms_itemsOf {object s : Shape} {o : Option Json} {name : String}
    (hfield : object.HasField name (.list s)) (ho : ∀ j ∈ o, object.Conforms j) :
    ∀ x ∈ itemsOf o name, s.Conforms x := by
  intro x hx
  obtain ⟨y, ys, hitems⟩ := List.exists_cons_of_ne_nil (List.ne_nil_of_mem hx)
  obtain ⟨j, rfl, hmember⟩ := itemsOf_eq_cons_iff.mp hitems
  obtain ⟨items, heq, hconforms⟩ := (hfield.gives (ho j rfl) hmember).exists_arr
  obtain rfl := Json.arr.inj heq
  exact hconforms x (hitems ▸ hx)

end Json

namespace ApiPod

/-- What the status has under a name. -/
def statusMember? (p : ApiPod) (name : String) : Option Json :=
  p.status.bind fun s => s.member? name

/-- The statuses of containers. -/
def containerStatuses (p : ApiPod) : List Json := Json.itemsOf p.status "containerStatuses"

/-- The containers that the pod declares. -/
def containers (p : ApiPod) : List Json := Json.itemsOf p.spec "containers"

/-- The first port of the first container. -/
def LeadsWith (p : ApiPod) (port : Int) : Prop :=
  ∃ c cs q qs, p.containers = c :: cs ∧ c.member? "ports" = some (.arr (q :: qs))
    ∧ q.member? "containerPort" = some (.int port)

/-- The pod runs and can be reached, and no container is said not to be ready. -/
structure Serves (p : ApiPod) (ip : String) (port : Int) : Prop where
  running : p.statusMember? "phase" = some (.str "Running")
  address : p.statusMember? "podIP" = some (.str ip)
  nonempty : ip ≠ ""
  leads : p.LeadsWith port
  ready : ∀ s ∈ p.containerStatuses, s.member? "ready" = some (.bool true)

/-- The name of a container, which its status has as well. -/
def containerName? (j : Json) : Option String := (j.member? "name").bind Json.text?

/-- Every container that the pod declares has a status. -/
def Covered (p : ApiPod) : Prop :=
  ∀ c ∈ p.containers, ∃ s ∈ p.containerStatuses, containerName? s = containerName? c

instance (p : ApiPod) : Decidable p.Covered :=
  inferInstanceAs (Decidable (∀ c ∈ p.containers, ∃ s ∈ p.containerStatuses,
    containerName? s = containerName? c))

/-- Every container that the pod declares has a status that says that it is ready. -/
def AllReady (p : ApiPod) : Prop :=
  ∀ c ∈ p.containers, ∃ s ∈ p.containerStatuses,
    containerName? s = containerName? c ∧ s.member? "ready" = some (.bool true)

/-- What serves is ready as far as it has statuses. -/
theorem Serves.allReady_iff {p : ApiPod} {ip : String} {port : Int} (h : p.Serves ip port) :
    p.AllReady ↔ p.Covered := by
  constructor
  · intro hready c hc
    obtain ⟨s, hs, hname, -⟩ := hready c hc
    exact ⟨s, hs, hname⟩
  · intro hcovered c hc
    obtain ⟨s, hs, hname⟩ := hcovered c hc
    exact ⟨s, hs, hname, h.ready s hs⟩

end ApiPod

/-! ## What is observed -/

namespace ObservedPod

variable {p : ApiPod}

/-- A text that is not empty is observed if the status has it. -/
theorem statusText_eq_iff {name t : String} (ht : t ≠ "") :
    statusText p name = t ↔ p.statusMember? name = some (.str t) := by
  unfold statusText ApiPod.statusMember?
  generalize p.status.bind (fun s => s.member? name) = o
  constructor
  · intro h
    cases o with
    | none => exact absurd h.symm ht
    | some j =>
      cases j with
      | str t' => exact congrArg (fun t => some (Json.str t)) h
      | _ => exact absurd h.symm ht
  · intro h
    rw [h]
    rfl

/-- The observed phase is that of the pod's status. -/
theorem phase_ofPod_iff : (ofPod p).phase = "Running"
    ↔ p.statusMember? "phase" = some (.str "Running") :=
  statusText_eq_iff (by decide)

/-- The observed address is that of the pod's status, if it is not empty. -/
theorem podIp_ofPod_iff {ip : String} : (ofPod p).podIp = some ip
    ↔ p.statusMember? "podIP" = some (.str ip) ∧ ip ≠ "" := by
  have hpodIp : (ofPod p).podIp
      = if (statusText p "podIP").isEmpty then none else some (statusText p "podIP") := rfl
  rw [hpodIp, Option.ite_none_left_eq_some, String.isEmpty_iff]
  constructor
  · intro h
    obtain ⟨hne, heq⟩ := h
    obtain rfl := Option.some.inj heq
    exact ⟨(statusText_eq_iff hne).mp rfl, hne⟩
  · intro h
    obtain ⟨hmember, hne⟩ := h
    rw [(statusText_eq_iff hne).mpr hmember]
    exact ⟨hne, rfl⟩

/-- The first item of a list is the one that is looked at. -/
theorem firstOf?_eq_some_iff {j x : Json} {name : String} :
    firstOf? j name = some x ↔ ∃ xs, j.member? name = some (.arr (x :: xs)) := by
  unfold firstOf?
  constructor
  · intro h
    obtain ⟨items, hitems, hx⟩ := Option.bind_eq_some_iff.mp h
    obtain ⟨w, hw, hitems⟩ := Option.bind_eq_some_iff.mp hitems
    obtain ⟨xs, rfl⟩ := List.head?_eq_some_iff.mp hx
    obtain rfl := Json.items?_eq_some_iff.mp hitems
    exact ⟨xs, hw⟩
  · intro h
    obtain ⟨xs, hw⟩ := h
    rw [hw]
    rfl

/-- The readiness of every container status is observed. -/
theorem exists_readiness {s : Json} (hs : PodFormat.containerStatus.Conforms s) :
    ∃ name ready, readiness? s = some (name, ready) ∧ s.member? "ready" = some (.bool ready) := by
  obtain ⟨n, hn, hname⟩ := PodFormat.containerStatus_name.exists_gives hs
  obtain ⟨r, hr, hready⟩ := PodFormat.containerStatus_ready.exists_gives hs
  obtain ⟨name, rfl⟩ := hname.exists_str
  obtain ⟨ready, rfl⟩ := hready.exists_bool
  refine ⟨name, ready, ?_, hr⟩
  unfold readiness?
  rw [hn, hr]
  rfl

end ObservedPod

section

variable {j : Json} {p : ApiPod} (h : ApiPod.ofJson? j = some p)
include h

/-- The statuses of a pod's containers have their shape. -/
theorem ApiPod.containerStatuses_conform :
    ∀ s ∈ p.containerStatuses, PodFormat.containerStatus.Conforms s :=
  Json.conforms_itemsOf PodFormat.podStatus_containerStatuses (conforms_of_ofJson? h).2

/-- The containers of a pod have their shape. -/
theorem ApiPod.containers_conform : ∀ c ∈ p.containers, PodFormat.container.Conforms c :=
  Json.conforms_itemsOf PodFormat.podSpec_containers (conforms_of_ofJson? h).1

namespace ObservedPod

/-- No container is seen not to be ready exactly if every status says that its container is. -/
theorem find?_containersReady_eq_none_iff :
    (ofPod p).containersReady.find? (fun c => !c.2) = none
      ↔ ∀ s ∈ p.containerStatuses, s.member? "ready" = some (.bool true) := by
  have hseen : (ofPod p).containersReady = p.containerStatuses.filterMap readiness? := rfl
  rw [hseen, List.find?_eq_none]
  constructor
  · intro hnone s hs
    obtain ⟨name, ready, hreadiness, hmember⟩ :=
      exists_readiness (ApiPod.containerStatuses_conform h s hs)
    have hnot := hnone _ (List.mem_filterMap.mpr ⟨s, hs, hreadiness⟩)
    cases ready with
    | true => exact hmember
    | false => exact absurd rfl hnot
  · intro hready c hc
    obtain ⟨s, hs, hc⟩ := List.mem_filterMap.mp hc
    obtain ⟨name, ready, hreadiness, hmember⟩ :=
      exists_readiness (ApiPod.containerStatuses_conform h s hs)
    obtain rfl := Option.some.inj (hc.symm.trans hreadiness)
    obtain rfl := Json.bool.inj (Option.some.inj (hmember.symm.trans (hready s hs)))
    exact Bool.false_ne_true

/-- The port that is observed is the first one of the first container. -/
theorem port_ofPod_iff {port : Int} : (ofPod p).port = some port ↔ p.LeadsWith port := by
  have hseen : (ofPod p).port = p.spec.bind fun spec => (firstOf? spec "containers").bind fun c =>
      (firstOf? c "ports").bind fun q => (q.member? "containerPort").bind Json.int32? := rfl
  rw [hseen]
  constructor
  · intro hport
    obtain ⟨spec, hspec, hport⟩ := Option.bind_eq_some_iff.mp hport
    obtain ⟨c, hc, hport⟩ := Option.bind_eq_some_iff.mp hport
    obtain ⟨q, hq, hport⟩ := Option.bind_eq_some_iff.mp hport
    obtain ⟨n, hn, hport⟩ := Option.bind_eq_some_iff.mp hport
    obtain ⟨cs, hcontainers⟩ := firstOf?_eq_some_iff.mp hc
    obtain ⟨qs, hports⟩ := firstOf?_eq_some_iff.mp hq
    refine ⟨c, cs, q, qs, Json.itemsOf_eq_cons_iff.mpr ⟨spec, hspec, hcontainers⟩, hports, ?_⟩
    exact Json.eq_int_of_int32? hport ▸ hn
  · intro hleads
    obtain ⟨c, cs, q, qs, hcs, hports, hn⟩ := hleads
    obtain ⟨spec, hspec, hcontainers⟩ := Json.itemsOf_eq_cons_iff.mp hcs
    -- the port conforms, so its number fits
    have hc := ApiPod.containers_conform h c (hcs ▸ List.mem_cons_self)
    obtain ⟨items, hitems, hconforms⟩ := (PodFormat.container_ports.gives hc hports).exists_arr
    obtain rfl := Json.arr.inj hitems
    obtain ⟨m, hm, hint⟩ := (PodFormat.containerPort_containerPort.gives
      (hconforms q List.mem_cons_self) hn).exists_int32
    obtain rfl := Json.int.inj hm
    rw [hspec, Option.bind_some, firstOf?_eq_some_iff.mpr ⟨cs, hcontainers⟩, Option.bind_some,
      firstOf?_eq_some_iff.mpr ⟨qs, hports⟩, Option.bind_some, hn]
    exact hint

end ObservedPod

end

/-- What is observed is taken to serve if it runs, if no container is seen not to be ready, and if
there is an address and a port. -/
theorem ObservedPod.evaluate_eq_done_iff {o : ObservedPod} {backoff : Nat} {endpoint : String} :
    o.evaluate backoff = .done endpoint ↔ o.phase = "Running"
      ∧ o.containersReady.find? (fun c => !c.2) = none
      ∧ ∃ ip port, o.podIp = some ip ∧ o.port = some port ∧ endpoint = endpointText ip port := by
  unfold evaluate
  constructor
  · intro h
    split at h
    · exact nomatch h
    split at h
    · exact nomatch h
    next hrunning =>
      split at h
      · exact nomatch h
      next hready =>
        split at h
        · exact nomatch h
        next ip hip =>
          split at h
          · exact nomatch h
          next port hport =>
            exact ⟨Decidable.not_not.mp hrunning, hready, ip, port, hip, hport,
              (Outcome.done.inj h).symm⟩
  · intro h
    obtain ⟨hrunning, hready, ip, port, hip, hport, rfl⟩ := h
    have hnotFailed : ¬ o.phase = "Failed" := by
      rw [hrunning]
      decide
    rw [if_neg hnotFailed, if_neg (Decidable.not_not.mpr hrunning), hready, hip, hport]

/-- A daemon is taken to serve exactly if its pod runs, has an address and a first port, and all of
its container statuses say that the container is ready. Then all of its containers are ready exactly
if each of them has a status. -/
theorem ObservedPod.evaluate_done_iff {j : Json} {p : ApiPod} (h : ApiPod.ofJson? j = some p)
    (backoff : Nat) (endpoint : String) :
    ((ofPod p).evaluate backoff = .done endpoint
        ↔ ∃ ip port, p.Serves ip port ∧ endpoint = endpointText ip port)
      ∧ ((ofPod p).evaluate backoff = .done endpoint → (p.AllReady ↔ p.Covered)) := by
  have hserves : (ofPod p).evaluate backoff = .done endpoint
      ↔ ∃ ip port, p.Serves ip port ∧ endpoint = endpointText ip port := by
    rw [evaluate_eq_done_iff, phase_ofPod_iff, find?_containersReady_eq_none_iff h]
    constructor
    · intro hdone
      obtain ⟨hrunning, hready, ip, port, hip, hport, rfl⟩ := hdone
      obtain ⟨haddress, hne⟩ := podIp_ofPod_iff.mp hip
      exact ⟨ip, port, ⟨hrunning, haddress, hne, (port_ofPod_iff h).mp hport, hready⟩, rfl⟩
    · intro hpod
      obtain ⟨ip, port, hs, rfl⟩ := hpod
      exact ⟨hs.running, hs.ready, ip, port, podIp_ofPod_iff.mpr ⟨hs.address, hs.nonempty⟩,
        (port_ofPod_iff h).mpr hs.leads, rfl⟩
  refine ⟨hserves, ?_⟩
  intro hdone
  obtain ⟨ip, port, hs, -⟩ := hserves.mp hdone
  exact hs.allReady_iff

/-- A daemon and a container beside it, which are both ready. -/
theorem ObservedPod.evaluate_done_iff_two :
    let status (name : String) : Json := .obj [("name", .str name), ("ready", .bool true)]
    let j : Json := .obj [
      ("metadata", .obj [("name", .str "my-build-x7k2p")]),
      ("spec", .obj [("containers", .arr [
        .obj [("name", .str "buildkit"), ("ports", .arr [.obj [("containerPort", .int 1234)]])],
        .obj [("name", .str "proxy")]])]),
      ("status", .obj [
        ("containerStatuses", .arr [status "proxy", status "buildkit"]),
        ("phase", .str "Running"),
        ("podIP", .str "10.0.0.1")])]
    ∃ p, ApiPod.ofJson? j = some p
      ∧ (∃ ip port, p.Serves ip port ∧ "tcp://10.0.0.1:1234" = endpointText ip port)
      ∧ p.AllReady := by
  intro status j
  have hrun : (ApiPod.ofJson? j).map (fun p => ((ofPod p).evaluate 5, decide p.Covered))
      = some (.done "tcp://10.0.0.1:1234", true) := by decide
  obtain ⟨p, hp, hrun⟩ := Option.map_eq_some_iff.mp hrun
  obtain ⟨hdone, hcovered⟩ := Prod.mk.inj hrun
  obtain ⟨hserves, hready⟩ := evaluate_done_iff hp 5 "tcp://10.0.0.1:1234"
  exact ⟨p, hp, hserves.mp hdone, (hready hdone).mpr (of_decide_eq_true hcovered)⟩

/-- A pod that runs and has an address is taken to serve while its only container has no status
yet. -/
theorem ObservedPod.evaluate_unreported :
    let j : Json := .obj [
      ("metadata", .obj [("name", .str "my-build-x7k2p"), ("namespace", .str "ci")]),
      ("spec", .obj [("containers", .arr [
        .obj [("name", .str "buildkit"), ("ports", .arr [.obj [("containerPort", .int 1234)]])]])]),
      ("status", .obj [("phase", .str "Running"), ("podIP", .str "10.0.0.1")])]
    ∃ p, ApiPod.ofJson? j = some p
      ∧ (ofPod p).evaluate 5 = .done "tcp://10.0.0.1:1234" ∧ ¬ p.Covered := by
  intro j
  have hrun : (ApiPod.ofJson? j).map (fun p => ((ofPod p).evaluate 5, decide p.Covered))
      = some (.done "tcp://10.0.0.1:1234", false) := by decide
  obtain ⟨p, hp, hrun⟩ := Option.map_eq_some_iff.mp hrun
  obtain ⟨hdone, hcovered⟩ := Prod.mk.inj hrun
  exact ⟨p, hp, hdone, of_decide_eq_false hcovered⟩

end BuildFleet
