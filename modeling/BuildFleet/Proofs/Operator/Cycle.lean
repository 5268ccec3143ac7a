import BuildFleet.Proofs.Operator.Contract

/-!
# What one cycle does

Everything before the pods of an instance are converged, and all checks and look-ups on the way,
only read. So a cycle changes what there is for its instance at two places only: where it creates a
pod, and where it writes the status at its end.

> `reconcile_ensures`: what a cycle leaves that is given at most one reference, and one that
> resolves.

The pod may be created and the status not written, because the call fails or shutdown is requested
in between. Then the pod stays and nothing refers to it.
-/

namespace BuildFleet

open Program (Ensures ReadsOnly)

/-! ## Looking up -/

/-- Finding the namespace only reads. -/
theorem readsOnly_namespaceOf (ns : Option String) : (namespaceOf ns).ReadsOnly := by
  cases ns with
  | none => trivial
  | some ns => trivial

/-- Finding the template only reads. -/
theorem readsOnly_resolveTemplate (ns name : String) : (resolveTemplate ns name).ReadsOnly := by
  refine ReadsOnly.bind ?_ (Program.readsOnly_perform rfl)
  intro t
  cases t with
  | none => trivial
  | some t => trivial

/-- Checking an instance only reads. -/
theorem Instance.readsOnly_validate (i : Instance) : i.validate.ReadsOnly := by
  unfold Instance.validate
  split
  · trivial
  · refine ReadsOnly.bind ?_ (readsOnly_namespaceOf i.ns)
    intro ns
    refine ReadsOnly.bind ?_ (readsOnly_resolveTemplate ns _)
    intro t
    trivial

/-- Building a pod only reads. -/
theorem Instance.readsOnly_buildPod (i : Instance) : i.buildPod.ReadsOnly := by
  refine ReadsOnly.bind ?_ (readsOnly_namespaceOf i.ns)
  intro ns
  refine ReadsOnly.bind ?_ (readsOnly_resolveTemplate ns _)
  intro t
  trivial

/-- Preparing the pod that is asked for only reads. -/
theorem Instance.readsOnly_requestPod (i : Instance) : i.requestPod.ReadsOnly := by
  refine ReadsOnly.bind ?_ i.readsOnly_buildPod
  intro pod
  split
  · trivial
  · trivial

section

variable {σ : Type} {server : Server σ} {view : σ → Holdings} {key : ObjectKey}

/-- References that resolve lead to their pods, in order. -/
theorem discoverPods_ensures (hk : Keeps server view key) (h : Holdings) :
    ∀ {refs : List ManagedRef}, (∀ r ∈ refs, r.key ∈ h.pods) →
      (discoverPods refs).Ensures server (fun s => view s = h)
        (fun pods s => view s = h ∧ pods.map ApiPod.name = refs.map ManagedRef.name)
        (fun _ s => view s = h)
  | [], _ => Program.ensures_pure fun _ hs => ⟨hs, rfl⟩
  | r :: rest, hrefs => by
    have hget : (Program.perform (.getPod r.ns r.name)).Ensures server (fun s => view s = h)
        (fun reply s => view s = h ∧ ∃ p : ApiPod, reply = some p ∧ p.name = r.name)
        (fun _ s => view s = h) := by
      refine Program.ensures_perform ?_
      intro s hs
      have hview : view (server.answer (.getPod r.ns r.name) s).2 = h :=
        (hk.read (.getPod r.ns r.name) s rfl).trans hs
      have hin : (⟨r.ns, r.name⟩ : ObjectKey) ∈ (view s).pods :=
        hs ▸ hrefs r List.mem_cons_self
      split
      · next reply hreply => exact ⟨hview, hk.found r.ns r.name s reply hin hreply⟩
      · exact hview
    refine hget.bind ?_
    intro reply
    refine Program.ensures_of_imp ?_
    rintro ⟨p, rfl, hp⟩
    refine (discoverPods_ensures hk h fun r' h' => hrefs r' (List.mem_cons_of_mem r h')).bind ?_
    intro pods
    refine Program.ensures_pure ?_
    rintro s ⟨hs, hpods⟩
    refine ⟨hs, ?_⟩
    show p.name :: pods.map ApiPod.name = r.name :: rest.map ManagedRef.name
    rw [hp, hpods]

/-! ## Converging -/

/-- What converging does when it finds at most one pod: a pod that was found is kept, and where none
was, one is created or refused. -/
inductive Advance (ns : String) (h : Holdings) : List String → Option String → Holdings → Prop where
  /-- No pod is there, and none is created. -/
  | refused : Advance ns h [] none h
  /-- A pod is created. -/
  | created {name : String} (fresh : (⟨ns, name⟩ : ObjectKey) ∉ h.pods) :
      Advance ns h [] (some name) (h.withPod ⟨ns, name⟩)
  /-- The pod that is there is used. -/
  | used {name : String} : Advance ns h [name] (some name) h

/-- Creating a pod adds the one that is reported, and none if it fails. -/
theorem createInstancePod_ensures (hk : Keeps server view key) (i : Instance) (ns : String)
    (h : Holdings) : (createInstancePod i ns).Ensures server (fun s => view s = h)
      (fun progress s => Advance ns h [] progress.pod (view s)) (fun _ s => view s = h) := by
  unfold createInstancePod
  refine (i.readsOnly_validate.ensures hk.read h).bind ?_
  intro report
  by_cases hvalid : report.isValid = true
  · rw [if_pos hvalid]
    refine (i.readsOnly_requestPod.ensures hk.read h).bind ?_
    intro pod
    have hcreate : (Program.modify (.createPod ns pod)).Ensures server (fun s => view s = h)
        (fun p s => Advance ns h [] (some p.name) (view s)) (fun _ s => view s = h) := by
      refine Program.ensures_modify (fun _ hs => hs) ?_
      intro s hs
      split
      · next p hp =>
        obtain ⟨hfresh, hview⟩ := hk.created ns pod s p hp
        rw [hs] at hfresh hview
        rw [hview]
        exact .created hfresh
      · next e he => exact (hk.failed _ s e he).trans hs
    exact hcreate.bind fun _ => Program.ensures_pure fun _ hs => hs
  · rw [if_neg hvalid]
    refine Program.ensures_pure ?_
    intro s hs
    rw [hs]
    exact .refused

/-- A list with at most one item is empty or has just that. -/
theorem eq_nil_or_singleton {α : Type} {l : List α} (h : l.length ≤ 1) :
    l = [] ∨ ∃ a, l = [a] := by
  cases l with
  | nil => exact Or.inl rfl
  | cons a rest =>
    rw [List.length_cons] at h
    have hrest : rest.length = 0 := by omega
    exact Or.inr ⟨a, by rw [List.length_eq_zero_iff.mp hrest]⟩

/-- A single pod is looked at and kept. -/
theorem convergePods_singleton (i : Instance) (ns : String) (backoff : Nat) (p : ApiPod) :
    convergePods i ns backoff [p]
      = pure ⟨(ObservedPod.ofPod p).evaluate backoff, some p.name, false⟩ := by
  have hfind : ([p] : List ApiPod).find? (fun q => q.name == p.name) = some p := by
    rw [List.find?_cons, beq_self_eq_true]
  unfold convergePods
  rw [List.map_singleton, PodPlan.ofNames]
  dsimp only
  rw [hfind]

/-- With at most one pod, one is created if there is none, and nothing is deleted. -/
theorem convergePods_ensures (hk : Keeps server view key) (i : Instance) (ns : String)
    (backoff : Nat) (h : Holdings) {pods : List ApiPod} (hpods : pods.length ≤ 1) :
    (convergePods i ns backoff pods).Ensures server (fun s => view s = h)
      (fun progress s => Advance ns h (pods.map ApiPod.name) progress.pod (view s))
      (fun _ s => view s = h) := by
  rcases eq_nil_or_singleton hpods with rfl | ⟨p, rfl⟩
  · exact createInstancePod_ensures hk i ns h
  · rw [convergePods_singleton]
    refine Program.ensures_pure ?_
    intro s hs
    rw [hs]
    exact .used

/-! ## The whole cycle -/

/-- The next status refers to the pod that there is, and to no other. -/
theorem refsOf_next (previous : InstanceStatus) (ns : String) (p : Progress) (now : Instant) :
    (previous.next ns p now).refsOf .pod
      = (p.pod.map fun name => ManagedRef.mk .pod ns name).toList := by
  show ((previous.refs.filter fun r => r.kind != .pod)
    ++ (p.pod.map fun name => ManagedRef.mk .pod ns name).toList).filter
      (fun r => r.kind == .pod) = _
  have hothers : (previous.refs.filter fun r => r.kind != .pod).filter
      (fun r => r.kind == .pod) = [] := by
    rw [List.filter_eq_nil_iff]
    intro r hr
    have hkind := (List.mem_filter.mp hr).2
    simpa [bne] using hkind
  rw [List.filter_append, hothers, List.nil_append]
  cases p.pod with
  | none => rfl
  | some name => rfl

/-- Nothing has been done about a pod yet, and the cycle may still end without it. -/
theorem Advance.refl (ns : String) (h : Holdings) {names : List String} (hn : names.length ≤ 1) :
    ∃ pod, Advance ns h names pod h := by
  rcases eq_nil_or_singleton hn with rfl | ⟨name, rfl⟩
  · exact ⟨none, .refused⟩
  · exact ⟨some name, .used⟩

/-- The cycle of an instance that has a namespace. -/
theorem reconcile_eq {i : Instance} {ns : String} (hns : i.ns = some ns) (config : OperatorConfig)
    (now : Instant) : i.reconcile config now = (do
      let pods ← discoverPods ((i.status.getD {}).refsOf .pod)
      let progress ← convergePods i ns config.notReadyBackoff pods
      Program.modify (.patchStatus ns i.name ((i.status.getD {}).next ns progress now))
      return progress.outcome.action) := by
  unfold Instance.reconcile
  rw [hns]
  rfl

/-- Writing the status keeps what has been done about the pod, whether or not it goes through. -/
theorem patchStatus_ensures (hk : Keeps server view key) (P : Holdings → Prop)
    (st : InstanceStatus) :
    (Program.modify (.patchStatus key.ns key.name st)).Ensures server (fun s => P (view s))
      (fun _ s => ∃ h, P h ∧ view s = h.withStatus st) (fun _ s => P (view s)) := by
  refine Program.ensures_modify (fun _ hs => hs) ?_
  intro s hs
  split
  · next reply hreply => exact ⟨view s, hs, hk.recorded st s reply hreply⟩
  · next e he =>
    rw [hk.failed _ s e he]
    exact hs

/-- A cycle that is given at most one reference to a pod, which resolves. It ends with a status that
refers to the pod it came to, or it fails, with or without having created a pod. -/
theorem reconcile_ensures {i : Instance} (hk : Keeps server view ⟨i.ns.getD "", i.name⟩)
    (config : OperatorConfig) (now : Instant) {h : Holdings} (hstatus : i.status = h.status)
    (hsingle : h.podRefs.length ≤ 1) (hresolves : ∀ r ∈ h.podRefs, r.key ∈ h.pods) :
    (i.reconcile config now).Ensures server (fun s => view s = h)
      (fun _ s => ∃ pod h' st,
        Advance (i.ns.getD "") h (h.podRefs.map ManagedRef.name) pod h'
          ∧ st.refsOf .pod = (pod.map fun name => ManagedRef.mk .pod (i.ns.getD "") name).toList
          ∧ view s = h'.withStatus st)
      (fun _ s => ∃ pod,
        Advance (i.ns.getD "") h (h.podRefs.map ManagedRef.name) pod (view s)) := by
  have hnames : (h.podRefs.map ManagedRef.name).length ≤ 1 := by
    rw [List.length_map]
    exact hsingle
  have hrefs : (i.status.getD {}).refsOf .pod = h.podRefs := by
    rw [hstatus]
    rfl
  have hstay : ∀ s, view s = h → ∃ pod,
      Advance (i.ns.getD "") h (h.podRefs.map ManagedRef.name) pod (view s) := by
    intro s hs
    rw [hs]
    exact Advance.refl _ h hnames
  cases hns : i.ns with
  | none =>
    unfold Instance.reconcile
    rw [hns]
    exact Program.ensures_fail fun s hs => hns ▸ hstay s hs
  | some ns =>
    rw [hns, Option.getD_some] at hk hstay
    rw [reconcile_eq hns, hrefs]
    refine ((discoverPods_ensures hk h hresolves).mono (fun _ _ hd => hd) fun _ => hstay).bind ?_
    intro pods
    refine Program.ensures_of_imp ?_
    intro hfound
    -- what was found are the pods referred to, by name
    rw [← hfound] at hnames hstay ⊢
    rw [List.length_map] at hnames
    refine ((convergePods_ensures hk i ns config.notReadyBackoff h hnames).mono
      (fun _ _ hd => hd) fun _ => hstay).bind ?_
    intro progress
    -- whatever was done about the pod stays, also if the status is not written
    let st := (i.status.getD {}).next ns progress now
    have hpatch := patchStatus_ensures hk
      (fun h' => Advance ns h (pods.map ApiPod.name) progress.pod h') st
    refine (hpatch.mono (fun _ _ hd => hd) fun _ _ hf => ⟨progress.pod, hf⟩).bind ?_
    rintro -
    refine Program.ensures_pure ?_
    rintro s ⟨h', hadvance, hview⟩
    exact ⟨progress.pod, h', st, hadvance, refsOf_next _ _ _ _, hview⟩

end

end BuildFleet
