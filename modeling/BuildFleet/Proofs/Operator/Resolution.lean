import BuildFleet.Proofs.Operator.Survivor

/-!
# Whether the reference that is written resolves

A status may refer to one pod twice, or to pods of several namespaces. Pods are looked up in the
namespaces that their references name, but a cycle deletes pods in the namespace of the instance,
and it is there that it refers to the one that it keeps. So what it keeps and what it deletes may
be the same pod, and the pod that it refers to may be one that never was.

> `runCycle_resolves_iff`: what a cycle refers to is there exactly if the pod that is kept is found
> by its name in the namespace of the instance, and no surplus one has that name
> (`Holdings.KeepsFirst`).

References to different pods of the instance's namespace are never a problem
(`runCycle_resolves_of_proper`).
-/

namespace BuildFleet

namespace Holdings

/-- All pods that are referred to are there. -/
def Resolved (h : Holdings) : Prop := ∀ r ∈ h.podRefs, r.key ∈ h.pods

instance (h : Holdings) : Decidable h.Resolved :=
  inferInstanceAs (Decidable (∀ r ∈ h.podRefs, r.key ∈ h.pods))

/-- The name of the pod that is kept is that of a pod in the namespace, and of no surplus one. -/
def KeepsFirst (ns : String) (h : Holdings) : Prop :=
  ∀ kept surplus, h.liveRefs = kept :: surplus →
    ⟨ns, kept.name⟩ ∈ h.pods ∧ kept.name ∉ surplus.map ManagedRef.name

/-- The first pod is kept if it is in the namespace and no surplus one has its name. -/
theorem keepsFirst_of_cons {ns : String} {h : Holdings} {kept : ManagedRef}
    {surplus : List ManagedRef} (hlive : h.liveRefs = kept :: surplus) :
    h.KeepsFirst ns
      ↔ ⟨ns, kept.name⟩ ∈ h.pods ∧ kept.name ∉ surplus.map ManagedRef.name := by
  constructor
  · intro hkeeps
    exact hkeeps kept surplus hlive
  · intro hkept kept' surplus' hlive'
    obtain ⟨rfl, rfl⟩ := List.cons.inj (hlive.symm.trans hlive')
    exact hkept

/-- References to different pods of the namespace. -/
theorem Proper.keepsFirst {ns : String} {h : Holdings} (hp : h.Proper ns) : h.KeepsFirst ns := by
  intro kept surplus hlive
  have hkept : h.survivor? = some kept := survivor?_eq_some_iff.mpr ⟨surplus, hlive⟩
  obtain ⟨hmem, hin⟩ := survivor?_mem hkept
  refine ⟨hp.key_eq hmem ▸ hin, ?_⟩
  intro hname
  obtain ⟨r, hr, hrname⟩ := List.mem_map.mp hname
  have htail : r ∈ h.liveRefs.tail := by
    rw [hlive, List.tail_cons]
    exact hr
  exact hp.name_ne_of_mem_tail hkept htail hrname

end Holdings

/-- What is written resolves exactly if the pod that is kept is not lost. -/
theorem Settles.resolved_iff {i : Instance} {ns : String} {backoff : Nat} {h h' : Holdings}
    {log : List Exchange} {pods : List ApiPod} {progress : Progress}
    (hnames : pods.map ApiPod.name = h.liveRefs.map ManagedRef.name)
    (hsettles : Settles i ns backoff h log pods progress h') (previous : InstanceStatus)
    (now : Instant) :
    (h'.withStatus (previous.next ns progress now)).Resolved ↔ h.KeepsFirst ns := by
  unfold Holdings.Resolved
  rw [Holdings.podRefs_withStatus, refsOf_next, Holdings.pods_withStatus]
  cases hlive : h.liveRefs with
  | nil =>
    refine iff_of_true ?_ fun kept surplus hcons => nomatch hlive.symm.trans hcons
    rcases hsettles.of_none hnames hlive with ⟨hpod, -, -⟩ | ⟨name, -, hpod, rfl⟩
    · rw [hpod]
      exact fun r hr => absurd hr List.not_mem_nil
    · rw [hpod]
      intro r hr
      rw [List.mem_singleton.mp hr]
      exact List.mem_append_right _ (List.mem_singleton_self _)
  | cons kept surplus =>
    obtain ⟨hpod, rfl⟩ := hsettles.of_live hnames hlive
    -- pods are deleted by name, in one namespace
    have hnamed : (⟨ns, kept.name⟩ : ObjectKey) ∈ surplus.map (fun r => ObjectKey.mk ns r.name)
        ↔ kept.name ∈ surplus.map ManagedRef.name := by
      rw [List.mem_map, List.mem_map]
      refine exists_congr fun r => and_congr_right fun _ => ?_
      exact ⟨congrArg ObjectKey.name, congrArg (ObjectKey.mk ns)⟩
    rw [Holdings.keepsFirst_of_cons hlive, ← hnamed, ← Holdings.mem_pods_without, hpod]
    exact List.forall_mem_singleton

section

variable {σ : Type} {server : Server σ} {view : σ → Holdings} {i : Instance}

/-- After a cycle that ends all references resolve exactly if the first pod is kept. -/
theorem Completed.resolved_iff {ns : String} {h h' : Holdings} {config : OperatorConfig}
    {now : Instant} {action : Action} {log : List Exchange}
    (hends : Completed i ns h config now action h' log) : h'.Resolved ↔ h.KeepsFirst ns := by
  cases hends with
  | recorded conducted settles => exact settles.resolved_iff conducted.lookedUp.names _ _

/-- After a cycle that succeeds, the pods that the status refers to are there exactly if there was
none, or the first one is found by its name in the namespace of the instance and no surplus one has
that name. -/
theorem runCycle_resolves_iff (hs : Serves server view ⟨i.ns.getD "", i.name⟩)
    {config : OperatorConfig} {now : Instant} {s : σ} {action : Action}
    (hok : (runCycle server view i config now s).result = .ok action) :
    (view (runCycle server view i config now s).state).Resolved
      ↔ (view s).KeepsFirst (i.ns.getD "") :=
  (runCycle_completed hs hok).resolved_iff

/-- Two surplus references, one of them to a pod that is gone. -/
theorem runCycle_resolves_pruned :
    let server := Simulation.tidyServer sampleKey
    let view := Simulation.holdings sampleKey
    ∃ s, (view s).podRefs.map ManagedRef.name = ["my-build-1", "my-build-2", "my-build-3"]
      ∧ (view s).pods = [⟨"ci", "my-build-2"⟩, ⟨"ci", "my-build-3"⟩]
      ∧ (runCycle server view sampleInstance {} ⟨0, 0⟩ s).result = .ok (.requeueAfter 0)
      ∧ (view (runCycle server view sampleInstance {} ⟨0, 0⟩ s).state).Resolved := by
  intro server view
  let s := sampleCourse ["my-build-1", "my-build-2", "my-build-3"] ""
    [("my-build-2", "10.0.0.2"), ("my-build-3", "10.0.0.3")] []
  obtain ⟨hrefs, hpods, hok, hlive⟩ :
      (view s).podRefs.map ManagedRef.name = ["my-build-1", "my-build-2", "my-build-3"]
      ∧ (view s).pods = [⟨"ci", "my-build-2"⟩, ⟨"ci", "my-build-3"⟩]
      ∧ (runCycle server view sampleInstance {} ⟨0, 0⟩ s).result = .ok (.requeueAfter 0)
      ∧ (view s).liveRefs = [⟨.pod, "ci", "my-build-2"⟩, ⟨.pod, "ci", "my-build-3"⟩] := by
    decide
  refine ⟨s, hrefs, hpods, hok, ?_⟩
  refine (runCycle_resolves_iff (i := sampleInstance) (Simulation.serves sampleKey) hok).mpr ?_
  intro kept surplus hcons
  obtain ⟨rfl, rfl⟩ := List.cons.inj (hlive.symm.trans hcons)
  rw [hpods]
  decide

/-- A cycle that succeeds on references to different pods of the instance's namespace. -/
theorem runCycle_resolves_of_proper (hs : Serves server view ⟨i.ns.getD "", i.name⟩)
    {config : OperatorConfig} {now : Instant} {s : σ} (hp : (view s).Proper (i.ns.getD ""))
    {action : Action} (hok : (runCycle server view i config now s).result = .ok action) :
    (view (runCycle server view i config now s).state).Resolved :=
  (runCycle_completed hs hok).resolved_iff.mpr hp.keepsFirst

end

/-- A status that refers to one pod twice: the pod is kept and deleted. -/
theorem runCycle_unresolved :
    let server := Simulation.tidyServer sampleKey
    let view := Simulation.holdings sampleKey
    ∃ s, Serves server view sampleKey
      ∧ (view s).podRefs = [⟨.pod, "ci", "my-build-1"⟩, ⟨.pod, "ci", "my-build-1"⟩]
      ∧ (view s).pods = [⟨"ci", "my-build-1"⟩]
      ∧ (runCycle server view sampleInstance {} ⟨0, 0⟩ s).result = .ok (.requeueAfter 0)
      ∧ (view (runCycle server view sampleInstance {} ⟨0, 0⟩ s).state).podRefs
        = [⟨.pod, "ci", "my-build-1"⟩]
      ∧ (view (runCycle server view sampleInstance {} ⟨0, 0⟩ s).state).pods = []
      ∧ ¬ (view (runCycle server view sampleInstance {} ⟨0, 0⟩ s).state).Resolved := by
  intro server view
  refine ⟨sampleCourse ["my-build-1", "my-build-1"] "" [("my-build-1", "10.0.0.1")] [],
    Simulation.serves sampleKey, ?_⟩
  decide

end BuildFleet
