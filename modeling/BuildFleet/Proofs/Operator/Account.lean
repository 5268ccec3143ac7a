import BuildFleet.Proofs.Operator.Conformance
import BuildFleet.Proofs.Operator.Cycle
import Mathlib.Data.List.Nodup

/-!
# How many pods an instance has

Cycles of an instance run one after the other, each on the instance as it is stored; between them
and during them shutdown may be requested, and calls may fail. A cycle that creates a pod and fails
after that loses the pod: nothing refers to it, and so the next cycle creates another one. Nothing
else goes wrong. A recorded pod is found again and kept, and a lost pod stays:

> `History.pods_accounted`: the pods of an instance are the lost ones and the one that is recorded,
> if there is one.

So an instance has at most one pod as long as no cycle fails between creating a pod and recording
it, or one does, and it has not got another pod since.
-/

namespace BuildFleet

/-- Whether a cycle creates a pod and fails after that. -/
def losesPod {σ : Type} (server : Server σ) (view : σ → Holdings) (i : Instance)
    (config : OperatorConfig) (now : Instant) (s : σ) : Bool :=
  let run := runCycle server view i config now s
  !run.result.isOk && decide ((view run.state).pods ≠ (view s).pods)

/-- The states that cycles of an instance lead to which starts without pods, and how many pods were
lost on the way. Between cycles, anything may happen that is not about the instance. -/
inductive History {σ : Type} (server : Server σ) (view : σ → Holdings) (i : Instance) :
    Nat → σ → Prop where
  /-- There is no pod, and none is referred to. -/
  | start {s : σ} (pods : (view s).pods = []) (refs : (view s).podRefs = []) :
      History server view i 0 s
  /-- Something else happens. -/
  | meanwhile {lost : Nat} {s s' : σ} (past : History server view i lost s)
      (same : view s' = view s) : History server view i lost s'
  /-- A cycle runs. -/
  | cycle {lost : Nat} {s : σ} (past : History server view i lost s) (config : OperatorConfig)
      (now : Instant) : History server view i (lost + (losesPod server view i config now s).toNat)
        (runCycle server view i config now s).state

/-- The pods of an instance are all accounted for: they are lost, or recorded. -/
structure Accounted (ns : String) (lost : Nat) (h : Holdings) : Prop where
  /-- No pod is counted twice. -/
  distinct : h.pods.Nodup
  /-- At most one pod is recorded. -/
  single : h.podRefs.length ≤ 1
  /-- What is recorded is there, in the namespace of the instance. -/
  resolves : ∀ r ∈ h.podRefs, r.ns = ns ∧ r.key ∈ h.pods
  /-- The other pods are lost. -/
  count : h.pods.length = lost + h.podRefs.length

namespace Accounted

variable {ns : String} {lost : Nat} {h h' : Holdings} {pod : Option String}

/-- A pod is created only if none is recorded. -/
theorem withPod (ha : Accounted ns lost h) (hrefs : h.podRefs = []) {name : String}
    (hfresh : (⟨ns, name⟩ : ObjectKey) ∉ h.pods) :
    Accounted ns (lost + 1) (h.withPod ⟨ns, name⟩) where
  distinct := by
    rw [Holdings.pods_withPod, ← List.concat_eq_append]
    exact List.Nodup.concat hfresh ha.distinct
  single := ha.single
  resolves := by
    intro r hr
    rw [Holdings.podRefs_withPod, hrefs] at hr
    exact absurd hr List.not_mem_nil
  count := by
    have hcount := ha.count
    rw [hrefs] at hcount
    rw [Holdings.pods_withPod, Holdings.podRefs_withPod, hrefs, List.length_append, hcount]
    rfl

/-- A cycle that fails leaves what was there, or loses one more pod. -/
theorem failed (ha : Accounted ns lost h)
    (hadvance : Advance ns h (h.podRefs.map ManagedRef.name) pod h') :
    Accounted ns (lost + (decide (h'.pods ≠ h.pods)).toNat) h' := by
  generalize hnames : h.podRefs.map ManagedRef.name = names at hadvance
  cases hadvance with
  | refused =>
    rw [decide_eq_false (fun hne => hne rfl)]
    exact ha
  | used =>
    rw [decide_eq_false (fun hne => hne rfl)]
    exact ha
  | created hfresh =>
    next name =>
    have hne : (h.withPod ⟨ns, name⟩).pods ≠ h.pods := by
      intro heq
      have hlength := congrArg List.length heq
      rw [Holdings.pods_withPod, List.length_append, List.length_singleton] at hlength
      omega
    rw [decide_eq_true hne]
    exact ha.withPod (List.map_eq_nil_iff.mp hnames) hfresh

/-- A status that refers to nothing but a pod that is there. -/
theorem withStatus {st : InstanceStatus} (distinct : h.pods.Nodup)
    (hst : st.refsOf .pod = (pod.map fun name => ManagedRef.mk .pod ns name).toList)
    (hpod : ∀ name, pod = some name → (⟨ns, name⟩ : ObjectKey) ∈ h.pods)
    (hcount : h.pods.length = lost + pod.toList.length) : Accounted ns lost (h.withStatus st) := by
  cases pod with
  | none =>
    refine ⟨distinct, ?_, ?_, ?_⟩
    · rw [Holdings.podRefs_withStatus, hst]
      exact Nat.zero_le 1
    · intro r hr
      rw [Holdings.podRefs_withStatus, hst] at hr
      exact absurd hr List.not_mem_nil
    · rw [Holdings.podRefs_withStatus, hst]
      exact hcount
  | some name =>
    refine ⟨distinct, ?_, ?_, ?_⟩
    · rw [Holdings.podRefs_withStatus, hst]
      exact Nat.le_refl 1
    · intro r hr
      rw [Holdings.podRefs_withStatus, hst] at hr
      have hr' : r = ⟨.pod, ns, name⟩ := List.mem_singleton.mp hr
      subst hr'
      exact ⟨rfl, hpod name rfl⟩
    · rw [Holdings.podRefs_withStatus, hst]
      exact hcount

/-- A cycle that succeeds records the pod that it found or created. -/
theorem recorded (ha : Accounted ns lost h)
    (hadvance : Advance ns h (h.podRefs.map ManagedRef.name) pod h') {st : InstanceStatus}
    (hst : st.refsOf .pod = (pod.map fun name => ManagedRef.mk .pod ns name).toList) :
    Accounted ns lost (h'.withStatus st) := by
  have hcount := ha.count
  rw [← List.length_map ManagedRef.name] at hcount
  have hresolves := ha.resolves
  generalize hnames : h.podRefs.map ManagedRef.name = names at hadvance hcount
  cases hadvance with
  | refused => exact withStatus ha.distinct hst (fun _ hnone => nomatch hnone) hcount
  | created hfresh =>
    next name =>
    have hlost := ha.withPod (List.map_eq_nil_iff.mp hnames) hfresh
    refine withStatus hlost.distinct hst ?_ ?_
    · intro name' hname
      rw [← Option.some.inj hname]
      exact List.mem_append_right _ (List.mem_singleton_self _)
    · rw [Holdings.pods_withPod, List.length_append, hcount]
      rfl
  | used =>
    next name =>
    refine withStatus ha.distinct hst ?_ hcount
    -- the pod that was found is the one that was recorded before
    intro name' hname
    rw [← Option.some.inj hname]
    obtain ⟨r, hr, hrname⟩ : ∃ r ∈ h.podRefs, r.name = name := by
      refine List.mem_map.mp ?_
      rw [hnames]
      exact List.mem_singleton_self name
    obtain ⟨hns, hkey⟩ := hresolves r hr
    rw [← hrname, ← hns]
    exact hkey

end Accounted

/-! ## Any number of cycles -/

section

variable {σ : Type} {server : Server σ} {view : σ → Holdings} {i : Instance}

/-- One cycle keeps the account. -/
theorem Accounted.cycle (hk : Keeps server view ⟨i.ns.getD "", i.name⟩) (config : OperatorConfig)
    (now : Instant) {lost : Nat} {s : σ} (ha : Accounted (i.ns.getD "") lost (view s)) :
    Accounted (i.ns.getD "") (lost + (losesPod server view i config now s).toNat)
      (view (runCycle server view i config now s).state) := by
  have hensures := reconcile_ensures (i := { i with status := (view s).status }) hk config now
    rfl ha.single (fun r hr => (ha.resolves r hr).2) s rfl
  unfold losesPod runCycle
  generalize ({ i with status := (view s).status }.reconcile config now).run server s = run
    at hensures ⊢
  obtain ⟨result, calls, s'⟩ := run
  cases result with
  | ok action =>
    obtain ⟨pod, h', st, hadvance, hst, hview⟩ := hensures
    dsimp only at hview ⊢
    rw [hview]
    exact ha.recorded hadvance hst
  | error e =>
    obtain ⟨pod, hadvance⟩ := hensures
    exact ha.failed hadvance

/-- The account is kept all along. -/
theorem History.accounted (hk : Keeps server view ⟨i.ns.getD "", i.name⟩) {lost : Nat} {s : σ}
    (past : History server view i lost s) : Accounted (i.ns.getD "") lost (view s) := by
  induction past with
  | start pods refs =>
    refine ⟨?_, ?_, ?_, ?_⟩
    · rw [pods]
      exact List.nodup_nil
    · rw [refs]
      exact Nat.zero_le 1
    · intro r hr
      rw [refs] at hr
      exact absurd hr List.not_mem_nil
    · rw [pods, refs]
      rfl
  | meanwhile _ same ih =>
    rw [same]
    exact ih
  | cycle _ config now ih => exact ih.cycle hk config now

/-- The pods of an instance are distinct, and there is one for each that was lost and one if there
is one recorded. So there is at most one exactly if none was lost, or one was and none has been
recorded since. -/
theorem History.pods_accounted (hk : Keeps server view ⟨i.ns.getD "", i.name⟩) {lost : Nat} {s : σ}
    (past : History server view i lost s) :
    (view s).pods.Nodup ∧ (view s).podRefs.length ≤ 1
      ∧ (view s).pods.length = lost + (view s).podRefs.length
      ∧ ((view s).pods.length ≤ 1 ↔ lost = 0 ∨ lost = 1 ∧ (view s).podRefs = []) := by
  have ha := past.accounted hk
  have hcount := ha.count
  have hsingle := ha.single
  refine ⟨ha.distinct, hsingle, hcount, ?_⟩
  rw [← List.length_eq_zero_iff]
  omega

end

/-! ## A pod that is lost -/

/-- An instance of the template `default`. -/
def sampleInstance : Instance where
  metadata := { name := some "my-build", ns := some "ci", uid := some "uid-1234" }
  spec := { template := "default" }

/-- Where the instance is. -/
def sampleKey : ObjectKey := ⟨"ci", "my-build"⟩

/-- A cluster with the instance and its template. -/
def sampleCluster : Cluster where
  instances := [sampleInstance]
  templates := [{
    metadata := { name := some "default", ns := some "ci", uid := some "uid-5678" }
    spec := {} }]

/-- The sample cluster has the sample instance. -/
theorem sampleCluster_present : (sampleCluster.instance? sampleKey).isSome = true := by decide

/-- The cluster, and what is to go wrong. -/
def sampleState (faults : List Fault) : {s : Simulation // s.Tidy sampleKey} :=
  ⟨{ cluster := sampleCluster, faults }, rfl, (fun _ he => nomatch he), sampleCluster_present⟩

/-- One cycle in which nothing fails. -/
theorem History.pods_accounted_first :
    let server := Simulation.tidyServer sampleKey
    let view := Simulation.holdings sampleKey
    ∃ s, History server view sampleInstance 0 s ∧ (view s).pods = [⟨"ci", "my-build-1"⟩]
      ∧ (view s).pods.length = 0 + (view s).podRefs.length := by
  intro server view
  let s₀ := sampleState []
  let s₁ := (runCycle server view sampleInstance {} ⟨0, 0⟩ s₀).state
  obtain ⟨hkept, hpods⟩ : losesPod server view sampleInstance {} ⟨0, 0⟩ s₀ = false
      ∧ (view s₁).pods = [⟨"ci", "my-build-1"⟩] := by decide
  have hstart : History server view sampleInstance 0 s₀ := .start rfl rfl
  have hcycle : History server view sampleInstance 0 s₁ := by
    have h := hstart.cycle {} ⟨0, 0⟩
    rw [hkept] at h
    exact h
  exact ⟨s₁, hcycle, hpods, (History.pods_accounted (Simulation.keeps sampleKey) hcycle).2.2.1⟩

/-- In the first cycle the status cannot be written, and so the second one creates another pod. -/
theorem History.two_pods :
    let server := Simulation.tidyServer sampleKey
    let view := Simulation.holdings sampleKey
    ∃ s, Keeps server view sampleKey ∧ History server view sampleInstance 1 s
      ∧ (view s).pods = [⟨"ci", "my-build-1"⟩, ⟨"ci", "my-build-2"⟩] := by
  intro server view
  let s₀ := sampleState [{ kind := .patchStatus, code := 500, internal := none }]
  let s₁ := (runCycle server view sampleInstance {} ⟨0, 0⟩ s₀).state
  let s₂ := (runCycle server view sampleInstance {} ⟨0, 0⟩ s₁).state
  obtain ⟨hlost, hkept, hpods⟩ : losesPod server view sampleInstance {} ⟨0, 0⟩ s₀ = true
      ∧ losesPod server view sampleInstance {} ⟨0, 0⟩ s₁ = false
      ∧ (view s₂).pods = [⟨"ci", "my-build-1"⟩, ⟨"ci", "my-build-2"⟩] := by decide
  have hstart : History server view sampleInstance 0 s₀ := .start rfl rfl
  have hfirst : History server view sampleInstance 1 s₁ := by
    have h := hstart.cycle {} ⟨0, 0⟩
    rw [hlost] at h
    exact h
  have hsecond : History server view sampleInstance 1 s₂ := by
    have h := hfirst.cycle {} ⟨0, 0⟩
    rw [hkept] at h
    exact h
  exact ⟨s₂, Simulation.keeps sampleKey, hsecond, hpods⟩

end BuildFleet
