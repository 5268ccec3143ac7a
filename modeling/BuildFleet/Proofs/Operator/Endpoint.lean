import BuildFleet.Proofs.Operator.Readiness
import BuildFleet.Proofs.Operator.Survivor

/-!
# Whose endpoint the status publishes

A pod that has an address and a port has one endpoint for good. A status is sound if the endpoint
that it publishes is that of the pod that it refers to first (`Holdings.Sound`). A cycle that looks
at a pod publishes what it has just seen. A cycle that only deletes surplus pods leaves the endpoint
as it is, and so it is right as long as the pod that is kept is the first one that was referred to:

> `runCycle_sound_iff`: of a sound status a cycle makes another one, unless the first pod is gone,
> and among several others that are there one is kept that has another endpoint
> (`Holdings.Strands`).

Then the status refers to a pod that is there, and publishes the endpoint of one that is not, until
the next cycle has looked at the pod.
-/

namespace BuildFleet

/-- The endpoint of a pod, once it has an address and a port. -/
def ObservedPod.endpoint? (p : ObservedPod) : Option String := do
  return endpointText (← p.podIp) (← p.port)

/-- What is served is the endpoint of the pod. -/
theorem ObservedPod.evaluate_done {p : ObservedPod} {backoff : Nat} {endpoint : String}
    (hdone : p.evaluate backoff = .done endpoint) : p.endpoint? = some endpoint := by
  obtain ⟨-, -, ip, port, hip, hport, rfl⟩ := ObservedPod.evaluate_eq_done_iff.mp hdone
  unfold ObservedPod.endpoint?
  rw [hip, hport]
  rfl

/-- If a pod is answered that has an endpoint, it is the given one. -/
def Exchange.shows (ep : ObjectKey → String) : Exchange → Bool
  | ⟨.getPod ns name, .ok (some p)⟩ =>
    (ObservedPod.ofPod p).endpoint?.all fun endpoint => endpoint == ep ⟨ns, name⟩
  | _ => true

/-- A pod that is read shows the endpoint that its key stands for, if it has one. -/
theorem Exchange.shows_getPod (ep : ObjectKey → String) (ns name : String) (p : ApiPod) :
    Exchange.shows ep ⟨.getPod ns name, .ok (some p)⟩
      = (ObservedPod.ofPod p).endpoint?.all fun endpoint => endpoint == ep ⟨ns, name⟩ := rfl

/-- Where an endpoint comes from that is written: it is empty, what is served, or the old one. -/
theorem endpoint_next (previous : InstanceStatus) (ns : String) (p : Progress) (now : Instant) :
    (previous.next ns p now).endpoint = ""
      ∨ p.outcome = .done (previous.next ns p now).endpoint
      ∨ p.keepEndpoint = true ∧ (previous.next ns p now).endpoint = previous.endpoint := by
  obtain ⟨outcome, pod, keepEndpoint⟩ := p
  cases outcome with
  | done endpoint => exact Or.inr (Or.inl rfl)
  | applying =>
    cases keepEndpoint with
    | true => exact Or.inr (Or.inr ⟨rfl, rfl⟩)
    | false => exact Or.inl rfl
  | requeue reason message after => exact Or.inl rfl
  | failed reason message => exact Or.inl rfl

namespace Holdings

/-- The endpoint that is published; empty if there is none. -/
def endpoint (h : Holdings) : String := (h.status.getD {}).endpoint

/-- What is published is the endpoint of the pod that is referred to first. -/
def Sound (ep : ObjectKey → String) (h : Holdings) : Prop :=
  h.endpoint = "" ∨ ∃ r ∈ h.podRefs.head?, h.endpoint = ep r.key

/-- There are several pods, but not the one whose endpoint is published, and the one of them that
is kept has another endpoint. -/
def Strands (ep : ObjectKey → String) (h : Holdings) : Prop :=
  h.endpoint ≠ "" ∧ 2 ≤ h.liveRefs.length
    ∧ ∃ first ∈ h.podRefs.head?, first.key ∉ h.pods
      ∧ ∃ kept ∈ h.survivor?, ep first.key ≠ ep kept.key

instance (ep : ObjectKey → String) (h : Holdings) : Decidable (h.Sound ep) :=
  inferInstanceAs (Decidable (_ ∨ _))

instance (ep : ObjectKey → String) (h : Holdings) : Decidable (h.Strands ep) :=
  inferInstanceAs (Decidable (_ ∧ _))

variable {ep : ObjectKey → String} {h : Holdings}

/-- With at most one pod nothing is stranded. -/
theorem not_strands_of_length_le_one (hlive : h.liveRefs.length ≤ 1) : ¬ h.Strands ep :=
  fun ⟨_, hseveral, _⟩ => absurd hseveral (by omega)

/-- The endpoint of a sound status is that of the pod that is kept, unless it strands. -/
theorem Sound.kept_iff (hsound : h.Sound ep) (hseveral : 2 ≤ h.liveRefs.length)
    {kept : ManagedRef} (hkept : h.survivor? = some kept) :
    h.endpoint = "" ∨ h.endpoint = ep kept.key ↔ ¬ h.Strands ep := by
  constructor
  · rintro (hempty | hown) ⟨hpublished, -, first, hfirst, -, kept', hkept', hother⟩
    · exact hpublished hempty
    · rcases hsound with hempty | ⟨r, hr, hendpoint⟩
      · exact hpublished hempty
      · rw [Option.some.inj (hfirst.symm.trans hr), ← hendpoint, hown,
          Option.some.inj (hkept.symm.trans hkept')] at hother
        exact hother rfl
  · intro hstrands
    rcases hsound with hempty | ⟨first, hfirst, hendpoint⟩
    · exact Or.inl hempty
    -- only if the first pod is gone, another one is kept
    by_cases hin : first.key ∈ h.pods
    · rw [Option.some.inj (hkept.symm.trans (survivor?_of_head hfirst hin))]
      exact Or.inr hendpoint
    · by_cases hempty : h.endpoint = ""
      · exact Or.inl hempty
      by_cases hsame : ep first.key = ep kept.key
      · exact Or.inr (hendpoint.trans hsame)
      · exact absurd ⟨hempty, hseveral, first, hfirst, hin, kept, hkept, hsame⟩ hstrands

end Holdings

/-! ## One cycle -/

/-- A status that is written after a single pod was found publishes what was seen of it. -/
theorem LookedUp.endpoint_eq {h : Holdings} {p : ApiPod} {log : List Exchange}
    {ep : ObjectKey → String} (hlooked : LookedUp h h.podRefs [p] log)
    (hshows : ∀ x ∈ log, x.shows ep = true) {endpoint : String}
    (hendpoint : (ObservedPod.ofPod p).endpoint? = some endpoint) :
    ∃ r, h.liveRefs = [r] ∧ p.name = r.name ∧ endpoint = ep r.key := by
  obtain ⟨r, hfound⟩ : ∃ r, h.liveRefs = [r] := by
    have hlength : h.liveRefs.length = 1 := hlooked.found.length_eq
    exact List.length_eq_one_iff.mp hlength
  have hall := hlooked.found
  rw [show h.podRefs.filter (fun r => r.key ∈ h.pods) = [r] from hfound] at hall
  obtain ⟨⟨hname, hmem⟩, -⟩ := List.forall₂_cons.mp hall
  have hshown := hshows _ hmem
  rw [Exchange.shows_getPod, hendpoint] at hshown
  exact ⟨r, hfound, hname, eq_of_beq hshown⟩

section

variable {i : Instance} {ns : String} {h h' : Holdings} {log : List Exchange}
  {ep : ObjectKey → String}

/-- After a single pod was looked at, what is published is empty or its endpoint. -/
theorem Holdings.Proper.sound_used (hp : h.Proper ns) {p : ApiPod}
    (hlooked : LookedUp h h.podRefs [p] log) (hshows : ∀ x ∈ log, x.shows ep = true) (backoff : Nat)
    (previous : InstanceStatus) (now : Instant) : (h.withStatus (previous.next ns
      ⟨(ObservedPod.ofPod p).evaluate backoff, some p.name, false⟩ now)).Sound ep := by
  rcases endpoint_next previous ns
    ⟨(ObservedPod.ofPod p).evaluate backoff, some p.name, false⟩ now with
    hempty | hdone | ⟨hkeep, -⟩
  · exact Or.inl hempty
  · obtain ⟨r, hlive, hname, hendpoint⟩ :=
      hlooked.endpoint_eq hshows (ObservedPod.evaluate_done hdone)
    have hr : r ∈ h.liveRefs := hlive ▸ List.mem_singleton_self r
    refine Or.inr ⟨r, ?_, hendpoint⟩
    rw [Holdings.podRefs_withStatus, refsOf_next, hname]
    exact congrArg some (hp.mk_eq (Holdings.mem_liveRefs.mp hr).1)
  · exact nomatch hkeep

/-- While surplus pods are deleted, the old endpoint is published for the pod that is kept. -/
theorem Holdings.Proper.sound_pruned_iff (hp : h.Proper ns) {kept : ManagedRef}
    (hkept : h.survivor? = some kept) (now : Instant) :
    (h'.withStatus ((h.status.getD {}).next ns ⟨.applying, some kept.name, true⟩ now)).Sound ep
      ↔ h.endpoint = "" ∨ h.endpoint = ep kept.key := by
  refine or_congr_right ?_
  rw [Holdings.podRefs_withStatus, refsOf_next]
  show (∃ r ∈ some (ManagedRef.mk .pod ns kept.name), h.endpoint = ep r.key) ↔ _
  rw [hp.mk_eq (Holdings.survivor?_mem hkept).1]
  constructor
  · rintro ⟨r, hr, hendpoint⟩
    rwa [Option.some.inj hr]
  · exact fun hendpoint => ⟨kept, rfl, hendpoint⟩

/-- What is written is sound, unless the endpoint strands. -/
theorem Settles.sound_iff (hp : h.Proper ns) (hsound : h.Sound ep) {backoff : Nat}
    {pods : List ApiPod} {progress : Progress} (hlooked : LookedUp h h.podRefs pods log)
    (hshows : ∀ x ∈ log, x.shows ep = true)
    (hsettles : Settles i ns backoff h log pods progress h') (now : Instant) :
    (h'.withStatus ((h.status.getD {}).next ns progress now)).Sound ep ↔ ¬ h.Strands ep := by
  have hlength : h.liveRefs.length = pods.length := hlooked.found.length_eq
  have hnames := hlooked.names
  cases hsettles with
  | refused checked broken =>
    exact iff_of_true (Or.inl rfl) (Holdings.not_strands_of_length_le_one (hlength ▸ Nat.zero_le 1))
  | created fresh =>
    exact iff_of_true (Or.inl rfl) (Holdings.not_strands_of_length_le_one (hlength ▸ Nat.zero_le 1))
  | used =>
    exact iff_of_true (hp.sound_used hlooked hshows backoff _ now)
      (Holdings.not_strands_of_length_le_one (hlength ▸ Nat.le_refl 1))
  | pruned =>
    next keep p rest =>
    obtain ⟨kept, surplus, hlive⟩ : ∃ kept surplus, h.liveRefs = kept :: surplus :=
      List.exists_cons_of_length_eq_add_one hlength
    have hkept : h.survivor? = some kept := Holdings.survivor?_eq_some_iff.mpr ⟨surplus, hlive⟩
    have hseveral : 2 ≤ h.liveRefs.length := by
      rw [hlength]
      exact Nat.le_add_left 2 rest.length
    have hname : keep.name = kept.name := by
      rw [hlive, List.map_cons] at hnames
      exact List.head_eq_of_cons_eq hnames
    rw [hname, hp.sound_pruned_iff hkept now]
    exact hsound.kept_iff hseveral hkept

/-- A cycle that ends leaves a sound endpoint exactly if it strands none. -/
theorem Completed.sound_iff (hp : h.Proper ns) (hsound : h.Sound ep) {config : OperatorConfig}
    {now : Instant} {action : Action} (hshows : ∀ x ∈ log, x.shows ep = true)
    (hends : Completed i ns h config now action h' log) : h'.Sound ep ↔ ¬ h.Strands ep := by
  cases hends with
  | recorded conducted settles => exact settles.sound_iff hp hsound conducted.lookedUp hshows now

end

/-- Of a sound status, whatever pods are gone, a cycle that succeeds makes a sound one exactly
unless the endpoint strands. -/
theorem runCycle_sound_iff {σ : Type} {server : Server σ} {view : σ → Holdings} {i : Instance}
    (hs : Serves server view ⟨i.ns.getD "", i.name⟩) {ep : ObjectKey → String}
    {config : OperatorConfig} {now : Instant} {s : σ} (hp : (view s).Proper (i.ns.getD ""))
    (hsound : (view s).Sound ep)
    (hshows : ∀ x ∈ cycleExchanges server view i config now s, x.shows ep = true) {action : Action}
    (hok : (runCycle server view i config now s).result = .ok action) :
    (view (runCycle server view i config now s).state).Sound ep ↔ ¬ (view s).Strands ep :=
  (runCycle_completed hs hok).sound_iff hp hsound hshows

/-- The endpoints of three pods. -/
def sampleEndpoint (key : ObjectKey) : String :=
  match key.name with
  | "my-build-1" => "tcp://10.0.0.1:1234"
  | "my-build-2" => "tcp://10.0.0.2:1234"
  | _ => "tcp://10.0.0.3:1234"

/-- The first pod is there, and the second one is not. -/
theorem runCycle_sound_pruned :
    let server := Simulation.tidyServer sampleKey
    let view := Simulation.holdings sampleKey
    ∃ s, (view s).podRefs.map ManagedRef.name = ["my-build-1", "my-build-2", "my-build-3"]
      ∧ (view s).pods = [⟨"ci", "my-build-1"⟩, ⟨"ci", "my-build-3"⟩]
      ∧ (view s).endpoint = "tcp://10.0.0.1:1234"
      ∧ (runCycle server view sampleInstance {} ⟨0, 0⟩ s).result = .ok (.requeueAfter 0)
      ∧ (view (runCycle server view sampleInstance {} ⟨0, 0⟩ s).state).Sound sampleEndpoint := by
  intro server view
  let s := sampleCourse ["my-build-1", "my-build-2", "my-build-3"] "tcp://10.0.0.1:1234"
    [("my-build-1", "10.0.0.1"), ("my-build-3", "10.0.0.3")] []
  obtain ⟨hrefs, hpods, hendpoint, hdistinct, hns, hsound, hshows, hok, hstrands⟩ :
      (view s).podRefs.map ManagedRef.name = ["my-build-1", "my-build-2", "my-build-3"]
      ∧ (view s).pods = [⟨"ci", "my-build-1"⟩, ⟨"ci", "my-build-3"⟩]
      ∧ (view s).endpoint = "tcp://10.0.0.1:1234"
      ∧ (view s).podRefs.Nodup ∧ (∀ r ∈ (view s).podRefs, r.ns = "ci")
      ∧ (view s).Sound sampleEndpoint
      ∧ (∀ x ∈ cycleExchanges server view sampleInstance {} ⟨0, 0⟩ s,
        x.shows sampleEndpoint = true)
      ∧ (runCycle server view sampleInstance {} ⟨0, 0⟩ s).result = .ok (.requeueAfter 0)
      ∧ ¬ (view s).Strands sampleEndpoint := by decide
  exact ⟨s, hrefs, hpods, hendpoint, hok, (runCycle_sound_iff (i := sampleInstance)
    (Simulation.serves sampleKey) ⟨hdistinct, hns⟩ hsound hshows hok).mpr hstrands⟩

/-- The first of three pods is gone, and its endpoint is published for the second one. -/
theorem runCycle_stranded :
    let server := Simulation.tidyServer sampleKey
    let view := Simulation.holdings sampleKey
    ∃ s, Serves server view sampleKey ∧ (view s).Proper "ci" ∧ (view s).Sound sampleEndpoint
      ∧ (∀ x ∈ cycleExchanges server view sampleInstance {} ⟨0, 0⟩ s,
        x.shows sampleEndpoint = true)
      ∧ (runCycle server view sampleInstance {} ⟨0, 0⟩ s).result = .ok (.requeueAfter 0)
      ∧ (view (runCycle server view sampleInstance {} ⟨0, 0⟩ s).state).podRefs
        = [⟨.pod, "ci", "my-build-2"⟩]
      ∧ (view (runCycle server view sampleInstance {} ⟨0, 0⟩ s).state).endpoint
        = "tcp://10.0.0.1:1234"
      ∧ ¬ (view (runCycle server view sampleInstance {} ⟨0, 0⟩ s).state).Sound sampleEndpoint := by
  intro server view
  refine ⟨sampleCourse ["my-build-1", "my-build-2", "my-build-3"] "tcp://10.0.0.1:1234"
    [("my-build-2", "10.0.0.2"), ("my-build-3", "10.0.0.3")] [], Simulation.serves sampleKey,
    ⟨by decide, by decide⟩, ?_⟩
  decide

end BuildFleet
