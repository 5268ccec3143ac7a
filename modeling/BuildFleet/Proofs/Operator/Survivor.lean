import BuildFleet.Proofs.Operator.Account
import BuildFleet.Proofs.Operator.FullCycle

/-!
# The pod that is kept

A status may refer to several pods of the instance, all different ones (`Holdings.Proper`). The
first of them that is there is the survivor. Cycles may be interrupted anywhere, and pods may
disappear between them, so the status may go on referring to pods that are gone. All the same the
survivor stays what it is as long as its pod does not disappear from outside:

> `Course.survivor_kept`: no cycle deletes it, and it remains the first one that is there.

The argument is the same for each step of a course. Of the pods that are referred to none comes back
(a new one is created only if all are gone), and so nothing gets before the survivor
(`survivor?_of_gone`); and what a cycle deletes comes after it.
-/

namespace BuildFleet

namespace Holdings

/-- The references to pods are as the operator writes them: to different pods, all in the namespace
of the instance. -/
structure Proper (ns : String) (h : Holdings) : Prop where
  distinct : h.podRefs.Nodup
  inNamespace : ∀ r ∈ h.podRefs, r.ns = ns

/-- A reference to a pod is of that kind. -/
theorem kind_of_mem_podRefs {h : Holdings} {r : ManagedRef} (hr : r ∈ h.podRefs) :
    r.kind = .pod :=
  eq_of_beq (List.mem_filter.mp hr).2

/-- Without a live reference no pod that is referred to is there. -/
theorem not_mem_pods_of_liveRefs_eq_nil {h : Holdings} (hnone : h.liveRefs = []) {r : ManagedRef}
    (hr : r ∈ h.podRefs) : r.key ∉ h.pods := by
  intro hin
  have hlive := mem_liveRefs.mpr ⟨hr, hin⟩
  rw [hnone] at hlive
  exact absurd hlive List.not_mem_nil

/-- The survivor is the first live reference. -/
theorem survivor?_eq_some_iff {h : Holdings} {r : ManagedRef} :
    h.survivor? = some r ↔ ∃ others, h.liveRefs = r :: others :=
  List.head?_eq_some_iff

/-- The survivor is referred to and there. -/
theorem survivor?_mem {h : Holdings} {r : ManagedRef} (hr : h.survivor? = some r) :
    r ∈ h.podRefs ∧ r.key ∈ h.pods :=
  mem_liveRefs.mp (List.mem_of_head? hr)

/-- Other pods that are referred to may disappear. -/
theorem survivor?_of_gone {h h' : Holdings} {r : ManagedRef} (hr : h.survivor? = some r)
    (hrefs : h'.podRefs = h.podRefs)
    (hgone : ∀ r' ∈ h.podRefs, r'.key ∈ h'.pods → r'.key ∈ h.pods) (hkept : r.key ∈ h'.pods) :
    h'.survivor? = some r := by
  unfold survivor? liveRefs at hr ⊢
  rw [List.head?_filter, List.find?_eq_some_iff_append] at hr ⊢
  obtain ⟨-, before, after, hsplit, hbefore⟩ := hr
  refine ⟨decide_eq_true hkept, before, after, hrefs.trans hsplit, ?_⟩
  intro r' hr'
  -- what comes before it was gone, and does not come back
  have habsent : r'.key ∉ h.pods := by
    have hnot := hbefore r' hr'
    rwa [Bool.not_eq_true', decide_eq_false_iff_not] at hnot
  have hmem : r' ∈ h.podRefs := hsplit ▸ List.mem_append_left _ hr'
  rw [Bool.not_eq_true', decide_eq_false_iff_not]
  exact fun hin => habsent (hgone r' hmem hin)

/-- If the first pod is there, it is the first live one. -/
theorem liveRefs_of_cons {h : Holdings} {first : ManagedRef} {rest : List ManagedRef}
    (hrefs : h.podRefs = first :: rest) (hin : first.key ∈ h.pods) :
    h.liveRefs = first :: rest.filter fun r => r.key ∈ h.pods := by
  unfold liveRefs
  rw [hrefs, List.filter_cons_of_pos (p := fun r : ManagedRef => r.key ∈ h.pods)
    (decide_eq_true hin)]

/-- The first reference is kept if its pod is there. -/
theorem survivor?_of_head {h : Holdings} {first : ManagedRef}
    (hfirst : h.podRefs.head? = some first) (hin : first.key ∈ h.pods) :
    h.survivor? = some first := by
  obtain ⟨rest, hrefs⟩ := List.head?_eq_some_iff.mp hfirst
  exact congrArg List.head? (liveRefs_of_cons hrefs hin)

namespace Proper

variable {ns : String} {h : Holdings} {r r' : ManagedRef}

/-- A proper reference is in the namespace. -/
theorem key_eq (hp : h.Proper ns) (hr : r ∈ h.podRefs) : r.key = ⟨ns, r.name⟩ := by
  rw [← hp.inNamespace r hr]
  rfl

/-- In one namespace a reference to a pod is told by its name. -/
theorem eq_of_name (hp : h.Proper ns) (hr : r ∈ h.podRefs) (hr' : r' ∈ h.podRefs)
    (hname : r.name = r'.name) : r = r' := by
  have hkind := (kind_of_mem_podRefs hr).trans (kind_of_mem_podRefs hr').symm
  have hns := (hp.inNamespace r hr).trans (hp.inNamespace r' hr').symm
  cases r
  cases r'
  cases hkind
  cases hns
  cases hname
  rfl

/-- A reference by the name of another one in the same status, as a status has it. -/
theorem mk_eq (hp : h.Proper ns) (hr : r ∈ h.podRefs) : ⟨.pod, ns, r.name⟩ = r := by
  rw [← hp.inNamespace r hr, ← kind_of_mem_podRefs hr]

/-- No surplus pod has the name of the survivor. -/
theorem name_ne_of_mem_tail (hp : h.Proper ns) (hr : h.survivor? = some r)
    (hr' : r' ∈ h.liveRefs.tail) : r'.name ≠ r.name := by
  obtain ⟨others, hlive⟩ := survivor?_eq_some_iff.mp hr
  have hdistinct : h.liveRefs.Nodup := hp.distinct.filter _
  rw [hlive, List.nodup_cons] at hdistinct
  rw [hlive, List.tail_cons] at hr'
  intro hname
  have hmem : r' ∈ h.podRefs := by
    have hin : r' ∈ h.liveRefs := hlive ▸ List.mem_cons_of_mem _ hr'
    exact (mem_liveRefs.mp hin).1
  rw [hp.eq_of_name hmem (survivor?_mem hr).1 hname] at hr'
  exact hdistinct.1 hr'

/-- One reference by a name, or none. -/
theorem of_podRefs {name : Option String}
    (hrefs : h.podRefs = (name.map fun name => ManagedRef.mk .pod ns name).toList) :
    h.Proper ns := by
  cases name with
  | none => exact ⟨hrefs ▸ List.nodup_nil, fun r hr => absurd (hrefs ▸ hr) List.not_mem_nil⟩
  | some name =>
    refine ⟨hrefs ▸ List.nodup_singleton _, ?_⟩
    intro r hr
    rw [hrefs] at hr
    rw [List.mem_singleton.mp hr]

/-- What is proper depends only on the references. -/
theorem congr {h' : Holdings} (hp : h.Proper ns) (hrefs : h'.podRefs = h.podRefs) :
    h'.Proper ns :=
  ⟨hrefs ▸ hp.distinct, hrefs ▸ hp.inNamespace⟩

end Proper

end Holdings

/-! ## One cycle -/

section

variable {i : Instance} {ns : String} {h h' : Holdings} {r : ManagedRef} {log : List Exchange}

/-- The references stay as they are while pods are created and deleted. -/
theorem Leaves.podRefs_eq (hleaves : Leaves ns h h') : h'.podRefs = h.podRefs := by
  cases hleaves with
  | created none fresh => rfl
  | pruned surplus => rfl

/-- Creating and deleting pods leaves the survivor. -/
theorem Leaves.survivor?_eq (hp : h.Proper ns) (hleaves : Leaves ns h h')
    (hr : h.survivor? = some r) : h'.survivor? = some r := by
  obtain ⟨hmem, hin⟩ := Holdings.survivor?_mem hr
  cases hleaves with
  | created none fresh =>
    obtain ⟨others, hlive⟩ := Holdings.survivor?_eq_some_iff.mp hr
    exact nomatch none.symm.trans hlive
  | pruned surplus =>
    refine Holdings.survivor?_of_gone hr rfl
      (fun _ _ hin' => (Holdings.mem_pods_without.mp hin').1) ?_
    refine Holdings.mem_pods_without.mpr ⟨hin, ?_⟩
    intro hgone
    -- it would have to be a surplus pod by its name
    obtain ⟨r', hr', hkey⟩ := List.mem_map.mp (surplus hgone)
    have hname : r'.name = r.name := by
      rw [hp.key_eq hmem] at hkey
      exact congrArg ObjectKey.name hkey
    exact hp.name_ne_of_mem_tail hr hr' hname

section

variable {backoff : Nat} {pods : List ApiPod} {progress : Progress}
  (hnames : pods.map ApiPod.name = h.liveRefs.map ManagedRef.name)
  (hsettles : Settles i ns backoff h log pods progress h') (previous : InstanceStatus)
  (now : Instant)

include hnames hsettles

/-- The status that is written refers to the survivor, if there is one. -/
theorem Settles.podRefs_eq (hp : h.Proper ns) (hr : h.survivor? = some r) :
    (h'.withStatus (previous.next ns progress now)).podRefs = [r] := by
  obtain ⟨others, hlive⟩ := Holdings.survivor?_eq_some_iff.mp hr
  rw [Holdings.podRefs_withStatus, refsOf_next, (hsettles.of_live hnames hlive).1]
  exact congrArg (fun r' => [r']) (hp.mk_eq (Holdings.survivor?_mem hr).1)

/-- The survivor remains it once the status is written. -/
theorem Settles.survivor?_eq (hp : h.Proper ns) (hr : h.survivor? = some r) :
    (h'.withStatus (previous.next ns progress now)).survivor? = some r :=
  Holdings.survivor?_of_head (congrArg List.head? (hsettles.podRefs_eq hnames previous now hp hr))
    (Holdings.survivor?_mem ((hsettles.leaves hnames).survivor?_eq hp hr)).2

end

variable {config : OperatorConfig} {now : Instant}

/-- A cycle that ends keeps the survivor, and references proper. -/
theorem Completed.survivor (hp : h.Proper ns) {action : Action}
    (hends : Completed i ns h config now action h' log) :
    h'.Proper ns ∧ ∀ r, h.survivor? = some r → h'.survivor? = some r := by
  cases hends with
  | recorded conducted settles =>
    exact ⟨.of_podRefs (refsOf_next _ _ _ _),
      fun r hr => settles.survivor?_eq conducted.lookedUp.names _ _ hp hr⟩

/-- A cycle that is interrupted keeps the survivor, and references proper. -/
theorem Interrupted.survivor (hp : h.Proper ns) (hends : Interrupted i ns h config now h' log) :
    h'.Proper ns ∧ ∀ r, h.survivor? = some r → h'.survivor? = some r := by
  cases hends with
  | lookingUp reads => exact ⟨hp, fun _ hr => hr⟩
  | converging conducted leaves =>
    exact ⟨hp.congr leaves.podRefs_eq, fun r hr => leaves.survivor?_eq hp hr⟩
  | recording conducted settles =>
    exact ⟨.of_podRefs (refsOf_next _ _ _ _),
      fun r hr => settles.survivor?_eq conducted.lookedUp.names _ _ hp hr⟩

end

section

variable {σ : Type} {server : Server σ} {view : σ → Holdings} {i : Instance}
  (hs : Serves server view ⟨i.ns.getD "", i.name⟩) (config : OperatorConfig) (now : Instant) {s : σ}

include hs

/-- However it ends, a cycle leaves references as they are or one that it writes, and the survivor
is among them. -/
theorem runCycle_survivor (hp : (view s).Proper (i.ns.getD "")) :
    (view (runCycle server view i config now s).state).Proper (i.ns.getD "")
      ∧ ∀ r, (view s).survivor? = some r →
        (view (runCycle server view i config now s).state).survivor? = some r := by
  cases hresult : (runCycle server view i config now s).result with
  | ok action => exact (runCycle_completed hs hresult).survivor hp
  | error e => exact (runCycle_interrupted hs hresult).survivor hp

/-- Before anything is changed, all pods are looked up. -/
theorem runCycle_conducted {c : Call} (hc : c ∈ (runCycle server view i config now s).calls)
    (hchanges : c.isRead = false) :
    (∃ pods, LookedUp (view s) (view s).podRefs pods (cycleExchanges server view i config now s))
      ∧ (view s).Permits (i.ns.getD "") c := by
  have hmem : c ∈ (cycleExchanges server view i config now s).map Exchange.call :=
    (Program.map_call_exchanges server _ s).symm ▸ hc
  obtain ⟨x, hx, rfl⟩ := List.mem_map.mp hmem
  obtain ⟨pods, hconducted⟩ : ∃ pods, Conducted (i.ns.getD "") (view s) pods
      (cycleExchanges server view i config now s) := by
    cases hresult : (runCycle server view i config now s).result with
    | ok action => exact (runCycle_completed hs hresult).conducted
    | error e => exact (runCycle_interrupted hs hresult).conducted hx hchanges
  rcases hconducted.permitted x hx with hread | hpermits
  · exact nomatch hchanges.symm.trans hread
  · exact ⟨⟨pods, hconducted.lookedUp⟩, hpermits⟩

/-- A pod is created only if every one that is referred to was found to be gone, and it is. -/
theorem runCycle_creates {ns : String} {pod : ApiPod}
    (hc : .createPod ns pod ∈ (runCycle server view i config now s).calls) {r : ManagedRef}
    (hr : r ∈ (view s).podRefs) : r.key ∉ (view s).pods
      ∧ ⟨.getPod r.ns r.name, .ok none⟩ ∈ cycleExchanges server view i config now s := by
  obtain ⟨⟨pods, hlooked⟩, -, hnone⟩ := runCycle_conducted hs config now hc rfl
  have habsent := Holdings.not_mem_pods_of_liveRefs_eq_nil hnone hr
  exact ⟨habsent, hlooked.absent r hr habsent⟩

/-- The pods that are deleted are surplus ones. -/
theorem runCycle_deletes (hp : (view s).Proper (i.ns.getD "")) {ns name : String}
    (hc : .deletePod ns name ∈ (runCycle server view i config now s).calls) :
    ∃ r ∈ (view s).liveRefs.tail, r.key = ⟨ns, name⟩ := by
  obtain ⟨-, rfl, r, hr, rfl⟩ := runCycle_conducted hs config now hc rfl
  exact ⟨r, hr, hp.key_eq (Holdings.mem_liveRefs.mp (List.mem_of_mem_tail hr)).1⟩

end

/-! ## Any number of cycles -/

/-- From one state to another, by cycles of the instance as it is stored and by what happens between
them: pods that are referred to may disappear, but not the ones that are spared, and whatever is not
about the instance may change. The calls are those of all cycles. -/
inductive Course {σ : Type} (server : Server σ) (view : σ → Holdings) (i : Instance)
    (spared : ObjectKey → Prop) : σ → List Call → σ → Prop where
  /-- Nothing happens. -/
  | start (s : σ) : Course server view i spared s [] s
  /-- Something happens outside. -/
  | outside {s s' s'' : σ} {calls : List Call} (past : Course server view i spared s calls s')
      (status : (view s'').status = (view s').status)
      (gone : ∀ r ∈ (view s').podRefs, r.key ∈ (view s'').pods → r.key ∈ (view s').pods)
      (kept : ∀ key, spared key → key ∈ (view s').pods → key ∈ (view s'').pods) :
      Course server view i spared s calls s''
  /-- A cycle runs. -/
  | cycle {s s' : σ} {calls : List Call} (past : Course server view i spared s calls s')
      (config : OperatorConfig) (now : Instant) : Course server view i spared s
        (calls ++ (runCycle server view i config now s').calls)
        (runCycle server view i config now s').state

section

variable {σ : Type} {server : Server σ} {view : σ → Holdings} {i : Instance}
  {spared : ObjectKey → Prop} {s s' : σ} {calls : List Call}

/-- The references are those of the status. -/
theorem podRefs_of_status {h h' : Holdings} (hstatus : h'.status = h.status) :
    h'.podRefs = h.podRefs :=
  congrArg (fun status => (status.getD {}).refsOf .pod) hstatus

/-- References stay proper all along. -/
theorem Course.proper (hs : Serves server view ⟨i.ns.getD "", i.name⟩)
    (hp : (view s).Proper (i.ns.getD "")) (course : Course server view i spared s calls s') :
    (view s').Proper (i.ns.getD "") := by
  induction course with
  | start => exact hp
  | outside _ status _ _ ih => exact ih.congr (podRefs_of_status status)
  | cycle _ config now ih => exact (runCycle_survivor hs config now ih).1

/-- The survivor stays all along if it is spared, and it is not deleted. -/
theorem Course.spared_survivor (hs : Serves server view ⟨i.ns.getD "", i.name⟩)
    (hp : (view s).Proper (i.ns.getD "")) {r : ManagedRef} (hr : (view s).survivor? = some r)
    (hspared : spared r.key) (course : Course server view i spared s calls s') :
    .deletePod r.ns r.name ∉ calls ∧ (view s').survivor? = some r := by
  induction course with
  | start => exact ⟨List.not_mem_nil, hr⟩
  | outside _ status gone kept ih =>
    obtain ⟨hnot, hsurvivor⟩ := ih
    exact ⟨hnot, Holdings.survivor?_of_gone hsurvivor (podRefs_of_status status) gone
      (kept _ hspared (Holdings.survivor?_mem hsurvivor).2)⟩
  | cycle past config now ih =>
    obtain ⟨hnot, hsurvivor⟩ := ih
    have hproper := past.proper hs hp
    refine ⟨?_, (runCycle_survivor hs config now hproper).2 r hsurvivor⟩
    intro hin
    rcases List.mem_append.mp hin with hin | hin
    · exact hnot hin
    · obtain ⟨r', hr', hkey⟩ := runCycle_deletes hs config now hproper hin
      exact hproper.name_ne_of_mem_tail hsurvivor hr' (congrArg ObjectKey.name hkey)

/-- At any moment of a course, the next cycle creates a pod only if it finds that all pods that are
referred to are gone, and deletes only pods that are referred to; and the first of them that is
there remains it and is not deleted, until it disappears from outside. -/
theorem Course.survivor_kept (hs : Serves server view ⟨i.ns.getD "", i.name⟩)
    (hproper : (view s).Proper (i.ns.getD ""))
    (past : Course server view i (fun _ => False) s calls s') :
    (∀ config now,
      (∀ ns pod, .createPod ns pod ∈ (runCycle server view i config now s').calls →
        ∀ r ∈ (view s').podRefs, r.key ∉ (view s').pods
          ∧ ⟨.getPod r.ns r.name, .ok none⟩ ∈ cycleExchanges server view i config now s')
      ∧ ∀ ns name, .deletePod ns name ∈ (runCycle server view i config now s').calls →
        ∃ r ∈ (view s').podRefs, r.key = ⟨ns, name⟩)
    ∧ ∀ r, (view s').survivor? = some r →
      ∀ later s'', Course server view i (Eq r.key) s' later s'' →
        .deletePod r.ns r.name ∉ later ∧ (view s'').survivor? = some r := by
  have hp := past.proper hs hproper
  refine ⟨?_, fun r hr later s'' course => course.spared_survivor hs hp hr rfl⟩
  intro config now
  refine ⟨fun ns pod hc r hr => runCycle_creates hs config now hc hr, ?_⟩
  intro ns name hc
  obtain ⟨r, hr, hkey⟩ := runCycle_deletes hs config now hp hc
  exact ⟨r, (Holdings.mem_liveRefs.mp (List.mem_of_mem_tail hr)).1, hkey⟩

end

/-! ## Deleting that is interrupted -/

/-- A daemon's pod that runs at an address. -/
def samplePod (name ip : String) : ApiPod where
  metadata := { name := some name, ns := some "ci" }
  spec := some (Json.ofFields [("containers", .arr [Json.ofFields [("name", .str "buildkit"),
    ("ports", .arr [Json.ofFields [("containerPort", .int 1234)]])]])])
  status := some (Json.ofFields [("phase", .str "Running"), ("podIP", .str ip)])

/-- The sample instance with a status that refers to pods by name, and the pods that are there with
their addresses. -/
def sampleCourse (refs : List String) (endpoint : String) (pods : List (String × String))
    (faults : List Fault) : {s : Simulation // s.Tidy sampleKey} :=
  ⟨{ cluster := { sampleCluster with
      instances := [{ sampleInstance with
        status := some { refs := refs.map (ManagedRef.mk .pod "ci"), endpoint } }]
      pods := pods.map fun p => (⟨"ci", p.1⟩, samplePod p.1 p.2) }
     faults }, rfl, (by
      intro e he
      obtain ⟨p, -, rfl⟩ := List.mem_map.mp he
      rfl), rfl⟩

/-- The first pod is gone, and deleting the third one fails at first. -/
theorem Course.survivor_kept_interrupted :
    let server := Simulation.tidyServer sampleKey
    let view := Simulation.holdings sampleKey
    let kept := ManagedRef.mk .pod "ci" "my-build-2"
    ∃ s s' calls, (view s).Proper "ci" ∧ (view s).survivor? = some kept
      ∧ (runCycle server view sampleInstance {} ⟨0, 0⟩ s).result = .error (.api 500)
      ∧ Course server view sampleInstance (Eq kept.key) s calls s'
      ∧ .deletePod "ci" "my-build-2" ∉ calls ∧ (view s').survivor? = some kept
      ∧ (view s').pods = [kept.key] := by
  intro server view kept
  let s₀ := sampleCourse ["my-build-1", "my-build-2", "my-build-3"] ""
    [("my-build-2", "10.0.0.2"), ("my-build-3", "10.0.0.3")]
    [{ kind := .deletePod, code := 500, internal := none }]
  let s₁ := (runCycle server view sampleInstance {} ⟨0, 0⟩ s₀).state
  let s₂ := (runCycle server view sampleInstance {} ⟨0, 0⟩ s₁).state
  obtain ⟨hrefs, hns, hkept, hfails, hpods⟩ : (view s₀).podRefs.Nodup
      ∧ (∀ r ∈ (view s₀).podRefs, r.ns = "ci") ∧ (view s₀).survivor? = some kept
      ∧ (runCycle server view sampleInstance {} ⟨0, 0⟩ s₀).result = .error (.api 500)
      ∧ (view s₂).pods = [kept.key] := by decide
  have hproper : (view s₀).Proper "ci" := ⟨hrefs, hns⟩
  have hstart : Course server view sampleInstance (fun _ => False) s₀ [] s₀ := .start s₀
  have hspared : Course server view sampleInstance (Eq kept.key) s₀ [] s₀ := .start s₀
  have hcourse := (hspared.cycle {} ⟨0, 0⟩).cycle {} ⟨0, 0⟩
  obtain ⟨hnot, hsurvivor⟩ := (Course.survivor_kept (i := sampleInstance)
    (Simulation.serves sampleKey) hproper hstart).2 kept hkept _ _ hcourse
  exact ⟨s₀, s₂, _, hproper, hkept, hfails, hcourse, hnot, hsurvivor, hpods⟩

end BuildFleet
