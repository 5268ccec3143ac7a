import BuildFleet.Proofs.Blueprint.Artifacts
import BuildFleet.Proofs.Operator.Repetition

/-!
# What becomes of building a pod

A pod is built, or the template breaks a rule, or its layers do not merge. The daemon's container is
there from the start and no layer takes it away, so it is never missing. The cycle of the template
makes the same check, and nothing else refuses a template:

> `buildPod_outcome`: which failures there are, that a template is refused with exactly the words
> that its own cycle reports, and what a pod that was built is called.
-/

namespace BuildFleet

open Program (Yields yields_pure yields_modify)

/-! ## Failures -/

/-- The template is refused exactly if it breaks a rule. -/
theorem buildPod_refused_iff {i : Instance} {t : Template} {summary : String} :
    buildPod i t = .error (.validation summary)
      ↔ ¬ t.withDefaults.check.isValid = true ∧ summary = t.withDefaults.check.summary := by
  by_cases hvalid : t.withDefaults.check.isValid = true
  · refine iff_of_false ?_ fun hrefused => hrefused.1 hvalid
    intro h
    rcases buildPod_cases i t with ⟨hinvalid, -⟩ | ⟨-, ⟨pod, hpod⟩ | ⟨m, hmerge⟩⟩
    · exact hinvalid hvalid
    · exact nomatch hpod.symm.trans h
    · exact nomatch Except.error.inj (hmerge.symm.trans h)
  · rw [buildPod_eq, if_neg hvalid]
    constructor
    · intro heq
      exact ⟨hvalid, (Failure.validation.inj (Except.error.inj heq)).symm⟩
    · intro hrefused
      rw [hrefused.2]

/-! ## What the cycle of a template reports -/

section

variable {σ : Type} {server : Server σ} {t : Template} {ns : String} {now : Instant} {s : σ}

/-- Calls that are answered get an artifact published. -/
theorem publishArtifacts_yields (ns name : String) (owner : Option OwnerReference) (t : Template) :
    ∀ kinds : List ArtifactKind, (publishArtifacts ns name owner t kinds).Yields
      (fun _ _ => True) fun _ => True
  | [] => yields_pure trivial
  | kind :: kinds => by
    have hfirst : (publishArtifact ns name owner t kind).Yields (fun _ _ => True)
        fun _ => True := by
      unfold publishArtifact
      split
      · exact (yields_modify _).bind fun _ _ => yields_pure trivial
      · exact (yields_modify _).bind fun _ _ => yields_pure trivial
    refine hfirst.bind fun _ _ => ?_
    exact (publishArtifacts_yields ns name owner t kinds).bind fun _ _ => yields_pure trivial

/-- A cycle of a template fails only if a call does or shutdown is requested. -/
theorem Template.reconcile_yields (hns : t.ns = some ns) (now : Instant) :
    (t.reconcile now).Yields (fun _ _ => True) (· = .awaitChange) := by
  by_cases hvalid : t.withDefaults.check.isValid = true
  · rw [Template.reconcile_of_valid hns hvalid]
    refine (publishArtifacts_yields ns t.name t.owner t.withDefaults _).bind fun _ _ => ?_
    refine (yields_modify _).bind fun _ _ => ?_
    exact yields_pure rfl
  · rw [Template.reconcile_of_invalid hns hvalid]
    refine (yields_modify _).bind fun _ _ => ?_
    exact yields_pure rfl

/-- What yields a result whatever is answered ends with one, unless something gets in its way. -/
theorem Program.Yields.run_unhindered {α : Type} {p : Program α} {holds : α → Prop}
    (h : p.Yields (fun _ _ => True) holds) (hfree : ¬ p.Hindered server s) :
    ∃ a, (p.run server s).result = .ok a ∧ holds a := by
  obtain ⟨hreplies, hrunning⟩ := not_or.mp hfree
  refine h.run server s ?_ (Bool.eq_false_iff.mpr hrunning)
  intro x hx
  cases hreply : x.reply with
  | ok r => exact ⟨r, rfl, trivial⟩
  | error e => exact absurd ⟨x, hx, e, hreply⟩ hreplies

/-- A cycle of the template writes a status that states whether the template is ready, and this is
the condition that does. -/
def Template.Reports (t : Template) (server : Server σ) (now : Instant) (s : σ) (c : Condition) :
    Prop :=
  ∃ ns st, .patchTemplateStatus ns t.name st ∈ ((t.reconcile now).run server s).calls
    ∧ Condition.ofType Condition.ready st.conditions = [c]

/-- A cycle that succeeds writes one status. -/
theorem Template.patchTemplateStatus_mem_iff (hns : t.ns = some ns) {action : Action}
    (hok : ((t.reconcile now).run server s).result = .ok action) {ns' : String}
    {st : TemplateStatus} :
    .patchTemplateStatus ns' t.name st ∈ ((t.reconcile now).run server s).calls
      ↔ ns' = ns ∧ st = t.nextStatus ns now := by
  have hcalls : ((t.reconcile now).run server s).calls
      = (if t.withDefaults.check.isValid then ArtifactKind.all.map (t.publication ns) else []).map
          Exchange.call ++ [.patchTemplateStatus ns t.name (t.nextStatus ns now)] := by
    rw [← Program.map_call_exchanges, Template.reconcile_ok hns hok, List.map_append]
    rfl
  rw [hcalls, List.mem_append, List.mem_singleton]
  constructor
  · intro hcall
    rcases hcall with hcall | hcall
    · -- publishing an artifact writes no status
      obtain ⟨x, hx, hcall⟩ := List.mem_map.mp hcall
      split at hx
      · obtain ⟨kind, -, rfl⟩ := List.mem_map.mp hx
        unfold Template.publication at hcall
        split at hcall
        · exact nomatch hcall
        · exact nomatch hcall
      · exact absurd hx List.not_mem_nil
    · obtain ⟨rfl, -, rfl⟩ := Call.patchTemplateStatus.inj hcall
      exact ⟨rfl, rfl⟩
  · intro heq
    obtain ⟨rfl, rfl⟩ := heq
    exact Or.inr rfl

/-- Why a template is refused, if it is. -/
def Template.refusal? (t : Template) : Option Failure :=
  if t.withDefaults.check.isValid then none else some (.validation t.withDefaults.check.summary)

/-- The status after a cycle states whether the template is refused. -/
theorem Template.ofType_ready_nextStatus (t : Template) (ns : String) (now : Instant) :
    ∃ earlier, Condition.ofType Condition.ready (t.nextStatus ns now).conditions
      = [(readiness t.refusal? now).following earlier] := by
  unfold Template.nextStatus Template.refusal? Report.result
  by_cases hvalid : t.withDefaults.check.isValid = true
  · rw [if_pos hvalid, if_pos hvalid]
    exact ⟨_, Condition.ofType_set_self (readiness none now) _⟩
  · rw [if_neg hvalid, if_neg hvalid]
    exact ⟨_, Condition.ofType_set_self (readiness (some (.validation _)) now) _⟩

/-- An undisturbed cycle succeeds, and states once whether the template is refused. -/
theorem Template.reports_iff (hns : t.ns = some ns) (hfree : ¬ (t.reconcile now).Hindered server s) :
    ∃ earlier, ((t.reconcile now).run server s).result = .ok .awaitChange
      ∧ ∀ c, t.Reports server now s c ↔ c = (readiness t.refusal? now).following earlier := by
  obtain ⟨action, hok, rfl⟩ := (Template.reconcile_yields hns now).run_unhindered hfree
  obtain ⟨earlier, hready⟩ := t.ofType_ready_nextStatus ns now
  refine ⟨earlier, hok, ?_⟩
  intro c
  constructor
  · intro hreports
    obtain ⟨ns', st, hcall, hc⟩ := hreports
    obtain ⟨-, rfl⟩ := (Template.patchTemplateStatus_mem_iff hns hok).mp hcall
    exact List.singleton_inj.mp (hc.symm.trans hready)
  · intro heq
    rw [heq]
    exact ⟨ns, _, (Template.patchTemplateStatus_mem_iff hns hok).mpr ⟨rfl, rfl⟩, hready⟩

/-- What is stated is that the template breaks a rule exactly if it is refused, and why. -/
theorem Template.readiness_invalid_iff {earlier : List Condition} {message : String} :
    (((readiness t.refusal? now).following earlier).status = .no
        ∧ ((readiness t.refusal? now).following earlier).reason = "InvalidSpec"
        ∧ ((readiness t.refusal? now).following earlier).message = message)
      ↔ ∃ e, t.refusal? = some e ∧ e.message = message := by
  rw [Condition.following_status, Condition.following_reason, Condition.following_message]
  cases t.refusal? with
  | none =>
    constructor
    · intro hinvalid
      exact nomatch hinvalid.1
    · intro hrefused
      obtain ⟨e, he, -⟩ := hrefused
      exact nomatch he
  | some e =>
    constructor
    · intro hinvalid
      exact ⟨e, rfl, hinvalid.2.2⟩
    · intro hrefused
      obtain ⟨e', he, hmessage⟩ := hrefused
      obtain rfl := Option.some.inj he
      exact ⟨rfl, rfl, hmessage⟩

end

/-- The pod of an instance is refused for what the template is. -/
theorem Template.refusal?_eq_some_iff {i : Instance} {t : Template} {e : Failure} :
    t.refusal? = some e ↔ ∃ summary, e = .validation summary
      ∧ buildPod i t = .error (.validation summary) := by
  unfold refusal?
  by_cases hvalid : t.withDefaults.check.isValid = true
  · rw [if_pos hvalid]
    constructor
    · intro h
      exact nomatch h
    · intro hrefused
      obtain ⟨summary, -, h⟩ := hrefused
      exact absurd hvalid (buildPod_refused_iff.mp h).1
  · rw [if_neg hvalid]
    constructor
    · intro h
      exact ⟨_, (Option.some.inj h).symm, buildPod_refused_iff.mpr ⟨hvalid, rfl⟩⟩
    · intro hrefused
      obtain ⟨summary, rfl, h⟩ := hrefused
      rw [(buildPod_refused_iff.mp h).2]

/-! ## What a built pod is called -/

/-- A pod without a name stays so if no layer names it. -/
theorem Pod.withstands_name :
    rules.Withstands (fun p => p.metadata.name = "") (fun p => p.metadata.name = "") := by
  have htext : Rules.text.Withstands (· = "") (· = "") := by
    intro b l v hb hl hv
    subst hb hl
    exact (Option.some.inj hv).symm
  have hmeta : PodMeta.rules.Withstands (fun m => m.name = "") (fun m => m.name = "") :=
    PodMeta.fieldwise.withstands (e := (.field "name", ⟨(·.name), .text⟩))
      (by simp [PodMeta.parts]) htext
  exact fieldwise.withstands (e := (.field "metadata", ⟨(·.metadata), PodMeta.rules⟩))
    (by simp [parts]) hmeta

/-- The partial pod of a template that is accepted has no name. -/
theorem Template.name_podTemplate {t : Template} (hvalid : t.check.isValid = true) :
    (t.spec.podTemplate.getD .empty).metadata.name = "" := by
  unfold check Report.isValid at hvalid
  have hnames : ¬ t.spec.namesPod = true := by
    intro hnames
    rw [if_pos hnames] at hvalid
    simp at hvalid
  unfold TemplateSpec.namesPod at hnames
  cases hpartial : t.spec.podTemplate with
  | none => rfl
  | some p =>
    rw [hpartial] at hnames
    simpa using hnames

/-- A pod is named after its instance by the API, in the namespace of the instance. -/
theorem buildPod_metadata {i : Instance} {t : Template} {pod : Pod} (h : buildPod i t = .ok pod) :
    pod.metadata.name = "" ∧ pod.metadata.generateName = i.name ++ "-"
      ∧ ∀ ns, i.ns = some ns → ns ≠ "" → pod.metadata.ns = ns := by
  have hns : ∀ ns, i.ns = some ns → ns ≠ "" → pod.metadata.ns = ns :=
    fun ns hns hne => buildPod_ns h hns hne
  obtain ⟨hvalid, -⟩ := buildPod_isOk_iff.mp ⟨pod, h⟩
  obtain ⟨merged, -, hmerged, -, rfl, -⟩ := buildPod_ok h
  refine ⟨?_, ?_, hns⟩
  · have hlayers : ∀ p ∈ podLayers i t.withDefaults, p.metadata.name = "" :=
      List.forall_mem_cons.mpr ⟨rfl, List.forall_mem_cons.mpr
        ⟨Template.name_podTemplate hvalid, List.forall_mem_singleton.mpr rfl⟩⟩
    have hdefaults : (daemonDefaults i t.withDefaults).metadata.name = "" := rfl
    have hname : merged.metadata.name = "" := Pod.withstands_name.mergeAll hmerged hdefaults hlayers
    exact hname
  · obtain ⟨others, hmetadata⟩ := exists_metadata_identity hmerged
    have hname : Rules.text.lay others.generateName (i.name ++ "-")
        = some merged.metadata.generateName :=
      (PodMeta.fieldwise.partwise.lay_iff _ _ _).mp hmetadata (.field "generateName") _ rfl
    have hset : ¬ (i.name ++ "-").isEmpty = true := by simp
    exact (Option.some.inj hname).symm.trans (if_neg hset)

/-- For every instance and template: a pod is built, or the template is refused, or its layers do not
merge. In a namespace the template is refused exactly if an undisturbed cycle of its own states that
it is not ready, because its specification is invalid, and in the same words. A pod that is built has
no name, the instance's name to start its name with, and the instance's namespace. -/
theorem buildPod_outcome (i : Instance) (t : Template) :
    ((∃ pod, buildPod i t = .ok pod) ∨ (∃ summary, buildPod i t = .error (.validation summary))
        ∨ ∃ m, buildPod i t = .error (.merge m))
      ∧ (∀ ns, t.ns = some ns → ∀ (σ : Type) (server : Server σ) (now : Instant) (s : σ),
        ¬ (t.reconcile now).Hindered server s →
          ∃ c, ((t.reconcile now).run server s).result = .ok .awaitChange
            ∧ (∀ c', t.Reports server now s c' ↔ c' = c)
            ∧ ∀ message, (∃ summary, buildPod i t = .error (.validation summary)
                ∧ (Failure.validation summary).message = message)
              ↔ c.status = .no ∧ c.reason = "InvalidSpec" ∧ c.message = message)
      ∧ ∀ pod, buildPod i t = .ok pod →
        pod.metadata.name = "" ∧ pod.metadata.generateName = i.name ++ "-"
          ∧ ∀ ns, i.ns = some ns → ns ≠ "" → pod.metadata.ns = ns := by
  refine ⟨?_, ?_, fun pod => buildPod_metadata⟩
  · rcases buildPod_cases i t with ⟨-, h⟩ | ⟨-, h | h⟩
    · exact Or.inr (Or.inl ⟨_, h⟩)
    · exact Or.inl h
    · exact Or.inr (Or.inr h)
  · intro ns hns σ server now s hfree
    obtain ⟨earlier, hok, hreports⟩ := Template.reports_iff hns hfree
    refine ⟨_, hok, hreports, ?_⟩
    intro message
    rw [Template.readiness_invalid_iff]
    constructor
    · intro hrefused
      obtain ⟨summary, h, hmessage⟩ := hrefused
      exact ⟨_, Template.refusal?_eq_some_iff.mpr ⟨summary, rfl, h⟩, hmessage⟩
    · intro hrefused
      obtain ⟨e, he, hmessage⟩ := hrefused
      obtain ⟨summary, rfl, h⟩ := (Template.refusal?_eq_some_iff (i := i)).mp he
      exact ⟨summary, h, hmessage⟩

/-- A partial pod that has a name is refused. Without the name it is accepted, and what it says of
its name and its namespace goes unheard. -/
theorem buildPod_outcome_named :
    let i : Instance := {
      metadata := { name := some "my-build", ns := some "ci" }
      spec := { template := "default" } }
    let t (name : String) : Template := {
      metadata := { name := some "default", ns := some "ci" }
      spec := {
        podTemplate := some {
          metadata := { name := name, generateName := "mine-", ns := "elsewhere" } } } }
    let summary := "spec.podTemplate.metadata.name: must not be set, as pod names are "
      ++ "automatically generated"
    buildPod i (t "mine") = .error (.validation summary)
      ∧ (∃ c, (t "mine").Reports Simulation.directServer ⟨0, 0⟩ sampleMaps c ∧ c.status = .no
        ∧ c.reason = "InvalidSpec" ∧ c.message = "validation error: " ++ summary)
      ∧ ∃ pod, buildPod i (t "") = .ok pod ∧ pod.metadata.name = ""
        ∧ pod.metadata.generateName = "my-build-" ∧ pod.metadata.ns = "ci" := by
  intro i t summary
  have hrefused : buildPod i (t "mine") = .error (.validation summary) :=
    buildPod_refused_iff.mpr ⟨by decide, by decide⟩
  have hran : (((t "mine").reconcile ⟨0, 0⟩).run Simulation.directServer sampleMaps).result.isOk
      = true := by decide
  have hrunning : Simulation.directServer.stopping
      (((t "mine").reconcile ⟨0, 0⟩).run Simulation.directServer sampleMaps).state = false := by
    decide
  have hfree : ¬ ((t "mine").reconcile ⟨0, 0⟩).Hindered Simulation.directServer sampleMaps := by
    obtain ⟨action, hok⟩ := exists_of_isOk hran
    have hlog := Template.reconcile_ok rfl hok
    rw [if_neg (by decide)] at hlog
    intro hhindered
    rcases hhindered with ⟨x, hx, e, he⟩ | hstop
    · rw [hlog] at hx
      obtain rfl := List.mem_singleton.mp hx
      exact nomatch he
    · exact Bool.false_ne_true (hrunning.symm.trans hstop)
  obtain ⟨-, hreports, -⟩ := buildPod_outcome i (t "mine")
  obtain ⟨c, -, hc, hmessage⟩ := hreports "ci" rfl _ Simulation.directServer ⟨0, 0⟩ sampleMaps hfree
  obtain ⟨pod, hpod⟩ := exists_pod (i := i) (t := t "") (by decide +kernel)
  obtain ⟨-, -, hmetadata⟩ := buildPod_outcome i (t "")
  obtain ⟨hname, hgenerate, hns⟩ := hmetadata pod hpod
  exact ⟨hrefused, ⟨c, (hc c).mpr rfl, (hmessage _).mp ⟨summary, hrefused, rfl⟩⟩, pod, hpod, hname,
    hgenerate, hns "ci" rfl (by decide)⟩

end BuildFleet
