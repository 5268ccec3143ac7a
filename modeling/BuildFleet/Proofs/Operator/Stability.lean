import BuildFleet.Proofs.Operator.Survivor

/-!
# Settling on one pod

A cycle in which all calls are answered, and in which a pod can be built if one is needed, does not
fail (`Calm`, `Calm.exists_action`). What is more, it is the only one that is needed. If the
instance has pods, the first one is kept and the others are deleted, and if it has none, one is
created. From then on the status refers to a pod that is there, and to no other
(`Holdings.Settled`), and so there is nothing left to create or to delete:

> `runCycle_converges`: after one calm cycle the instance is settled on one pod, and stays so as
> long as nobody else deletes that pod.

Once it is settled, it does not matter any more which calls fail.
-/

namespace BuildFleet

open Program

/-! ## Calm cycles -/

/-- Whether the instance gets a pod from the template: it keeps the rules, and its pod can be built
and sent. -/
def Instance.getsPod (i : Instance) (t : Template) : Bool :=
  (i.checkAgainst t).isValid && match BuildFleet.buildPod i t with
    | .ok pod => (pod.toApi? i.owner).isSome
    | .error _ => false

/-- Whether a call was answered, and with a template that the instance gets a pod from if one was
looked up. -/
def Exchange.goesWell (i : Instance) : Exchange → Bool
  | ⟨.getTemplate _ _, .ok reply⟩ => reply.any i.getsPod
  | x => x.reply.isOk

/-- In a cycle all calls go well, and shutdown is not requested. -/
structure Calm {σ : Type} (server : Server σ) (view : σ → Holdings) (i : Instance)
    (config : OperatorConfig) (now : Instant) (s : σ) : Prop where
  well : ∀ x ∈ cycleExchanges server view i config now s, x.goesWell i = true
  running : server.stopping (runCycle server view i config now s).state = false

/-- What a reply is in a calm cycle. -/
def Instance.Answered (i : Instance) (c : Call) (r : c.Reply) : Prop :=
  Exchange.goesWell i ⟨c, .ok r⟩ = true

/-- An exchange that goes well has a reply, and it is one that the call can have. -/
theorem Exchange.exists_reply {i : Instance} {x : Exchange} (hx : x.goesWell i = true) :
    ∃ r, x.reply = .ok r ∧ i.Answered x.call r := by
  obtain ⟨c, reply⟩ := x
  cases reply with
  | ok r => exact ⟨r, rfl, hx⟩
  | error e => cases c <;> exact nomatch hx

/-- An instance that gets a pod is accepted, and its pod is one of the API. -/
theorem Instance.exists_pod_of_getsPod {i : Instance} {t : Template} (ht : i.getsPod t = true) :
    (i.checkAgainst t).isValid = true
      ∧ ∃ pod api, BuildFleet.buildPod i t = .ok pod ∧ pod.toApi? i.owner = some api := by
  unfold Instance.getsPod at ht
  obtain ⟨hvalid, hpod⟩ := Bool.and_eq_true_iff.mp ht
  refine ⟨hvalid, ?_⟩
  split at hpod
  · next pod hbuilt =>
    obtain ⟨api, hapi⟩ := Option.isSome_iff_exists.mp hpod
    exact ⟨pod, api, hbuilt, hapi⟩
  · exact nomatch hpod

/-! ## A calm cycle does not fail -/

/-- Finding the template yields one with which the instance gets a pod. -/
theorem resolveTemplate_yields (i : Instance) (ns name : String) :
    (resolveTemplate ns name).Yields i.Answered fun t => i.getsPod t = true := by
  refine (yields_perform (.getTemplate ns name)).bind ?_
  intro reply hreply
  obtain ⟨t, rfl, ht⟩ := (Option.any_eq_true _ reply).mp hreply
  exact yields_pure ht

theorem discoverPods_yields (i : Instance) :
    ∀ refs : List ManagedRef, (discoverPods refs).Yields i.Answered fun _ => True
  | [] => yields_pure trivial
  | r :: rest => by
    refine (yields_perform (.getPod r.ns r.name)).bind fun _ _ => ?_
    exact (discoverPods_yields i rest).bind fun _ _ => yields_pure trivial

theorem deletePods_yields (i : Instance) (ns : String) :
    ∀ names : List String, (deletePods ns names).Yields i.Answered fun _ => True
  | [] => yields_pure trivial
  | name :: rest =>
    (yields_modify (.deletePod ns name)).bind fun _ _ => deletePods_yields i ns rest

section

variable {i : Instance} {ns : String} (hns : i.ns = some ns)

include hns

theorem namespaceOf_yields : (namespaceOf i.ns).Yields i.Answered fun _ => True := by
  rw [hns]
  exact yields_pure trivial

/-- An instance that gets a pod keeps the rules. -/
theorem Instance.validate_yields (htemplate : i.spec.template.isEmpty = false) :
    i.validate.Yields i.Answered fun report => report.isValid = true := by
  unfold Instance.validate
  rw [htemplate, if_neg Bool.false_ne_true]
  refine (namespaceOf_yields hns).bind fun ns' _ => ?_
  refine (resolveTemplate_yields i ns' _).bind fun t ht => ?_
  exact yields_pure (Instance.exists_pod_of_getsPod ht).1

theorem Instance.requestPod_yields : i.requestPod.Yields i.Answered fun _ => True := by
  have hbuild : i.buildPod.Yields i.Answered fun pod => ∃ api, pod.toApi? i.owner = some api := by
    refine (namespaceOf_yields hns).bind fun ns' _ => ?_
    refine (resolveTemplate_yields i ns' _).bind fun t ht => ?_
    obtain ⟨-, pod, api, hpod, hapi⟩ := Instance.exists_pod_of_getsPod ht
    exact ⟨pod, hpod, api, hapi⟩
  refine hbuild.bind ?_
  rintro pod ⟨api, hapi⟩
  rw [hapi]
  exact yields_pure trivial

variable (htemplate : i.spec.template.isEmpty = false)

include htemplate

/-- Creating a pod yields a result. -/
theorem createInstancePod_yields : (createInstancePod i ns).Yields i.Answered fun _ => True := by
  refine (i.validate_yields hns htemplate).bind fun report hvalid => ?_
  rw [if_pos hvalid]
  refine (i.requestPod_yields hns).bind fun pod _ => ?_
  exact (yields_modify (.createPod ns pod)).bind fun _ _ => yields_pure trivial

/-- Bringing the pods down to one yields a result. -/
theorem convergePods_yields (backoff : Nat) : ∀ pods : List ApiPod,
    (convergePods i ns backoff pods).Yields i.Answered fun _ => True
  | [] => createInstancePod_yields hns htemplate
  | [p] => by
    rw [convergePods_singleton]
    exact yields_pure trivial
  | _ :: p :: pods =>
    (deletePods_yields i ns ((p :: pods).map ApiPod.name)).bind fun _ _ => yields_pure trivial

/-- A cycle gives a result unless something goes wrong. -/
theorem Instance.reconcile_yields (config : OperatorConfig) (now : Instant) :
    (i.reconcile config now).Yields i.Answered fun _ => True := by
  rw [reconcile_eq hns]
  refine (discoverPods_yields i _).bind fun pods _ => ?_
  refine (convergePods_yields hns htemplate config.notReadyBackoff pods).bind fun progress _ => ?_
  exact (yields_modify (.patchStatus ns i.name _)).bind fun _ _ => yields_pure trivial

end

section

variable {σ : Type} {server : Server σ} {view : σ → Holdings} {i : Instance} {ns : String}
  {config : OperatorConfig} {now : Instant} {s : σ}

/-- A calm cycle gives a result. -/
theorem Calm.exists_action (hcalm : Calm server view i config now s) (hns : i.ns = some ns)
    (htemplate : i.spec.template.isEmpty = false) :
    ∃ action, (runCycle server view i config now s).result = .ok action := by
  let stored : Instance := { i with status := (view s).status }
  have hyields : (stored.reconcile config now).Yields i.Answered fun _ => True :=
    stored.reconcile_yields hns htemplate config now
  obtain ⟨action, hok, -⟩ := hyields.run server s
    (fun x hx => Exchange.exists_reply (hcalm.well x hx)) hcalm.running
  exact ⟨action, hok⟩

/-- In a calm cycle an instance is not refused. -/
theorem Calm.isValid (hcalm : Calm server view i config now s)
    (htemplate : i.spec.template.isEmpty = false) {report : Report}
    (hchecked : Checked { i with status := (view s).status }
      (cycleExchanges server view i config now s) report) : report.isValid = true := by
  cases hchecked with
  | unnamed empty => exact nomatch htemplate.symm.trans empty
  | against found =>
    have hgets := hcalm.well _ found
    exact (Instance.exists_pod_of_getsPod hgets).1

end

/-! ## The first cycle -/

/-- What is left of the pods that were referred to, or created in between: one. -/
structure Converges (before after : Holdings) (kept : ManagedRef) : Prop where
  /-- The status refers to it and to no other. -/
  single : after.podRefs = [kept]
  /-- It is there. -/
  present : kept.key ∈ after.pods
  /-- The others that were referred to are gone. -/
  others : ∀ r ∈ before.podRefs, r.key ∈ after.pods → r = kept
  /-- No other pod is new. -/
  fresh : ∀ key ∈ after.pods, key ∉ before.pods → key = kept.key
  /-- It is the first one that was there. -/
  survivor : ∀ r, before.survivor? = some r → kept = r
  /-- If none was there, it is new. -/
  created : before.survivor? = none → kept.key ∉ before.pods

section

variable {ns : String} {h : Holdings} {st : InstanceStatus}

/-- None was there, and one is created. -/
theorem Converges.of_new (hp : h.Proper ns) (hlive : h.liveRefs = []) {name : String}
    (hfresh : (⟨ns, name⟩ : ObjectKey) ∉ h.pods) (hst : st.refsOf .pod = [⟨.pod, ns, name⟩]) :
    Converges h ((h.withPod ⟨ns, name⟩).withStatus st) ⟨.pod, ns, name⟩ where
  single := hst
  present := List.mem_append_right _ (List.mem_singleton_self _)
  others := by
    intro r hr hin
    rcases List.mem_append.mp hin with hin | hin
    · exact absurd hin (Holdings.not_mem_pods_of_liveRefs_eq_nil hlive hr)
    · -- a pod that was gone is there again: the new one, under its old name
      have hkey := List.mem_singleton.mp hin
      rw [← hp.mk_eq hr, show r.name = name from congrArg ObjectKey.name hkey]
  fresh := by
    intro key hin hnew
    rcases List.mem_append.mp hin with hin | hin
    · exact absurd hin hnew
    · exact List.mem_singleton.mp hin
  survivor := by
    intro r hr
    have hnone : h.survivor? = none := congrArg List.head? hlive
    exact nomatch hnone.symm.trans hr
  created := fun _ => hfresh

/-- The first one that is there is kept, and the others are deleted. -/
theorem Converges.of_first (hp : h.Proper ns) {kept : ManagedRef} {surplus : List ManagedRef}
    (hlive : h.liveRefs = kept :: surplus) (hst : st.refsOf .pod = [kept]) :
    Converges h ((h.without (surplus.map fun r => ⟨ns, r.name⟩)).withStatus st) kept := by
  have hkept : h.survivor? = some kept := Holdings.survivor?_eq_some_iff.mpr ⟨surplus, hlive⟩
  have hleaves : Leaves ns h (h.without (surplus.map fun r => ⟨ns, r.name⟩)) := by
    refine .pruned ?_
    rw [hlive]
    exact List.Subset.refl _
  refine ⟨hst, (Holdings.survivor?_mem (hleaves.survivor?_eq hp hkept)).2, ?_, ?_, ?_, ?_⟩
  · intro r hr hin
    obtain ⟨hin, hnot⟩ := Holdings.mem_pods_without.mp hin
    have hmem := Holdings.mem_liveRefs.mpr ⟨hr, hin⟩
    rw [hlive] at hmem
    rcases List.mem_cons.mp hmem with rfl | hsurplus
    · rfl
    · rw [hp.key_eq hr] at hnot
      exact absurd (List.mem_map.mpr ⟨r, hsurplus, rfl⟩) hnot
  · exact fun key hin hnew => absurd (Holdings.mem_pods_without.mp hin).1 hnew
  · exact fun r hr => Option.some.inj (hkept.symm.trans hr)
  · exact fun hnone => nomatch hnone.symm.trans hkept

end

/-- Converging that is not refused leaves one pod. -/
theorem Settles.converges {i : Instance} {ns : String} {backoff : Nat} {h h' : Holdings}
    {log : List Exchange} {pods : List ApiPod} {progress : Progress} (hp : h.Proper ns)
    (hnames : pods.map ApiPod.name = h.liveRefs.map ManagedRef.name)
    (hsettles : Settles i ns backoff h log pods progress h')
    (haccepted : ∀ report, Checked i log report → report.isValid = true)
    (previous : InstanceStatus) (now : Instant) :
    ∃ kept, Converges h (h'.withStatus (previous.next ns progress now)) kept := by
  cases hlive : h.liveRefs with
  | nil =>
    rcases hsettles.of_none hnames hlive with ⟨-, -, report, hchecked, hbroken⟩
        | ⟨name, hfresh, hpod, rfl⟩
    · exact absurd (haccepted report hchecked) hbroken
    · refine ⟨_, .of_new hp hlive hfresh ?_⟩
      rw [refsOf_next, hpod]
      rfl
  | cons kept surplus =>
    have hkept : h.survivor? = some kept := Holdings.survivor?_eq_some_iff.mpr ⟨surplus, hlive⟩
    have hst := hsettles.podRefs_eq hnames previous now hp hkept
    obtain ⟨-, rfl⟩ := hsettles.of_live hnames hlive
    exact ⟨kept, .of_first hp hlive hst⟩

section

variable {σ : Type} {server : Server σ} {view : σ → Holdings} {i : Instance}
  {config : OperatorConfig} {now : Instant} {s : σ}

/-- After a calm cycle one pod is left. -/
theorem Calm.converges (hcalm : Calm server view i config now s)
    (hs : Serves server view ⟨i.ns.getD "", i.name⟩)
    (htemplate : i.spec.template.isEmpty = false) (hp : (view s).Proper (i.ns.getD ""))
    {action : Action} (hok : (runCycle server view i config now s).result = .ok action) :
    ∃ kept, Converges (view s) (view (runCycle server view i config now s).state) kept := by
  have haccepted : ∀ report, Checked _ _ report → report.isValid = true :=
    fun _ hchecked => hcalm.isValid htemplate hchecked
  have hends := runCycle_completed hs hok
  generalize view (runCycle server view i config now s).state = after at hends ⊢
  generalize cycleExchanges server view i config now s = log at hends haccepted
  cases hends with
  | recorded conducted settles =>
    exact settles.converges hp conducted.lookedUp.names haccepted _ _

end

/-! ## All later cycles -/

/-- The status refers to a pod that is there, and to no other. -/
structure Holdings.Settled (kept : ManagedRef) (h : Holdings) : Prop where
  single : h.podRefs = [kept]
  present : kept.key ∈ h.pods

namespace Holdings.Settled

variable {kept : ManagedRef} {h : Holdings}

/-- What has settled has one live reference. -/
theorem liveRefs_eq (hsettled : h.Settled kept) : h.liveRefs = [kept] :=
  liveRefs_of_cons hsettled.single hsettled.present

/-- What has settled has that as its survivor. -/
theorem survivor?_eq (hsettled : h.Settled kept) : h.survivor? = some kept :=
  congrArg List.head? hsettled.liveRefs_eq

end Holdings.Settled

section

variable {i : Instance} {ns : String} {h h' : Holdings} {config : OperatorConfig} {now : Instant}
  {log : List Exchange} {kept : ManagedRef}

/-- A cycle that ends leaves the survivor as the only reference. -/
theorem Completed.podRefs_eq (hp : h.Proper ns) {action : Action}
    (hends : Completed i ns h config now action h' log) (hkept : h.survivor? = some kept) :
    h'.podRefs = [kept] := by
  cases hends with
  | recorded conducted settles =>
    exact settles.podRefs_eq conducted.lookedUp.names _ _ hp hkept

/-- A cycle that is interrupted leaves the only reference. -/
theorem Interrupted.podRefs_eq (hp : h.Proper ns) (hends : Interrupted i ns h config now h' log)
    (hkept : h.survivor? = some kept) (hsingle : h.podRefs = [kept]) : h'.podRefs = [kept] := by
  cases hends with
  | lookingUp reads => exact hsingle
  | converging conducted leaves => exact leaves.podRefs_eq.trans hsingle
  | recording conducted settles =>
    exact settles.podRefs_eq conducted.lookedUp.names _ _ hp hkept

end

section

variable {σ : Type} {server : Server σ} {view : σ → Holdings} {i : Instance} {kept : ManagedRef}
  {s s' : σ}

/-- A cycle leaves an instance that is settled as it is, also a cycle that fails. -/
theorem runCycle_settled (hs : Serves server view ⟨i.ns.getD "", i.name⟩)
    (hp : (view s).Proper (i.ns.getD "")) (hsettled : (view s).Settled kept)
    (config : OperatorConfig) (now : Instant) :
    (view (runCycle server view i config now s).state).Settled kept
      ∧ (∀ ns pod, .createPod ns pod ∉ (runCycle server view i config now s).calls)
      ∧ ∀ ns name, .deletePod ns name ∉ (runCycle server view i config now s).calls := by
  have hkept := hsettled.survivor?_eq
  have hnext := (runCycle_survivor hs config now hp).2 kept hkept
  refine ⟨⟨?_, (Holdings.survivor?_mem hnext).2⟩, ?_, ?_⟩
  · cases hresult : (runCycle server view i config now s).result with
    | ok action => exact (runCycle_completed hs hresult).podRefs_eq hp hkept
    | error e => exact (runCycle_interrupted hs hresult).podRefs_eq hp hkept hsettled.single
  · intro ns pod hc
    obtain ⟨-, -, hnone⟩ := runCycle_conducted hs config now hc rfl
    exact nomatch hnone.symm.trans hsettled.liveRefs_eq
  · intro ns name hc
    obtain ⟨-, -, r, hr, -⟩ := runCycle_conducted hs config now hc rfl
    rw [hsettled.liveRefs_eq] at hr
    exact absurd hr List.not_mem_nil

/-- It stays settled all along, as long as its pod does not disappear from outside. -/
theorem Course.settled (hs : Serves server view ⟨i.ns.getD "", i.name⟩)
    (hp : (view s).Proper (i.ns.getD "")) (hsettled : (view s).Settled kept) {calls : List Call}
    (course : Course server view i (Eq kept.key) s calls s') :
    (view s').Settled kept ∧ (∀ ns pod, .createPod ns pod ∉ calls)
      ∧ ∀ ns name, .deletePod ns name ∉ calls := by
  induction course with
  | start => exact ⟨hsettled, fun _ _ => List.not_mem_nil, fun _ _ => List.not_mem_nil⟩
  | outside past status gone spared ih =>
    obtain ⟨hsettled', hcalls⟩ := ih
    exact ⟨⟨(podRefs_of_status status).trans hsettled'.single,
      spared _ rfl hsettled'.present⟩, hcalls⟩
  | cycle past config now ih =>
    obtain ⟨hsettled', hcreates, hdeletes⟩ := ih
    obtain ⟨hnext, hcreates', hdeletes'⟩ :=
      runCycle_settled hs (past.proper hs hp) hsettled' config now
    refine ⟨hnext, ?_, ?_⟩
    · intro ns pod hc
      exact (List.mem_append.mp hc).elim (hcreates ns pod) (hcreates' ns pod)
    · intro ns name hc
      exact (List.mem_append.mp hc).elim (hdeletes ns name) (hdeletes' ns name)

/-- A calm cycle gives a result and leaves one pod, the first one that was there or a new one. After
that the instance stays settled on it, whatever cycles follow: none creates or deletes a pod, and
those that are calm give a result. -/
theorem runCycle_converges {ns : String} (hns : i.ns = some ns)
    (hs : Serves server view ⟨ns, i.name⟩) (htemplate : i.spec.template.isEmpty = false)
    (hp : (view s).Proper ns) {config : OperatorConfig} {now : Instant}
    (hcalm : Calm server view i config now s) :
    (∃ action, (runCycle server view i config now s).result = .ok action)
      ∧ ∃ kept, Converges (view s) (view (runCycle server view i config now s).state) kept
        ∧ ∀ later s', Course server view i (Eq kept.key) (runCycle server view i config now s).state
            later s' →
          (view s').Settled kept
            ∧ (∀ ns pod, .createPod ns pod ∉ later) ∧ (∀ ns name, .deletePod ns name ∉ later)
            ∧ ∀ config now, Calm server view i config now s' →
              ∃ action, (runCycle server view i config now s').result = .ok action := by
  have hns' : i.ns.getD "" = ns := by
    rw [hns]
    rfl
  rw [← hns'] at hs hp
  obtain ⟨action, hok⟩ := hcalm.exists_action hns htemplate
  obtain ⟨kept, hconverges⟩ := hcalm.converges hs htemplate hp hok
  refine ⟨⟨action, hok⟩, kept, hconverges, ?_⟩
  -- from here on it is settled, and calm only matters for the results
  intro later s' course
  have hproper := (runCycle_survivor hs config now hp).1
  obtain ⟨hsettled, hcreates, hdeletes⟩ :=
    course.settled hs hproper ⟨hconverges.single, hconverges.present⟩
  exact ⟨hsettled, hcreates, hdeletes, fun config now hcalm' =>
    hcalm'.exists_action hns htemplate⟩

end

/-- An instance without pods: one is created, and the next cycle makes do with it. -/
theorem runCycle_converges_created :
    let server := Simulation.tidyServer sampleKey
    let view := Simulation.holdings sampleKey
    let kept := ManagedRef.mk .pod "ci" "my-build-1"
    ∃ s s' s'', s' = (runCycle server view sampleInstance {} ⟨0, 0⟩ s).state
      ∧ s'' = (runCycle server view sampleInstance {} ⟨0, 0⟩ s').state
      ∧ (view s).pods = [] ∧ Calm server view sampleInstance {} ⟨0, 0⟩ s
      ∧ Converges (view s) (view s') kept ∧ (view s'').Settled kept
      ∧ ∀ ns pod, .createPod ns pod ∉ (runCycle server view sampleInstance {} ⟨0, 0⟩ s').calls := by
  intro server view kept
  let s₀ := sampleState []
  let s₁ := (runCycle server view sampleInstance {} ⟨0, 0⟩ s₀).state
  obtain ⟨hdistinct, hns, hwell, hrunning, hrefs⟩ : (view s₀).podRefs.Nodup
      ∧ (∀ r ∈ (view s₀).podRefs, r.ns = "ci")
      ∧ (∀ x ∈ cycleExchanges server view sampleInstance {} ⟨0, 0⟩ s₀,
        x.goesWell sampleInstance = true)
      ∧ server.stopping (runCycle server view sampleInstance {} ⟨0, 0⟩ s₀).state = false
      ∧ (view s₁).podRefs = [kept] := by decide
  have hcalm : Calm server view sampleInstance {} ⟨0, 0⟩ s₀ := ⟨hwell, hrunning⟩
  obtain ⟨-, kept', hconverges, hlater⟩ := runCycle_converges (i := sampleInstance) rfl
    (Simulation.serves sampleKey) rfl ⟨hdistinct, hns⟩ hcalm
  have hkept : [kept'] = [kept] := hconverges.single.symm.trans hrefs
  obtain rfl : kept' = kept := List.head_eq_of_cons_eq hkept
  obtain ⟨hsettled, hcreates, -, -⟩ := hlater _ _ ((Course.start s₁).cycle {} ⟨0, 0⟩)
  rw [List.nil_append] at hcreates
  exact ⟨s₀, s₁, _, rfl, rfl, rfl, hcalm, hconverges, hsettled, hcreates⟩

end BuildFleet
