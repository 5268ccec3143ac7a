import BuildFleet.Proofs.Operator.Conformance
import BuildFleet.Proofs.Operator.Phases
import BuildFleet.Proofs.Operator.Survivor
import BuildFleet.Proofs.Status.Conditions

/-!
# A cycle that is repeated

Once an instance has its pod, or was refused one, a cycle has nothing to do but to look again. It
still writes a status each time. Were that status another one each time, the operator would never
come to rest: what it writes is what wakes it up.

There are two halves to this. A status that follows from the same outcome twice is the same
(`InstanceStatus.next_next`), whatever it was at first: references, conditions, the order they are
in, and their times. And a cycle that creates and deletes nothing comes to the same outcome when the
status refers to what it found (`discoverPods_again`), because what a program comes to that only
looks things up can be told from what there is to look up (`Program.lookUp`).

> `Instance.reconcile_again`: the two together.
-/

namespace BuildFleet

/-! ## The same status -/

/-- The condition of an outcome differs only in its time from one cycle to the next. -/
theorem Outcome.condition_restates (o : Outcome) (type : String) (now now' : Instant) :
    (o.condition type now').Restates (o.condition type now) := ⟨now', rfl⟩

/-- What follows from an outcome a second time is what followed the first time, at any two times. -/
theorem InstanceStatus.next_next (previous : InstanceStatus) (ns : String) (p : Progress)
    (now now' : Instant) :
    (previous.next ns p now).next ns p now' = previous.next ns p now := by
  have hrefs : ((previous.next ns p now).next ns p now').refs = (previous.next ns p now).refs := by
    have hpod : (p.pod.map fun name => ManagedRef.mk .pod ns name).toList.filter
        (fun r => r.kind != .pod) = [] := by
      cases p.pod with
      | none => rfl
      | some name => rfl
    show ((previous.refs.filter fun r => r.kind != .pod)
      ++ (p.pod.map fun name => ManagedRef.mk .pod ns name).toList).filter (fun r => r.kind != .pod)
        ++ _ = (previous.refs.filter fun r => r.kind != .pod) ++ _
    rw [List.filter_append, hpod, List.append_nil, List.filter_filter]
    simp only [Bool.and_self]
  have hconditions : ((previous.next ns p now).next ns p now').conditions
      = (previous.next ns p now).conditions := by
    have hne : Condition.deployed ≠ Condition.ready := by decide
    exact Condition.set_set_again hne (p.outcome.condition_restates _ now now')
      (p.outcome.condition_restates _ now now') previous.conditions
  have hendpoint : ((previous.next ns p now).next ns p now').endpoint
      = (previous.next ns p now).endpoint := by
    obtain ⟨outcome, pod, keepEndpoint⟩ := p
    -- only while pods are pruned does it depend on the endpoint before
    cases outcome with
    | applying => cases keepEndpoint <;> rfl
    | requeue reason message after => rfl
    | failed reason message => rfl
    | done endpoint => rfl
  exact (InstanceStatus.mk.injEq ..).mpr ⟨hconditions, hrefs, hendpoint⟩

/-! ## What can be told from look-ups -/

/-- What is looked up is read. -/
theorem Lookups.isRead_of_reply? {l : Lookups} {c : Call} {r : c.Reply}
    (h : l.reply? c = some r) : c.isRead = true := by
  cases c with
  | getPod ns name => rfl
  | getTemplate ns name => rfl
  | _ => exact nomatch h

namespace Program

variable {σ α β : Type} {server : Server σ} {seen : σ → Lookups}

/-- What the program comes to if it only looks things up; none if it does more. -/
def lookUp (l : Lookups) : Program α → Option (Except Failure α)
  | finish r => some r
  | guarded next => next.lookUp l
  | call c next => (l.reply? c).bind fun r => (next r).lookUp l

/-- Two steps are looked up one after the other. -/
theorem lookUp_bind (l : Lookups) (f : α → Program β) : ∀ p : Program α,
    (p >>= f).lookUp l = (p.lookUp l).bind fun r =>
      match r with
      | .ok a => (f a).lookUp l
      | .error e => some (.error e)
  | finish (.ok _) => rfl
  | finish (.error _) => rfl
  | guarded next => lookUp_bind l f next
  | call c next => by
    show ((l.reply? c).bind fun r => (next r >>= f).lookUp l) = _
    simp only [lookUp_bind l f, lookUp, Option.bind_assoc]

/-- Both parts of a program come to a result that it comes to. -/
theorem lookUp_bind_ok {l : Lookups} {p : Program α} {f : α → Program β} {b : β} :
    (p >>= f).lookUp l = some (.ok b)
      ↔ ∃ a, p.lookUp l = some (.ok a) ∧ (f a).lookUp l = some (.ok b) := by
  rw [lookUp_bind]
  cases p.lookUp l with
  | none => simp
  | some r =>
    cases r with
    | error e => simp
    | ok a => simp

/-- Something gets in the way of a run: a call fails, or shutdown is requested. -/
def Hindered (server : Server σ) (p : Program α) (s : σ) : Prop :=
  (∃ x ∈ p.exchanges server s, ∃ e, x.reply = .error e)
    ∨ server.stopping (p.run server s).state = true

/-- What gets in the way of a first part that fails gets in the way of the whole. -/
theorem Hindered.bind {p : Program α} {s : σ} (h : p.Hindered server s) {e : Failure}
    (herror : (p.run server s).result = .error e) (f : α → Program β) :
    (p >>= f).Hindered server s := by
  have hstate : ((p >>= f).run server s).state = (p.run server s).state := by
    rw [run_bind, herror]
  unfold Hindered
  rw [exchanges_bind_of_error herror, hstate]
  exact h

/-- So does what gets in the way of the rest. -/
theorem Hindered.after {p : Program α} {s : σ} {a : α} (hok : (p.run server s).result = .ok a)
    {f : α → Program β} (h : (f a).Hindered server (p.run server s).state) :
    (p >>= f).Hindered server s := by
  have hstate : ((p >>= f).run server s).state = ((f a).run server (p.run server s).state).state := by
    rw [run_bind, hok]
  unfold Hindered
  rw [exchanges_bind_of_ok hok, hstate]
  refine h.imp_left ?_
  intro hfailed
  obtain ⟨x, hx, he⟩ := hfailed
  exact ⟨x, List.mem_append_right _ hx, he⟩

/-- A modifying call fails only if something gets in its way. -/
theorem modify_hindered {c : Call} {s : σ} {e : Failure}
    (herror : ((modify c).run server s).result = .error e) : (modify c).Hindered server s := by
  unfold Hindered modify perform at *
  rw [run] at herror ⊢
  rw [exchanges]
  by_cases hstop : server.stopping s = true
  · rw [if_pos hstop, if_pos hstop]
    exact Or.inr hstop
  · rw [if_neg hstop, run] at herror
    rw [if_neg hstop, if_neg hstop, exchanges]
    generalize server.answer c s = answer at herror ⊢
    obtain ⟨reply, s'⟩ := answer
    cases reply with
    | error e' => exact Or.inl ⟨_, List.mem_cons_self, e', rfl⟩
    | ok r => cases herror

/-- A run that only reads comes to what can be told from the look-ups. By induction on the
program. -/
theorem lookUp_of_reads (hs : Shows server seen) {a : α} : ∀ (p : Program α) (s : σ),
    (∀ x ∈ p.exchanges server s, x.call.isRead = true) → (p.run server s).result = .ok a →
      p.lookUp (seen s) = some (.ok a)
  | finish _, _, _, hok => congrArg some hok
  | guarded next, s, hreads, hok => by
    rw [exchanges] at hreads
    rw [run] at hok
    by_cases hstop : server.stopping s = true
    · rw [if_pos hstop] at hok
      cases hok
    · rw [if_neg hstop] at hreads hok
      exact lookUp_of_reads hs next s hreads hok
  | call c next, s, hreads, hok => by
    have htold := hs.told c s
    have hread := hs.read c s
    rw [exchanges] at hreads
    rw [run] at hok
    rw [lookUp]
    generalize server.answer c s = answer at hreads hok htold hread
    obtain ⟨reply, s'⟩ := answer
    cases reply with
    | error e => cases hok
    | ok r =>
      have hc : c.isRead = true := hreads _ List.mem_cons_self
      rw [htold r hc rfl, Option.bind_some, ← hread hc]
      exact lookUp_of_reads hs (next r) s' (fun x hx => hreads x (.tail _ hx)) hok

/-- What can be told from the look-ups is what a run comes to, which only reads, unless something
gets in its way. By induction on the program. -/
theorem run_lookUp (hs : Shows server seen) {a : α} : ∀ (p : Program α) (s : σ),
    p.lookUp (seen s) = some (.ok a) →
      (∀ x ∈ p.exchanges server s, x.call.isRead = true)
      ∧ seen (p.run server s).state = seen s
      ∧ ((p.run server s).result = .ok a
        ∨ (∃ e, (p.run server s).result = .error e) ∧ p.Hindered server s)
  | finish _, _, h => ⟨fun x hx => absurd hx List.not_mem_nil, rfl, Or.inl (Option.some.inj h)⟩
  | guarded next, s, h => by
    have hnext := run_lookUp hs next s h
    unfold Hindered at hnext ⊢
    rw [exchanges, run]
    by_cases hstop : server.stopping s = true
    · rw [if_pos hstop, if_pos hstop]
      exact ⟨fun x hx => absurd hx List.not_mem_nil, rfl, Or.inr ⟨⟨_, rfl⟩, Or.inr hstop⟩⟩
    · rw [if_neg hstop, if_neg hstop]
      exact hnext
  | call c next, s, h => by
    have htold := hs.told c s
    have hread := hs.read c s
    obtain ⟨r, hreply, h⟩ := Option.bind_eq_some_iff.mp h
    have hc : c.isRead = true := Lookups.isRead_of_reply? hreply
    unfold Hindered
    rw [exchanges, run]
    generalize server.answer c s = answer at htold hread ⊢
    obtain ⟨reply, s'⟩ := answer
    have hs' : seen s' = seen s := hread hc
    cases reply with
    | error e =>
      refine ⟨?_, hs', Or.inr ⟨⟨e, rfl⟩, Or.inl ⟨_, List.mem_cons_self, e, rfl⟩⟩⟩
      intro x hx
      rw [List.mem_singleton.mp hx]
      exact hc
    | ok r' =>
      obtain rfl : r' = r := Option.some.inj ((htold r' hc rfl).symm.trans hreply)
      rw [← hs'] at h ⊢
      obtain ⟨hreads, hseen, hend⟩ := run_lookUp hs (next r') s' h
      refine ⟨List.forall_mem_cons.mpr ⟨hc, hreads⟩, hseen, hend.imp_right ?_⟩
      intro hfails
      refine ⟨hfails.1, hfails.2.imp_left ?_⟩
      intro hfailed
      obtain ⟨x, hx, he⟩ := hfailed
      exact ⟨x, List.mem_cons_of_mem _ hx, he⟩

/-- The run makes the call and ends with the result, unless something gets in its way. All its other
calls look something up. -/
structure EndsWith (server : Server σ) (p : Program α) (s : σ) (c : Call) (a : α) : Prop where
  calls : ∀ x ∈ p.exchanges server s, x.call.isRead = true ∨ x.call = c
  ends : p.Hindered server s ∨ (p.run server s).result = .ok a ∧ c ∈ (p.run server s).calls

/-- A modifying call with a result after it ends with the call and the result. -/
theorem endsWith_modify (server : Server σ) (c : Call) (a : α) (s : σ) :
    EndsWith server (modify c >>= fun _ => pure a) s c a := by
  have hmakes : (modify c >>= fun _ => (pure a : Program α)).Makes (· = c) :=
    Makes.bind (fun _ => makes_pure a) (makes_modify rfl)
  refine ⟨fun x hx => Or.inr (hmakes.exchanges server s x hx), ?_⟩
  cases hresult : ((modify c).run server s).result with
  | error e => exact Or.inl ((modify_hindered hresult).bind hresult _)
  | ok r =>
    rw [← map_call_exchanges, exchanges_bind_of_ok hresult, (modify_ok hresult).2.1, run_bind,
      hresult]
    exact Or.inr ⟨rfl, List.mem_cons_self⟩

/-- What is looked up first comes out as it can be told. -/
theorem EndsWith.of_lookUp (hs : Shows server seen) {p : Program α} {f : α → Program β} {s : σ}
    {a : α} {b : β} {c : Call} (hp : p.lookUp (seen s) = some (.ok a))
    (hf : ∀ s', seen s' = seen s → EndsWith server (f a) s' c b) :
    EndsWith server (p >>= f) s c b := by
  obtain ⟨hreads, hseen, hend⟩ := run_lookUp hs p s hp
  obtain ⟨hcalls, hends⟩ := hf _ hseen
  rcases hend with hok | ⟨⟨e, herror⟩, hhindered⟩
  · refine ⟨?_, ?_⟩
    · intro x hx
      rw [exchanges_bind_of_ok hok] at hx
      rcases List.mem_append.mp hx with hx | hx
      · exact Or.inl (hreads x hx)
      · exact hcalls x hx
    · rcases hends with hhindered | ⟨hresult, hmem⟩
      · exact Or.inl (hhindered.after hok)
      · rw [run_bind, hok]
        exact Or.inr ⟨hresult, List.mem_append_right _ hmem⟩
  · refine ⟨?_, Or.inl (hhindered.bind herror f)⟩
    intro x hx
    rw [exchanges_bind_of_error herror] at hx
    exact Or.inl (hreads x hx)

end Program

/-! ## The same outcome -/

section

variable {l : Lookups} {i : Instance} {ns : String} {backoff : Nat}

/-- Discovering pods looks up those that are there. -/
theorem discoverPods_lookUp (l : Lookups) : ∀ refs : List ManagedRef,
    (discoverPods refs).lookUp l = some (.ok (refs.filterMap fun r => l.pod r.key))
  | [] => rfl
  | r :: rest => by
    show (discoverPods rest >>= fun pods =>
      (pure ((l.pod r.key).toList ++ pods) : Program (List ApiPod))).lookUp l = _
    rw [Program.lookUp_bind, discoverPods_lookUp l rest, List.filterMap_cons]
    cases l.pod r.key with
    | none => rfl
    | some p => rfl

/-- An instance that gets no pod without any being created is left without. -/
theorem createInstancePod_lookUp {progress : Progress}
    (h : (createInstancePod i ns).lookUp l = some (.ok progress)) : progress.pod = none := by
  obtain ⟨report, -, h⟩ := Program.lookUp_bind_ok.mp h
  split at h
  · -- a pod would be created
    obtain ⟨pod, -, h⟩ := Program.lookUp_bind_ok.mp h
    exact nomatch h
  · rw [← Except.ok.inj (Option.some.inj h)]

/-- If no pod is created or deleted, the pods that were found are those the status is to refer
to. -/
theorem convergePods_lookUp {progress : Progress} : ∀ {pods : List ApiPod},
    (convergePods i ns backoff pods).lookUp l = some (.ok progress) →
      progress.pod.toList = pods.map ApiPod.name
  | [], h => by
    rw [createInstancePod_lookUp h]
    rfl
  | [p], h => by
    rw [convergePods_singleton] at h
    rw [← Except.ok.inj (Option.some.inj h)]
    rfl
  | _ :: _ :: _, h => nomatch h

/-- The pods that were found are found again by the references to them. -/
theorem discoverPods_again {refs : List ManagedRef} {pods : List ApiPod} {progress : Progress}
    (hnamed : ∀ ns name p, l.pod ⟨ns, name⟩ = some p → p.name = name)
    (hrefs : ∀ r ∈ refs, r.ns = ns)
    (hfound : (discoverPods refs).lookUp l = some (.ok pods))
    (hconverged : (convergePods i ns backoff pods).lookUp l = some (.ok progress)) :
    (discoverPods (progress.pod.map fun name => ManagedRef.mk .pod ns name).toList).lookUp l
      = some (.ok pods) := by
  rw [discoverPods_lookUp] at hfound ⊢
  obtain rfl := Except.ok.inj (Option.some.inj hfound)
  have hagain : (progress.pod.map fun name => ManagedRef.mk .pod ns name).toList
      = (refs.filterMap fun r => l.pod r.key).map fun p => ManagedRef.mk .pod ns p.name := by
    rw [Option.toList_map, convergePods_lookUp hconverged, List.map_map]
    rfl
  have hthere : ∀ p ∈ refs.filterMap fun r => l.pod r.key, l.pod ⟨ns, p.name⟩ = some p := by
    intro p hp
    obtain ⟨r, hr, hpod⟩ := List.mem_filterMap.mp hp
    rw [hnamed _ _ _ hpod, ← hrefs r hr]
    exact hpod
  rw [hagain, List.filterMap_map]
  exact congrArg (fun pods => some (Except.ok pods))
    ((List.filterMap_congr hthere).trans List.filterMap_some)

end

/-! ## The whole cycle -/

section

variable {σ : Type} {server : Server σ} {seen : σ → Lookups} {i : Instance}
  {config : OperatorConfig} {now : Instant} {s : σ} {action : Action}

/-- A cycle that creates and deletes nothing has come to what can be told from the look-ups, and
written what follows from it. -/
theorem Instance.reconcile_quiet (hs : Shows server seen)
    (hok : ((i.reconcile config now).run server s).result = .ok action)
    (hquiet : ∀ c ∈ ((i.reconcile config now).run server s).calls,
      c.kind ≠ .createPod ∧ c.kind ≠ .deletePod) :
    ∃ ns pods progress before, i.ns = some ns ∧ action = progress.outcome.action
      ∧ (discoverPods ((i.status.getD {}).refsOf .pod)).lookUp (seen s) = some (.ok pods)
      ∧ (convergePods i ns config.notReadyBackoff pods).lookUp (seen s) = some (.ok progress)
      ∧ (i.reconcile config now).exchanges server s = before
        ++ [⟨.patchStatus ns i.name ((i.status.getD {}).next ns progress now), .ok ()⟩]
      ∧ (∀ x ∈ before, x.call.isRead = true)
      ∧ seen ((i.reconcile config now).run server s).state = seen s := by
  obtain ⟨ns, -, -, -, -, ⟨hns, -⟩, -⟩ := Instance.reconcile_ok hok
  rw [← Program.map_call_exchanges] at hquiet
  rw [reconcile_eq hns] at hok hquiet ⊢
  obtain ⟨pods, hfound, hok, hstate⟩ := Program.bind_ok hok
  rw [Program.exchanges_bind_of_ok hfound] at hquiet ⊢
  rw [hstate]
  obtain ⟨progress, hconverged, hok, hstate⟩ := Program.bind_ok hok
  rw [Program.exchanges_bind_of_ok hconverged] at hquiet ⊢
  rw [hstate]
  obtain ⟨reply, hpatched, hok, hstate⟩ := Program.bind_ok hok
  obtain ⟨-, hexchange, hpatch⟩ := Program.modify_ok hpatched
  rw [Program.exchanges_bind_of_ok hpatched, hexchange, ← List.append_assoc]
  rw [hstate]
  -- before the status is written, the calls only read
  have hreads₁ : ∀ x ∈ (discoverPods ((i.status.getD {}).refsOf .pod)).exchanges server s,
      x.call.isRead = true :=
    ((readsOnly_discoverPods _).makes fun _ hc => hc).exchanges server s
  have hmakes : (convergePods i ns config.notReadyBackoff pods).Makes fun c =>
      c.isRead = true ∨ c.kind = .createPod ∨ c.kind = .deletePod := by
    refine makes_convergePods_of (fun c hc => Or.inl hc) ?_ ?_ i ns _ pods
    · exact fun ns pod => Or.inr (Or.inl rfl)
    · exact fun ns name => Or.inr (Or.inr rfl)
  have hreads₂ : ∀ x ∈ (convergePods i ns config.notReadyBackoff pods).exchanges server
      ((discoverPods ((i.status.getD {}).refsOf .pod)).run server s).state,
      x.call.isRead = true := by
    intro x hx
    obtain ⟨hcreate, hdelete⟩ := hquiet x.call (List.mem_map.mpr ⟨x, by simp [hx], rfl⟩)
    exact (hmakes.exchanges server _ x hx).resolve_right fun h => h.elim hcreate hdelete
  have hlookUp₁ := Program.lookUp_of_reads hs _ s hreads₁ hfound
  have hseen₁ := (Program.run_lookUp hs _ s hlookUp₁).2.1
  have hlookUp₂ := Program.lookUp_of_reads hs _ _ hreads₂ hconverged
  have hseen₂ := (Program.run_lookUp hs _ _ hlookUp₂).2.1
  rw [hseen₁] at hlookUp₂ hseen₂
  refine ⟨ns, pods, progress, _, hns, (Except.ok.inj hok).symm, hlookUp₁, hlookUp₂, rfl, ?_, ?_⟩
  · intro x hx
    exact (List.mem_append.mp hx).elim (hreads₁ x) (hreads₂ x)
  · show seen ((Program.modify _).run server _).state = _
    rw [hpatch, hs.written, hseen₂]

/-- A cycle of an instance whose status follows from what the cycle comes to writes that status
again. -/
theorem Instance.reconcile_settled (hs : Shows server seen) {ns : String} {st : InstanceStatus}
    {pods : List ApiPod} {progress : Progress} (hns : i.ns = some ns)
    (hfound : (discoverPods (st.refsOf .pod)).lookUp (seen s) = some (.ok pods))
    (hconverged : (convergePods i ns config.notReadyBackoff pods).lookUp (seen s)
      = some (.ok progress))
    (hst : st.next ns progress now = st) :
    ({ i with status := some st }.reconcile config now).EndsWith server s
      (.patchStatus ns i.name st) progress.outcome.action := by
  have hns' : ({ i with status := some st } : Instance).ns = some ns := hns
  rw [reconcile_eq hns']
  refine .of_lookUp hs hfound ?_
  intro s₁ hseen₁
  refine .of_lookUp hs (hseen₁ ▸ hconverged) ?_
  intro s₂ _
  show Program.EndsWith server (Program.modify (.patchStatus ns i.name (st.next ns progress now))
    >>= fun _ => pure progress.outcome.action) s₂ _ _
  rw [hst]
  exact Program.endsWith_modify server _ _ s₂

/-- A cycle that creates and deletes nothing leaves nothing to do. Repeated on what it left, it
comes to the same and writes the same status again, whatever the two times are. -/
theorem Instance.reconcile_again (hs : Shows server seen)
    (hrefs : ∀ r ∈ (i.status.getD {}).refsOf .pod, i.ns = some r.ns)
    (hok : ((i.reconcile config now).run server s).result = .ok action)
    (hquiet : ∀ c ∈ ((i.reconcile config now).run server s).calls,
      c.kind ≠ .createPod ∧ c.kind ≠ .deletePod) :
    seen ((i.reconcile config now).run server s).state = seen s
    ∧ ∃ ns before st, i.ns = some ns
      ∧ (i.reconcile config now).exchanges server s
        = before ++ [⟨.patchStatus ns i.name st, .ok ()⟩]
      ∧ (∀ x ∈ before, x.call.isRead = true)
      ∧ ∀ (now' : Instant) (s' : σ), seen s' = seen s →
        ({ i with status := some st }.reconcile config now').EndsWith server s'
          (.patchStatus ns i.name st) action := by
  obtain ⟨ns, pods, progress, before, hns, rfl, hfound, hconverged, hlog, hbefore, hseen⟩ :=
    Instance.reconcile_quiet hs hok hquiet
  refine ⟨hseen, ns, before, _, hns, hlog, hbefore, ?_⟩
  intro now' s' hsame
  have hown : ∀ r ∈ (i.status.getD {}).refsOf .pod, r.ns = ns := by
    intro r hr
    exact (Option.some.inj (hns.symm.trans (hrefs r hr))).symm
  have hagain := discoverPods_again (fun ns name p => hs.named s ns name p) hown hfound hconverged
  rw [← refsOf_next (i.status.getD {}) ns progress now, ← hsame] at hagain
  rw [← hsame] at hconverged
  exact Instance.reconcile_settled hs hns hagain hconverged
    (InstanceStatus.next_next (i.status.getD {}) ns progress now now')

end

/-- The pod of the sample instance serves, and is looked at twice. -/
theorem Instance.reconcile_again_serving :
    let server := Simulation.tidyServer sampleKey
    let i : Instance := { sampleInstance with status := some {
      conditions := [⟨"Ready", .no, "PodNotRunning", "", ⟨0, 0⟩⟩]
      refs := [⟨.pod, "ci", "my-build-1"⟩] } }
    let s := sampleCourse ["my-build-1"] "" [("my-build-1", "10.0.0.1")] []
    let run := (i.reconcile {} ⟨1, 0⟩).run server s
    run.result = .ok .awaitChange ∧ run.calls.map Call.kind = [.getPod, .patchStatus]
      ∧ ∃ ns before st, (i.reconcile {} ⟨1, 0⟩).exchanges server s
          = before ++ [⟨.patchStatus ns "my-build" st, .ok ()⟩]
        ∧ ({ i with status := some st }.reconcile {} ⟨2, 0⟩).EndsWith server run.state
          (.patchStatus ns "my-build" st) .awaitChange := by
  intro server i s run
  have hresult : run.result = .ok .awaitChange := by decide
  have hcalls : run.calls.map Call.kind = [.getPod, .patchStatus] := by decide
  have hquiet : ∀ c ∈ run.calls, c.kind ≠ .createPod ∧ c.kind ≠ .deletePod := by decide
  have hrefs : ∀ r ∈ (i.status.getD {}).refsOf .pod, i.ns = some r.ns := by decide
  obtain ⟨hseen, ns, before, st, -, hlog, -, hagain⟩ :=
    Instance.reconcile_again (Simulation.shows sampleKey) hrefs hresult hquiet
  exact ⟨hresult, hcalls, ns, before, st, hlog, hagain ⟨2, 0⟩ run.state hseen⟩

end BuildFleet
