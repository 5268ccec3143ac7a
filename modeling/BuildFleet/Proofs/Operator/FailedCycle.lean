import BuildFleet.Proofs.Operator.Phases
import BuildFleet.Proofs.Operator.Survivor

/-!
# What a cycle that fails leaves

A cycle may fail at any of its calls and in between: a pod or a template cannot be read, the
template is not there or breaks a rule, the pod cannot be built, a pod cannot be created or deleted,
the status cannot be written, or shutdown is requested. The status is written last, so a cycle that
fails has not written it; and whatever is wrong with the instance or its template is found before
anything is changed.

> `Instance.reconcile_writes`: what is said in a cycle and what it leaves, as it succeeds or fails.

What is said is told of any server. What is left is told of one that carries out the calls that
succeed, and no others.
-/

namespace BuildFleet

/-- Whether a failure is one of preparing: with it the operator itself ends a cycle before it
changes anything. -/
def Failure.isPreparation : Failure → Bool
  | missingNamespace => true
  | templateNotFound _ _ => true
  | validation _ => true
  | merge _ => true
  | serialization => true
  | _ => false

/-- The cycle failed before it changed anything: with a failure of preparing that is not what a
modifying call was answered, or because a pod or a template could not be read. -/
def Failure.EndsPreparation (e : Failure) (log : List Exchange) : Prop :=
  e.isPreparation = true ∧ (∀ x ∈ log, x.call.isRead = false → x.reply ≠ .error e)
    ∨ ∃ x ∈ log, x.call.isRead = true ∧ x.reply = .error e

/-- The server carries out the calls that succeed, and no others. -/
structure Obeys {σ : Type} (server : Server σ) (view : σ → Holdings) (instanceKey : ObjectKey) :
    Prop extends Serves server view instanceKey where
  /-- A call that fails changes nothing. -/
  unchanged : ∀ c s e, (server.answer c s).1 = .error e → view (server.answer c s).2 = view s

section

variable {σ : Type} {server : Server σ} {view : σ → Holdings} {key : ObjectKey}

/-- A run that only reads leaves everything as it was. -/
theorem Obeys.view_kept {α : Type} (ho : Obeys server view key) (p : Program α) (s : σ)
    (hreads : ∀ x ∈ p.exchanges server s, x.call.isRead = true) :
    view (p.run server s).state = view s :=
  p.run_keeps (I := fun s' => view s' = view s)
    (fun c s' hread hs => ((ho.keeps ho.unchanged).read c s' hread).trans hs) s hreads rfl

/-- A run in which no status is written leaves the status as it was. -/
theorem Obeys.status_kept {α : Type} (ho : Obeys server view key) (p : Program α) (s : σ)
    (hunwritten : ∀ x ∈ p.exchanges server s, x.call.kind = .patchStatus →
      ∃ e, x.reply = .error e) :
    (view (p.run server s).state).status = (view s).status := by
  refine p.run_keeps (I := fun s' => (view s').status = (view s).status) ?_ s hunwritten rfl
  intro c s' hx hs
  cases hanswer : (server.answer c s').1 with
  | error e => rw [ho.unchanged c s' e hanswer, hs]
  | ok reply =>
    have heffect := ho.done c s' reply hanswer
    rw [← hs]
    cases c with
    | patchStatus ns name st =>
      obtain ⟨e, he⟩ := hx rfl
      exact nomatch hanswer.symm.trans he
    | getPod ns name => rw [heffect.1]
    | createPod ns pod => rw [heffect.2]; rfl
    | deletePod ns name => rw [show view _ = _ from heffect]; rfl
    | _ => rw [show view _ = _ from heffect]

/-- A cycle that failed while preparing has only read. -/
theorem Instance.reads_of_endsPreparation {i : Instance} {config : OperatorConfig} {now : Instant}
    {s : σ} {e : Failure} (herror : ((i.reconcile config now).run server s).result = .error e)
    (hends : e.EndsPreparation ((i.reconcile config now).exchanges server s)) :
    ∀ x ∈ (i.reconcile config now).exchanges server s, x.call.isRead = true := by
  rcases (i.prepares_reconcile config now).run_error herror with hreads | hbreaks
  · exact hreads
  -- a cycle that was changing something is ended by shutdown, or by a modifying call
  · rcases hends with ⟨hpreparation, hanswers⟩ | ⟨x, hx, hread, hfailed⟩
    · rcases hbreaks.cause with rfl | ⟨x, hx, hmodifies, hfailed⟩
      · exact nomatch hpreparation
      · exact absurd hfailed (hanswers x hx hmodifies)
    · exact nomatch hread.symm.trans (hbreaks.of_mem hx hfailed).1

/-- A cycle that succeeds writes one status, with its last call. A cycle that fails writes none and
leaves the stored one as it was; and if it failed while preparing, it has only read, and leaves the
pods as they were as well. -/
theorem Instance.reconcile_writes (server : Server σ) (i : Instance) (config : OperatorConfig)
    (now : Instant) (s : σ) :
    let run := (i.reconcile config now).run server s
    let log := (i.reconcile config now).exchanges server s
    match run.result with
    | .ok _ => ∃ ns before st, i.ns = some ns
        ∧ log = before ++ [⟨.patchStatus ns i.name st, .ok ()⟩]
        ∧ (∀ x ∈ before, x.call.kind ≠ .patchStatus)
        ∧ ∀ view, Obeys server view ⟨ns, i.name⟩ → (view run.state).status = some st
    | .error e => (∀ x ∈ log, x.call.kind = .patchStatus → ∃ e', x.reply = .error e')
        ∧ (∀ view key, Obeys server view key → (view run.state).status = (view s).status)
        ∧ (e.EndsPreparation log → (∀ c ∈ run.calls, c.isRead = true)
          ∧ ∀ view key, Obeys server view key → view run.state = view s) := by
  intro run log
  cases hresult : run.result with
  | ok action =>
    obtain ⟨ns, pods, progress, s', before, hcomes, -, hlog, hbefore, hanswer, hstate⟩ :=
      Instance.reconcile_ok hresult
    refine ⟨ns, before, _, hcomes.inNamespace, hlog, hbefore, ?_⟩
    intro view ho
    have heffect := ho.done (.patchStatus ns i.name _) s' () hanswer
    rw [hstate, heffect rfl]
    rfl
  | error e =>
    have hunwritten : ∀ x ∈ log, x.call.kind = .patchStatus → ∃ e', x.reply = .error e' :=
      fun x hx hkind => ⟨e, Instance.reconcile_error hresult hx hkind⟩
    refine ⟨hunwritten, fun view key ho => ho.status_kept _ s hunwritten, ?_⟩
    intro hends
    have hreads := Instance.reads_of_endsPreparation hresult hends
    refine ⟨?_, fun view key ho => ho.view_kept _ s hreads⟩
    intro c hc
    rw [← Program.map_call_exchanges] at hc
    obtain ⟨x, hx, rfl⟩ := List.mem_map.mp hc
    exact hreads x hx

end

namespace Simulation

/-- The tidy server obeys the contract. -/
theorem obeys (key : ObjectKey) : Obeys (tidyServer key) (holdings key) key where
  toServes := serves key
  unchanged := holdings_failed

end Simulation

/-- The pod that is referred to is gone, and the template is not there. -/
theorem Instance.reconcile_writes_no_template :
    let server := Simulation.tidyServer sampleKey
    let view := Simulation.holdings sampleKey
    ∃ (i : Instance) (s : {s : Simulation // s.Tidy sampleKey}), i.status = (view s).status
      ∧ (view s).podRefs = [⟨.pod, "ci", "my-build-1"⟩]
      ∧ ((i.reconcile {} ⟨0, 0⟩).run server s).result = .error (.templateNotFound "ci" "default")
      ∧ (∀ c ∈ ((i.reconcile {} ⟨0, 0⟩).run server s).calls, c.isRead = true)
      ∧ view ((i.reconcile {} ⟨0, 0⟩).run server s).state = view s := by
  intro server view
  let i : Instance := { sampleInstance with status := some {
    refs := [⟨.pod, "ci", "my-build-1"⟩] } }
  let s : {s : Simulation // s.Tidy sampleKey} :=
    ⟨{ cluster := { instances := [i] } }, rfl, (fun _ he => nomatch he), by decide⟩
  have hresult : ((i.reconcile {} ⟨0, 0⟩).run server s).result
      = .error (.templateNotFound "ci" "default") := by decide
  have hends : (Failure.templateNotFound "ci" "default").EndsPreparation
      ((i.reconcile {} ⟨0, 0⟩).exchanges server s) := by
    refine Or.inl ⟨rfl, ?_⟩
    have hreads : ∀ x ∈ (i.reconcile {} ⟨0, 0⟩).exchanges server s, x.call.isRead = true := by
      decide
    exact fun x hx hmodifies => nomatch (hreads x hx).symm.trans hmodifies
  have hwrites := Instance.reconcile_writes server i {} ⟨0, 0⟩ s
  dsimp only at hwrites
  rw [hresult] at hwrites
  obtain ⟨hcalls, hview⟩ := hwrites.2.2 hends
  exact ⟨i, s, rfl, rfl, hresult, hcalls, hview view sampleKey (Simulation.obeys sampleKey)⟩

end BuildFleet
