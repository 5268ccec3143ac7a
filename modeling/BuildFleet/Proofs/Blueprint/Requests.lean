import BuildFleet.Proofs.Blueprint.Ceiling

/-!
# Requests within limits in a built pod

Given a template whose own resources are consistent, a built daemon has consistent resources too,
with one exception: where there is no ceiling, nothing lowers a request after the instance has
lowered the limit below it.

> `buildPod_consistent_iff`: the built daemon is consistent exactly if there is some ceiling, even
> for another resource, or the instance does not undercut the template;
> `buildPod_undercut`: an instance that does.
-/

namespace BuildFleet

open Requirements (Consistent Undercuts)

/-- What the daemon of a template asks for, from a computation. -/
theorem Template.IsDaemon.requirements_eq {t : Template} {d : Container} {x : Requirements}
    (hd : t.IsDaemon d)
    (hx : (t.containers.filter (·.name == daemonContainer)).map Container.requirements = [x]) :
    d.requirements = x := by
  unfold Template.IsDaemon at hd
  rw [hd] at hx
  exact List.singleton_inj.mp hx

/-- There is no ceiling if neither the template nor the instance has one. -/
theorem isEmpty_ceiling (i : Instance) (t : Template) :
    (i.ceiling t).isEmpty = (t.spec.resources.maximum.isEmpty && i.spec.maximum.isEmpty) := by
  rw [Bool.eq_iff_iff, Bool.and_eq_true_iff, Dict.isEmpty_iff, Dict.isEmpty_iff, Dict.isEmpty_iff,
    ← forall_and]
  refine forall_congr' fun r => ?_
  rw [get?_ceiling, Option.merge_eq_none_iff, and_comm]

/-- Resources that settle consistently, from consistent ones. -/
theorem effective_consistent_iff {i : Instance} {t : Template} {current : Requirements}
    (hcurrent : current.Consistent) : (effectiveResources i t current).Consistent
      ↔ (i.ceiling t).isEmpty = false
        ∨ ∀ asked, i.spec.resources = some asked → ¬ asked.Undercuts current := by
  unfold effectiveResources
  dsimp only
  cases hceiling : (i.ceiling t).isEmpty with
  | false =>
    -- capping has the last word
    rw [if_neg Bool.false_ne_true]
    exact iff_of_true (Requirements.consistent_withMaximums _ _) (Or.inl rfl)
  | true =>
    -- what the override leaves is what is built
    rw [if_pos rfl, or_iff_right Bool.noConfusion]
    cases hasked : i.spec.resources with
    | none => exact iff_of_true hcurrent fun _ h => nomatch h
    | some asked =>
      rw [Requirements.consistent_override_iff hcurrent]
      constructor
      · intro h a ha
        exact Option.some.inj ha ▸ h
      · intro h
        exact h asked rfl

/-- The daemon of a template with consistent resources is built with consistent ones exactly if
there is a ceiling or the instance does not undercut them. -/
theorem buildPod_consistent_iff {i : Instance} {t : Template} {pod : Pod} {d : Container}
    (hd : t.withDefaults.IsDaemon d) (hconsistent : d.requirements.Consistent)
    (h : buildPod i t = .ok pod) :
    ∃ c, pod.IsDaemon c ∧ (c.requirements.Consistent
      ↔ t.spec.resources.maximum.isEmpty = false ∨ i.spec.maximum.isEmpty = false
        ∨ ∀ asked, i.spec.resources = some asked → ¬ asked.Undercuts d.requirements) := by
  obtain ⟨-, c, -, hc, -, hdaemon⟩ := buildPod_ok h
  have hsame : c = d := List.singleton_inj.mp (hc.symm.trans hd)
  subst hsame
  refine ⟨_, hdaemon, ?_⟩
  rw [requirements_settleResources, effective_consistent_iff hconsistent, isEmpty_ceiling,
    Bool.and_eq_false_iff, or_assoc]
  exact Iff.rfl

/-- An instance that undercuts the template, under a ceiling for another resource. -/
theorem buildPod_consistent_memory :
    let i : Instance := {
      spec := {
        template := "default"
        resources := some (Requirements.empty.limit "cpu" ⟨"1"⟩) } }
    let t : Template := {
      spec := {
        resources := {
          default := (Requirements.empty.limit "cpu" ⟨"4"⟩).request "cpu" ⟨"2"⟩
          maximum := Dict.empty.insert "memory" ⟨"1Gi"⟩ } } }
    ∃ pod c, buildPod i t = .ok pod ∧ pod.IsDaemon c ∧ c.requirements.Consistent := by
  intro i t
  have hok : (buildPod i t).isOk = true := by decide
  have hreq : (t.withDefaults.containers.filter (·.name == daemonContainer)).map
      Container.requirements = [t.spec.resources.default] := by decide
  obtain ⟨pod, h⟩ := exists_pod hok
  obtain ⟨d, hd⟩ := t.withDefaults.exists_isDaemon
  have hconsistent : t.spec.resources.default.Consistent := by decide
  have hmax : t.spec.resources.maximum.isEmpty = false := by decide
  obtain ⟨c, hc, hiff⟩ :=
    buildPod_consistent_iff hd (hd.requirements_eq hreq ▸ hconsistent) h
  exact ⟨pod, c, h, hc, hiff.mpr (Or.inl hmax)⟩

/-- A template with consistent resources and an instance that undercuts them: it lowers the limit
to one, and the daemon is built with the template's request of two. -/
theorem buildPod_undercut :
    let i : Instance := {
      metadata := { name := some "my-build", ns := some "ci" }
      spec := {
        template := "default"
        resources := some (Requirements.empty.limit "cpu" ⟨"1"⟩) } }
    let t : Template := {
      metadata := { name := some "default", ns := some "ci" }
      spec := {
        resources := {
          default := (Requirements.empty.limit "cpu" ⟨"4"⟩).request "cpu" ⟨"2"⟩ } } }
    ∃ d pod c, t.withDefaults.IsDaemon d ∧ d.requirements.Consistent ∧ buildPod i t = .ok pod
      ∧ pod.IsDaemon c ∧ c.limit? "cpu" = some ⟨"1"⟩ ∧ c.request? "cpu" = some ⟨"2"⟩
      ∧ ¬ c.requirements.Consistent := by
  intro i t
  have hok : (buildPod i t).isOk = true := by decide
  have hreq : (t.withDefaults.containers.filter (·.name == daemonContainer)).map
      Container.requirements = [t.spec.resources.default] := by decide
  obtain ⟨pod, h⟩ := exists_pod hok
  obtain ⟨-, d, -, hd, -, hdaemon⟩ := buildPod_ok h
  have hdreq : d.requirements = t.spec.resources.default := hd.requirements_eq hreq
  have hconsistent : t.spec.resources.default.Consistent := by decide
  have hlimit : (effectiveResources i t.withDefaults t.spec.resources.default).limits.get? "cpu"
      = some ⟨"1"⟩ := by decide
  have hrequest : (effectiveResources i t.withDefaults
      t.spec.resources.default).requests.get? "cpu" = some ⟨"2"⟩ := by decide
  refine ⟨d, pod, _, hd, hdreq ▸ hconsistent, h, hdaemon, ?_⟩
  unfold Container.limit? Container.request?
  rw [requirements_settleResources, hdreq]
  refine ⟨hlimit, hrequest, ?_⟩
  intro hc
  exact absurd (hc "cpu" ⟨"2"⟩ ⟨"1"⟩ hrequest hlimit) (by decide)

end BuildFleet
