import BuildFleet.Proofs.Blueprint.Requests
import BuildFleet.Proofs.Resources.Reporting

/-!
# Whether the warning about a ceiling is right

An instance is accepted with a warning if its resources exceed the ceiling and will be capped. The
warning is computed from the template's default resources, the builder caps what the merged layers
give the daemon's container. Both start from the same resources unless the template's partial pod
changes those of the container, and then the warning can be compared with what is built: with the
container that the pod would have if neither the template nor the instance had a ceiling.

> `buildPod_exceedsCeiling_iff`: where there is a ceiling, there is a warning exactly if it lowers
> a limit or a request of a resource that has a limit.

A request for a resource without a limit is left out on purpose: the ceiling fills the limit in, and
lowers the request to it, without a warning (`buildPod_lowers_unlimited`).
-/

namespace BuildFleet

open Requirements (Lowers Consistent)

/-- The instance without a ceiling of its own. -/
def Instance.uncapped (i : Instance) : Instance :=
  { i with spec := { i.spec with maximum := .empty } }

/-- The template without a ceiling. -/
def Template.uncapped (t : Template) : Template :=
  { t with spec := { t.spec with resources := { t.spec.resources with maximum := .empty } } }

/-- What the instance gets of the template's default resources before they are capped. -/
def Instance.granted (i : Instance) (t : Template) : Requirements :=
  Requirements.override i.spec.resources t.spec.resources.default

/-- Without ceilings, nothing is capped. -/
theorem effectiveResources_uncapped (i : Instance) (t : Template) :
    effectiveResources i.uncapped t.uncapped t.spec.resources.default = i.granted t := by
  have hempty : (i.uncapped.ceiling t.uncapped).isEmpty = true := isEmpty_ceiling _ _
  unfold effectiveResources
  exact if_pos hempty

/-- Ceilings do not decide whether a pod can be built. -/
theorem exists_uncapped {i : Instance} {t : Template} {pod : Pod} (h : buildPod i t = .ok pod) :
    ∃ pod₀, buildPod i.uncapped t.uncapped = .ok pod₀ := by
  have hok : ∃ pod, buildPod i t = .ok pod := ⟨pod, h⟩
  rw [buildPod_isOk_iff] at hok ⊢
  exact hok

/-- What the warning says: under the ceiling, some limit or request of a resource that has a limit
is lowered. -/
theorem exceedsCeiling_iff (i : Instance) (t : Template) :
    i.exceedsCeiling t = true ↔ ∃ r, ((i.granted t).limits.get? r).isSome = true
      ∧ (i.granted t).Lowers (Requirements.withMaximums (i.ceiling t) [i.granted t]) r :=
  Requirements.exceedsMaximums_filterKeys_iff _ _

/-- Without a ceiling there is no warning about resources whose requests are within their limits. -/
theorem not_exceedsCeiling_of_isEmpty {i : Instance} {t : Template}
    (hempty : (i.ceiling t).isEmpty = true) (hconsistent : (i.granted t).Consistent) :
    ¬ i.exceedsCeiling t = true := by
  rw [exceedsCeiling_iff]
  rintro ⟨r, hlimited, hlowers⟩
  obtain ⟨l, hl⟩ := Option.isSome_iff_exists.mp hlimited
  have hleft : (Requirements.withMaximums (i.ceiling t) [i.granted t]).limits.get? r = some l := by
    rw [Requirements.limits_withMaximums, hl, Dict.isEmpty_iff.mp hempty, Option.merge_none_right]
  rcases (Requirements.lowers_withMaximums_iff hl hleft).mp hlowers with
    hexceeds | ⟨q, hq, hexceeds⟩
  · exact nomatch hexceeds.symm.trans (Quantity.exceeds_self l)
  · exact nomatch hexceeds.symm.trans (hconsistent r q l hq hl)

/-- What is built from the default resources under the ceiling is lowered exactly if there is a
warning. -/
theorem exceedsCeiling_iff_lowers {i : Instance} {t : Template}
    (hceiling : (i.ceiling t).isEmpty = false ∨ (i.granted t).Consistent) :
    i.exceedsCeiling t = true ↔ ∃ r, ((i.granted t).limits.get? r).isSome = true
      ∧ (i.granted t).Lowers (effectiveResources i t t.spec.resources.default) r := by
  cases hempty : (i.ceiling t).isEmpty with
  | false =>
    have hbuilt : effectiveResources i t t.spec.resources.default
        = Requirements.withMaximums (i.ceiling t) [i.granted t] :=
      if_neg (hempty ▸ Bool.false_ne_true)
    rw [hbuilt]
    exact exceedsCeiling_iff i t
  | true =>
    -- what is built is what there was, so nothing is lowered
    have hbuilt : effectiveResources i t t.spec.resources.default = i.granted t := if_pos hempty
    have hconsistent : (i.granted t).Consistent :=
      hceiling.resolve_left fun hfalse => nomatch hempty.symm.trans hfalse
    rw [hbuilt]
    exact iff_of_false (not_exceedsCeiling_of_isEmpty hempty hconsistent)
      fun ⟨r, _, hlowers⟩ => Requirements.not_lowers_self _ r hlowers

/-- The warning that resources are capped is given exactly if the instance exceeds its ceiling. -/
theorem resourcesCapped_mem_iff (i : Instance) (t : Template) :
    .resourcesCapped i.spec.template ∈ (i.checkAgainst t).warnings ↔ i.exceedsCeiling t = true := by
  unfold Instance.checkAgainst
  dsimp only
  split
  · next hwarned => exact iff_of_true (List.mem_singleton_self _) hwarned
  · next hsilent => exact iff_of_false List.not_mem_nil hsilent

/-- Of a template whose layers leave its default resources to the daemon's container, an instance is
accepted with a warning exactly if its ceilings lower a limit or a request of the container for a
resource that has a limit. If there is no ceiling, this is only said where no request is above its
limit from the start. -/
theorem buildPod_exceedsCeiling_iff {i : Instance} {t : Template} {pod : Pod} {d : Container}
    (hd : t.withDefaults.IsDaemon d) (hdefault : d.requirements = t.spec.resources.default)
    (h : buildPod i t = .ok pod) :
    ∃ pod₀ c₀ c, buildPod i.uncapped t.uncapped = .ok pod₀ ∧ pod₀.IsDaemon c₀ ∧ pod.IsDaemon c
      ∧ (.resourcesCapped i.spec.template ∈ (i.checkAgainst t).warnings
        ↔ i.exceedsCeiling t = true)
      ∧ (t.spec.resources.maximum.isEmpty = false ∨ i.spec.maximum.isEmpty = false
          ∨ c₀.requirements.Consistent →
        (i.exceedsCeiling t = true
          ↔ ∃ r, (c₀.limit? r).isSome = true ∧ c₀.requirements.Lowers c.requirements r)) := by
  obtain ⟨pod₀, h₀⟩ := exists_uncapped h
  obtain ⟨-, c, -, hc, -, hdaemon⟩ := buildPod_ok h
  obtain ⟨-, c₀, -, hc₀, -, hdaemon₀⟩ := buildPod_ok h₀
  -- both containers come from the one that the template gives
  obtain rfl : c = d := List.singleton_inj.mp (hc.symm.trans hd)
  obtain rfl : c₀ = c := List.singleton_inj.mp (hc₀.symm.trans hd)
  have hbuilt₀ : (settleResources i.uncapped t.uncapped.withDefaults c₀).requirements
      = i.granted t := by
    rw [requirements_settleResources, hdefault]
    exact effectiveResources_uncapped i t.withDefaults
  refine ⟨pod₀, _, _, h₀, hdaemon₀, hdaemon, resourcesCapped_mem_iff i t, ?_⟩
  intro hceiling
  unfold Container.limit?
  rw [hbuilt₀] at hceiling ⊢
  rw [requirements_settleResources, hdefault]
  refine exceedsCeiling_iff_lowers ?_
  rw [isEmpty_ceiling, Bool.and_eq_false_iff, or_assoc]
  exact hceiling

/-- A limit of eight, and a request of six, under a ceiling of four. -/
theorem buildPod_exceedsCeiling_limited :
    let i : Instance := { spec := { template := "default" } }
    let t : Template := {
      spec := {
        resources := {
          default := (Requirements.empty.limit "cpu" ⟨"8"⟩).request "cpu" ⟨"6"⟩
          maximum := Dict.empty.insert "cpu" ⟨"4"⟩ } } }
    ∃ pod₀ pod c₀ c r, buildPod i.uncapped t.uncapped = .ok pod₀ ∧ buildPod i t = .ok pod
      ∧ pod₀.IsDaemon c₀ ∧ pod.IsDaemon c
      ∧ .resourcesCapped "default" ∈ (i.checkAgainst t).warnings
      ∧ c₀.requirements.Lowers c.requirements r := by
  intro i t
  have hok : (buildPod i t).isOk = true := by decide
  have hreq : (t.withDefaults.containers.filter (·.name == daemonContainer)).map
      Container.requirements = [t.spec.resources.default] := by decide
  have hexceeds : i.exceedsCeiling t = true := by decide
  have hmax : t.spec.resources.maximum.isEmpty = false := by decide
  obtain ⟨pod, h⟩ := exists_pod hok
  obtain ⟨d, hd⟩ := t.withDefaults.exists_isDaemon
  obtain ⟨pod₀, c₀, c, h₀, hc₀, hc, hwarning, hiff⟩ :=
    buildPod_exceedsCeiling_iff hd (hd.requirements_eq hreq) h
  obtain ⟨r, -, hlowers⟩ := (hiff (Or.inl hmax)).mp hexceeds
  exact ⟨pod₀, pod, c₀, c, r, h₀, h, hc₀, hc, hwarning.mpr hexceeds, hlowers⟩

/-- A request of eight without a limit: under a ceiling of four, the daemon is built with a request
of four, and there is no warning. -/
theorem buildPod_lowers_unlimited :
    let i : Instance := {
      metadata := { name := some "my-build", ns := some "ci" }
      spec := { template := "default" } }
    let t : Template := {
      metadata := { name := some "default", ns := some "ci" }
      spec := {
        resources := {
          default := Requirements.empty.request "cpu" ⟨"8"⟩
          maximum := Dict.empty.insert "cpu" ⟨"4"⟩ } } }
    ∃ pod₀ pod c₀ c, buildPod i.uncapped t.uncapped = .ok pod₀ ∧ buildPod i t = .ok pod
      ∧ pod₀.IsDaemon c₀ ∧ pod.IsDaemon c
      ∧ c₀.request? "cpu" = some ⟨"8"⟩ ∧ c.request? "cpu" = some ⟨"4"⟩
      ∧ c₀.requirements.Lowers c.requirements "cpu"
      ∧ i.exceedsCeiling t = false ∧ (i.checkAgainst t).warnings = [] := by
  intro i t
  have hok : (buildPod i t).isOk = true := by decide
  have hreq : (t.withDefaults.containers.filter (·.name == daemonContainer)).map
      Container.requirements = [t.spec.resources.default] := by decide
  obtain ⟨pod, h⟩ := exists_pod hok
  obtain ⟨pod₀, h₀⟩ := exists_uncapped h
  obtain ⟨-, c, -, hc, -, hdaemon⟩ := buildPod_ok h
  obtain ⟨-, c₀, -, hc₀, -, hdaemon₀⟩ := buildPod_ok h₀
  obtain rfl : c₀ = c := List.singleton_inj.mp (hc₀.symm.trans hc)
  have hrequest₀ : (settleResources i.uncapped t.uncapped.withDefaults c₀).request? "cpu"
      = some ⟨"8"⟩ := by
    unfold Container.request?
    rw [requirements_settleResources, hc.requirements_eq hreq]
    decide
  have hrequest : (settleResources i t.withDefaults c₀).request? "cpu" = some ⟨"4"⟩ := by
    unfold Container.request?
    rw [requirements_settleResources, hc.requirements_eq hreq]
    decide
  have hexceeds : (⟨"8"⟩ : Quantity).exceeds ⟨"4"⟩ = true := by decide
  have hsilent : i.exceedsCeiling t = false ∧ (i.checkAgainst t).warnings = [] := by decide
  exact ⟨pod₀, pod, _, _, h₀, h, hdaemon₀, hdaemon, hrequest₀, hrequest,
    Or.inr ⟨_, _, hrequest₀, hrequest, hexceeds⟩, hsilent⟩

end BuildFleet
