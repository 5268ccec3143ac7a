import BuildFleet.Proofs.Blueprint.Daemon
import BuildFleet.Proofs.Pod.Maps
import BuildFleet.Proofs.Resources.Consistency

/-!
# What limits a daemon gets

The resources of the daemon's container pass through five hands: the template's defaults, its
partial pod, what the instance asks for, and the two ceilings. Only the last step decides, and for
each resource it comes down to one formula, whether or not there is any ceiling:

> `limits_effective`: the limit is the smallest of the one asked for, the one that the template
> gives, and the two ceilings, as far as there are any.

From that, an instance never gets around a ceiling (`buildPod_within_ceilings`), and never gets more
than one that asks for nothing (`buildPod_bare`).
-/

namespace BuildFleet

open Requirements (lowered Tighter merge_tighter_left merge_tighter_right tighter_merge)

/-- Requirements that pass for empty are. -/
theorem Requirements.eq_empty_of_isEmpty {x : Requirements} (h : x.isEmpty = true) :
    x = .empty := by
  have hdict : ∀ d : ResourceList, d.isEmpty = true → d = .empty :=
    fun d hd => Dict.ext_get? fun k => Dict.isEmpty_iff.mp hd k
  obtain ⟨limits, requests⟩ := x
  obtain ⟨hl, hr⟩ := Bool.and_eq_true_iff.mp h
  exact congr (congrArg Requirements.mk (hdict limits hl)) (hdict requests hr)

/-- Resources that are left out because they are empty read the same. -/
theorem requirements_settleResources (i : Instance) (t : Template) (c : Container) :
    (settleResources i t c).requirements = effectiveResources i t c.requirements := by
  show (if (effectiveResources i t c.requirements).isEmpty then none
    else some (effectiveResources i t c.requirements)).getD .empty = _
  split
  · next h => exact (Requirements.eq_empty_of_isEmpty h).symm
  · rfl

section Effective

variable (i : Instance) (t : Template) (current : Requirements) (r : String)

/-- The ceiling for a resource is the smaller one of those of the instance and the template, or the
only one there is. -/
theorem get?_ceiling : (i.ceiling t).get? r
    = (i.spec.maximum.get? r).merge lowered (t.spec.resources.maximum.get? r) :=
  Requirements.get?_tighten _ _ r

/-- The limit for a resource, from everything that has a say in it. -/
theorem limits_effective : (effectiveResources i t current).limits.get? r
    = ((i.spec.resources.bind fun a => a.limits.get? r).merge lowered
        (current.limits.get? r)).merge lowered
      ((i.spec.maximum.get? r).merge lowered (t.spec.resources.maximum.get? r)) := by
  rw [← get?_ceiling, ← Requirements.limits_override]
  unfold effectiveResources
  dsimp only
  split
  · next hempty =>
    rw [Dict.isEmpty_iff.mp hempty, Option.merge_none_right]
  · exact Requirements.limits_withMaximums _ _ r

/-- Where there is a ceiling, the result is within it, and so are its requests. -/
theorem effective_capped {r : String} {m : Quantity} (hm : (i.ceiling t).get? r = some m) :
    ∃ l, (effectiveResources i t current).limits.get? r = some l ∧ l ≤ m
      ∧ ∀ q, (effectiveResources i t current).requests.get? r = some q → q ≤ l := by
  have hne : ¬ (i.ceiling t).isEmpty = true := by
    intro hempty
    rw [Dict.isEmpty_iff.mp hempty] at hm
    exact nomatch hm
  have heff : effectiveResources i t current = Requirements.withMaximums (i.ceiling t)
      [Requirements.override i.spec.resources current] := if_neg hne
  have htight : Tighter ((effectiveResources i t current).limits.get? r) (some m) := by
    rw [heff, Requirements.limits_withMaximums, hm]
    exact merge_tighter_right _ _
  obtain ⟨l, hl, hlm⟩ := htight m rfl
  refine ⟨l, hl, hlm, ?_⟩
  intro q hq
  rw [heff] at hl hq
  exact Requirements.consistent_withMaximums _ _ r q l hq hl

end Effective

/-- A daemon keeps to the ceiling of its template and to that of its instance: where either has a
bound for a resource, there is a limit within it, and a request only within both. -/
theorem buildPod_within_ceilings {i : Instance} {t : Template} {pod : Pod}
    (h : buildPod i t = .ok pod) :
    ∃ c, pod.IsDaemon c ∧ ∀ r m,
      t.spec.resources.maximum.get? r = some m ∨ i.spec.maximum.get? r = some m →
      ∃ l, c.limit? r = some l ∧ l.exceeds m = false
        ∧ ∀ q, c.request? r = some q → q.exceeds l = false ∧ q.exceeds m = false := by
  obtain ⟨-, c, -, -, -, hdaemon⟩ := buildPod_ok h
  refine ⟨_, hdaemon, ?_⟩
  intro r m hm
  -- the ceiling in force is within either of the two
  have hceiling : Tighter ((i.ceiling t.withDefaults).get? r) (some m) := by
    rw [get?_ceiling]
    rcases hm with hm | hm
    · show Tighter ((i.spec.maximum.get? r).merge lowered (t.spec.resources.maximum.get? r)) _
      rw [hm]
      exact merge_tighter_right _ _
    · rw [hm]
      exact merge_tighter_left _ _
  obtain ⟨b, hb, hbm⟩ := hceiling m rfl
  obtain ⟨l, hl, hlb, hreq⟩ := effective_capped i t.withDefaults c.requirements hb
  unfold Container.limit? Container.request?
  rw [requirements_settleResources]
  have hlm : l ≤ m := le_trans hlb hbm
  refine ⟨l, hl, hlm, ?_⟩
  intro q hq
  exact ⟨hreq q hq, le_trans (hreq q hq) hlm⟩

/-- A limit of eight under ceilings of four and two comes down to two, and so does the request of
three below it. -/
theorem buildPod_within_ceilings_lowered :
    let i : Instance := {
      spec := {
        template := "default"
        resources := some ((Requirements.empty.limit "cpu" ⟨"8"⟩).request "cpu" ⟨"3"⟩)
        maximum := Dict.empty.insert "cpu" ⟨"2000m"⟩ } }
    let t : Template := {
      spec := { resources := { maximum := Dict.empty.insert "cpu" ⟨"4"⟩ } } }
    ∃ pod c l, buildPod i t = .ok pod ∧ pod.IsDaemon c ∧ c.limit? "cpu" = some l
      ∧ l.exceeds ⟨"4"⟩ = false ∧ l.exceeds ⟨"2000m"⟩ = false
      ∧ l = ⟨"2000m"⟩ ∧ c.request? "cpu" = some ⟨"2000m"⟩ := by
  intro i t
  have hbuilt : ((buildPod i t).toOption.bind fun pod => (pod.container? daemonContainer).map
      fun c => (c.limit? "cpu", c.request? "cpu")) = some (some ⟨"2000m"⟩, some ⟨"2000m"⟩) := by
    decide
  obtain ⟨pod, hpod, hbuilt⟩ := Option.bind_eq_some_iff.mp hbuilt
  obtain ⟨d, hd, hbuilt⟩ := Option.map_eq_some_iff.mp hbuilt
  obtain ⟨hlimit, hrequest⟩ := Prod.mk.inj hbuilt
  have h : buildPod i t = .ok pod := eq_ok_of_toOption hpod
  obtain ⟨c, hc, hcapped⟩ := buildPod_within_ceilings h
  obtain rfl : c = d := Option.some.inj (hc.container?_eq.symm.trans hd)
  have htemplate : t.spec.resources.maximum.get? "cpu" = some ⟨"4"⟩ := by decide
  have hinstance : i.spec.maximum.get? "cpu" = some ⟨"2000m"⟩ := by decide
  obtain ⟨l, hl, hfour, -⟩ := hcapped "cpu" ⟨"4"⟩ (Or.inl htemplate)
  obtain ⟨_, hl', htwo, -⟩ := hcapped "cpu" ⟨"2000m"⟩ (Or.inr hinstance)
  obtain rfl := Option.some.inj (hl.symm.trans hl')
  exact ⟨pod, c, l, h, hc, hl, hfour, htwo, Option.some.inj (hl.symm.trans hlimit), hrequest⟩

/-! ## Asking for nothing -/

/-- The instance without resources and a ceiling of its own. -/
def Instance.bare (i : Instance) : Instance :=
  { i with spec := { i.spec with resources := none, maximum := .empty } }

/-- What an instance asks for can only lower the limits that it gets without asking. -/
theorem effective_tighter_bare (i : Instance) (t : Template) (current : Requirements)
    (r : String) :
    Tighter ((effectiveResources i t current).limits.get? r)
      ((effectiveResources i.bare t current).limits.get? r) := by
  rw [limits_effective, limits_effective]
  show Tighter _ ((Option.merge lowered none (current.limits.get? r)).merge lowered
    (Option.merge lowered none (t.spec.resources.maximum.get? r)))
  rw [Option.merge_none_left, Option.merge_none_left]
  -- the bare limit is the one that the template gives or its ceiling, and both are counted in
  refine tighter_merge ?_ ?_
  · exact (merge_tighter_left _ _).trans (merge_tighter_right _ _)
  · exact (merge_tighter_right _ _).trans (merge_tighter_right _ _)

/-- An instance gets no more than one that asks for nothing: either both pods can be built or
neither, and where the bare one has a limit, the other has one that does not exceed it. -/
theorem buildPod_bare (i : Instance) (t : Template) :
    ((∃ pod, buildPod i t = .ok pod) ↔ ∃ pod₀, buildPod i.bare t = .ok pod₀)
      ∧ ∀ pod pod₀, buildPod i t = .ok pod → buildPod i.bare t = .ok pod₀ →
        ∃ c c₀, pod.IsDaemon c ∧ pod₀.IsDaemon c₀ ∧ ∀ r l₀, c₀.limit? r = some l₀ →
          ∃ l, c.limit? r = some l ∧ l.exceeds l₀ = false := by
  constructor
  · -- the layers of both are the same, and nothing else decides
    rw [buildPod_isOk_iff, buildPod_isOk_iff]
    exact Iff.rfl
  · intro pod pod₀ h h₀
    obtain ⟨-, c, -, hc, -, hdaemon⟩ := buildPod_ok h
    obtain ⟨-, c₀, -, hc₀, -, hdaemon₀⟩ := buildPod_ok h₀
    have hsame : c₀ = c := List.singleton_inj.mp (hc₀.symm.trans hc)
    subst hsame
    refine ⟨_, _, hdaemon, hdaemon₀, ?_⟩
    intro r
    unfold Container.limit?
    rw [requirements_settleResources, requirements_settleResources]
    exact effective_tighter_bare i t.withDefaults c₀.requirements r

/-- An instance that asks for half a core gets that, where one that asks for nothing gets the four
that are the default. -/
theorem buildPod_bare_lowered :
    let i : Instance := {
      spec := {
        template := "default"
        resources := some (Requirements.empty.limit "cpu" ⟨"500m"⟩) } }
    let t : Template := {
      spec := { resources := { default := Requirements.empty.limit "cpu" ⟨"4"⟩ } } }
    ∃ pod pod₀ c c₀, buildPod i t = .ok pod ∧ buildPod i.bare t = .ok pod₀
      ∧ pod.IsDaemon c ∧ pod₀.IsDaemon c₀
      ∧ (∀ r l₀, c₀.limit? r = some l₀ → ∃ l, c.limit? r = some l ∧ l.exceeds l₀ = false)
      ∧ c.limit? "cpu" = some ⟨"500m"⟩ ∧ c₀.limit? "cpu" = some ⟨"4"⟩
      ∧ Quantity.exceeds ⟨"4"⟩ ⟨"500m"⟩ = true := by
  intro i t
  have hbuilt : ((buildPod i t).toOption.bind fun pod =>
      (pod.container? daemonContainer).map (·.limit? "cpu")) = some (some ⟨"500m"⟩) := by decide
  have hbuilt₀ : ((buildPod i.bare t).toOption.bind fun pod =>
      (pod.container? daemonContainer).map (·.limit? "cpu")) = some (some ⟨"4"⟩) := by decide
  obtain ⟨pod, hpod, hlimit⟩ := Option.bind_eq_some_iff.mp hbuilt
  obtain ⟨pod₀, hpod₀, hlimit₀⟩ := Option.bind_eq_some_iff.mp hbuilt₀
  have h : buildPod i t = .ok pod := eq_ok_of_toOption hpod
  have h₀ : buildPod i.bare t = .ok pod₀ := eq_ok_of_toOption hpod₀
  obtain ⟨c, c₀, hc, hc₀, hlimits⟩ := (buildPod_bare i t).2 pod pod₀ h h₀
  rw [hc.container?_eq] at hlimit
  rw [hc₀.container?_eq] at hlimit₀
  exact ⟨pod, pod₀, c, c₀, h, h₀, hc, hc₀, hlimits, Option.some.inj hlimit,
    Option.some.inj hlimit₀, by decide⟩

end BuildFleet
