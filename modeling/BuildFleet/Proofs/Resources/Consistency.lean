import BuildFleet.Proofs.Resources.Settling

/-!
# Requests within their limits

Requirements are consistent if no request exceeds the limit for its resource. Capping always leaves
consistent requirements, under any ceiling and from any layer:

> `consistent_withMaximums`: what comes out of capping is consistent.

Overriding does not. It lowers what the instance itself requests to the limit that stands, but the
instance may lower a limit without saying anything about the request, and then the default request
stays as it was:

> `consistent_override_iff`: laid over consistent defaults, an override is consistent exactly if no
> default request that it does not replace exceeds a limit that it asks for.
-/

namespace BuildFleet.Requirements

/-- No request exceeds its limit. -/
def Consistent (x : Requirements) : Prop :=
  ∀ r q l, x.requests.get? r = some q → x.limits.get? r = some l → q.exceeds l = false

/-- Looking at the requests one by one is enough. -/
theorem consistent_iff_forall_mem {x : Requirements} :
    x.Consistent ↔ ∀ e ∈ x.requests.entries, ∀ l ∈ x.limits.get? e.1, e.2.exceeds l = false := by
  constructor
  · intro h e he l hl
    exact h e.1 e.2 l (Dict.get?_eq_some_iff_mem.mpr he) hl
  · intro h r q l hq hl
    exact h (r, q) (Dict.get?_eq_some_iff_mem.mp hq) l hl

instance (x : Requirements) : Decidable x.Consistent :=
  decidable_of_iff _ consistent_iff_forall_mem.symm

/-- Under maximums no request exceeds its limit. -/
theorem consistent_withMaximums (maximum : ResourceList) (x : Requirements) :
    (withMaximums maximum [x]).Consistent := by
  intro r q l hq hl
  rw [requests_withMaximums, hl] at hq
  obtain ⟨q', -, hq'⟩ := Option.map_eq_some_iff.mp hq
  rw [← hq', Option.elim_some]
  exact Quantity.le_iff_exceeds.mp (lowered_le_right q' l)

/-- What breaks consistency: a limit is asked for below a default request that is not replaced. -/
def Undercuts (asked defaults : Requirements) : Prop :=
  ∃ r q l, asked.requests.get? r = none ∧ defaults.requests.get? r = some q ∧
    asked.limits.get? r = some l ∧ q.exceeds l = true

/-- A default request that is not replaced is still there. -/
theorem requests_override_of_none {asked defaults : Requirements} {r : String}
    (h : asked.requests.get? r = none) :
    (override (some asked) defaults).requests.get? r = defaults.requests.get? r := by
  rw [requests_override, Option.bind_some, h]
  rfl

/-- An override breaks consistent defaults exactly by undercutting them. -/
theorem consistent_override_iff {asked defaults : Requirements} (hd : defaults.Consistent) :
    (override (some asked) defaults).Consistent ↔ ¬ asked.Undercuts defaults := by
  constructor
  · rintro hc ⟨r, q, l, ha, hq, hl, hex⟩
    have hqr : (override (some asked) defaults).requests.get? r = some q := by
      rw [requests_override_of_none ha, hq]
    -- the limit that stands is at most the one asked for, so the request exceeds it too
    have hlim : Tighter ((override (some asked) defaults).limits.get? r) (some l) := by
      rw [limits_override, Option.bind_some, hl]
      exact merge_tighter_left _ _
    obtain ⟨x, hx, hxl⟩ := hlim l rfl
    have hqx : q.exceeds x = true := Quantity.exceeds_of_exceeds_of_le hex hxl
    rw [hc r q x hqr hx] at hqx
    exact absurd hqx (by decide)
  · intro hu r q l hq hl
    cases ha : asked.requests.get? r with
    | some a =>
      rw [requests_override, Option.bind_some, ha, hl, Option.map_some, Option.elim_some,
        Option.some_or, Option.some_inj] at hq
      rw [← hq]
      exact Quantity.le_iff_exceeds.mp (lowered_le_right a l)
    | none =>
      rw [requests_override_of_none ha] at hq
      rw [limits_override, Option.bind_some] at hl
      have hdl : ∀ d, defaults.limits.get? r = some d → q ≤ d := fun d h => hd r q d hq h
      cases hal : asked.limits.get? r with
      | none =>
        rw [hal, Option.merge_none_left] at hl
        exact hdl l hl
      | some a =>
        have hqa : q ≤ a := by
          cases hex : q.exceeds a with
          | false => exact hex
          | true => exact absurd ⟨r, q, a, ha, hq, hal, hex⟩ hu
        rw [hal] at hl
        cases hdr : defaults.limits.get? r with
        | none =>
          rw [hdr, Option.merge_none_right, Option.some_inj] at hl
          rw [← hl]
          exact hqa
        | some d =>
          rw [hdr, Option.merge_some_some, Option.some_inj] at hl
          rw [← hl]
          exact Quantity.le_iff_exceeds.mp (le_lowered hqa (hdl d hdr))

end BuildFleet.Requirements
