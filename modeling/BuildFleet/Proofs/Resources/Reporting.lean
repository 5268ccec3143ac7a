import BuildFleet.Proofs.Resources.Settling

/-!
# What capping reports

Capping goes through the ceiling and through the requests, and notes on the way whether it had to
change anything. What it notes can be told from the requirements that it started from:

> `exceedsMaximums_iff`: capping reports a change exactly if some limit is missing or above its
> ceiling, or some request is above the limit that it is left.

A ceiling for resources that are limited anyway fills nothing in. With such a ceiling the report is
true exactly if something is lowered (`exceedsMaximums_filterKeys_iff`).
-/

namespace BuildFleet.Requirements

/-- A quantity exceeds what it is lowered to exactly if it exceeds the bound. -/
theorem exceeds_lowered (q bound : Quantity) :
    q.exceeds (lowered q bound) = q.exceeds bound := by
  unfold lowered
  by_cases h : q.exceeds bound = true
  · rw [if_pos h]
  · rw [if_neg h, eq_false_of_ne_true h]
    exact Quantity.exceeds_self q

/-- A ceiling changes the limits where one is missing or above it. -/
theorem capLimits_changed_iff (maximum limits : ResourceList) :
    (capLimits maximum limits).2 = true ↔ ∃ r max, maximum.get? r = some max
      ∧ ∀ limit, limits.get? r = some limit → limit.exceeds max = true := by
  unfold capLimits
  refine (Dict.noted_foldl_iff (fun acc => acc.1.get?) Prod.snd
    (fun _ prev max => prev.all fun limit => limit.exceeds max) ?_ ?_ maximum
    (limits, false)).trans ?_
  · rintro ⟨acc, changed⟩ e k hk
    dsimp only
    cases acc.get? e.1 with
    | none => exact Dict.get?_insert_ne acc e.2 hk
    | some limit =>
      dsimp only
      split
      · exact Dict.get?_insert_ne acc e.2 hk
      · rfl
  · rintro ⟨acc, changed⟩ e
    dsimp only
    cases acc.get? e.1 with
    | none => exact (Bool.or_true changed).symm
    | some limit =>
      dsimp only
      by_cases hlimit : limit.exceeds e.2 = true
      · rw [if_pos hlimit, Option.all_some, hlimit, Bool.or_true]
      · rw [if_neg hlimit, Option.all_some, eq_false_of_ne_true hlimit, Bool.or_false]
  · rw [or_iff_right Bool.false_ne_true]
    refine exists_congr fun r => exists_congr fun max => and_congr_right fun _ => ?_
    show (limits.get? r).all (fun limit => limit.exceeds max) = true ↔ _
    rw [Option.all_eq_true]

/-- Limits change the requests that are above them. -/
theorem capRequests_changed_iff (limits requests : ResourceList) :
    (capRequests limits requests).2 = true ↔ ∃ r q limit, requests.get? r = some q
      ∧ limits.get? r = some limit ∧ q.exceeds limit = true := by
  unfold capRequests
  refine (Dict.noted_foldl_iff (fun acc => acc.1.get?) Prod.snd
    (fun k _ q => (limits.get? k).any fun limit => q.exceeds limit) ?_ ?_ requests
    (requests, false)).trans ?_
  · rintro ⟨acc, changed⟩ e k hk
    dsimp only
    cases limits.get? e.1 with
    | none => rfl
    | some limit =>
      dsimp only
      split
      · exact Dict.get?_insert_ne acc limit hk
      · rfl
  · rintro ⟨acc, changed⟩ e
    dsimp only
    cases limits.get? e.1 with
    | none => exact (Bool.or_false changed).symm
    | some limit =>
      dsimp only
      by_cases hlimit : e.2.exceeds limit = true
      · rw [if_pos hlimit, Option.any_some, hlimit, Bool.or_true]
      · rw [if_neg hlimit, Option.any_some, eq_false_of_ne_true hlimit, Bool.or_false]
  · rw [or_iff_right Bool.false_ne_true]
    refine exists_congr fun r => exists_congr fun q => ?_
    rw [Option.any_eq_true]
    constructor
    · rintro ⟨hq, limit, hlimit, hexceeds⟩
      exact ⟨limit, hq, hlimit, hexceeds⟩
    · rintro ⟨limit, hq, hlimit, hexceeds⟩
      exact ⟨hq, limit, hlimit, hexceeds⟩

/-- What capping a single layer reports. -/
theorem exceedsMaximums_iff (maximum : ResourceList) (x : Requirements) :
    exceedsMaximums maximum [x] = true
      ↔ (∃ r max, maximum.get? r = some max
          ∧ ∀ limit, x.limits.get? r = some limit → limit.exceeds max = true)
        ∨ ∃ r q limit, x.requests.get? r = some q
          ∧ (withMaximums maximum [x]).limits.get? r = some limit ∧ q.exceeds limit = true := by
  show ((capLimits maximum (layered [x]).limits).2
    || (capRequests (capLimits maximum (layered [x]).limits).1 (layered [x]).requests).2) = true ↔ _
  rw [Bool.or_eq_true, capLimits_changed_iff, capRequests_changed_iff, layered_singleton]
  refine or_congr_right (exists_congr fun r => exists_congr fun q => exists_congr fun limit => ?_)
  rw [limits_withMaximums, get?_capLimits]

/-! ## What is lowered -/

/-- A limit or request of the first requirements for a resource is greater than that of the
second. -/
def Lowers (before after : Requirements) (r : String) : Prop :=
  (∃ l l', before.limits.get? r = some l ∧ after.limits.get? r = some l' ∧ l.exceeds l' = true)
    ∨ ∃ q q', before.requests.get? r = some q ∧ after.requests.get? r = some q'
      ∧ q.exceeds q' = true

/-- Nothing is lowered where nothing changes. -/
theorem not_lowers_self (x : Requirements) (r : String) : ¬ x.Lowers x r := by
  have hself : ∀ q : Quantity, q.exceeds q ≠ true := by
    intro q
    rw [Quantity.exceeds_self]
    exact Bool.false_ne_true
  rintro (⟨l, l', hl, hl', hexceeds⟩ | ⟨q, q', hq, hq', hexceeds⟩)
  · rw [Option.some.inj (hl.symm.trans hl')] at hexceeds
    exact hself l' hexceeds
  · rw [Option.some.inj (hq.symm.trans hq')] at hexceeds
    exact hself q' hexceeds

/-- What capping lowers for a resource that has a limit: that limit, or a request, is above the
limit that is left. -/
theorem lowers_withMaximums_iff {maximum : ResourceList} {x : Requirements} {r : String}
    {l l' : Quantity} (hl : x.limits.get? r = some l)
    (hl' : (withMaximums maximum [x]).limits.get? r = some l') :
    x.Lowers (withMaximums maximum [x]) r
      ↔ l.exceeds l' = true ∨ ∃ q, x.requests.get? r = some q ∧ q.exceeds l' = true := by
  refine or_congr ?_ ?_
  · constructor
    · rintro ⟨a, a', ha, ha', hexceeds⟩
      rw [Option.some.inj (hl.symm.trans ha), Option.some.inj (hl'.symm.trans ha')]
      exact hexceeds
    · intro hexceeds
      exact ⟨l, l', hl, hl', hexceeds⟩
  · constructor
    · rintro ⟨q, q', hq, hq', hexceeds⟩
      rw [requests_withMaximums, hq, hl', Option.map_some, Option.elim_some] at hq'
      rw [← Option.some.inj hq', exceeds_lowered] at hexceeds
      exact ⟨q, hq, hexceeds⟩
    · rintro ⟨q, hq, hexceeds⟩
      refine ⟨q, lowered q l', hq, ?_, (exceeds_lowered q l').trans hexceeds⟩
      rw [requests_withMaximums, hq, hl', Option.map_some, Option.elim_some]

/-- A limit is above the one that is left exactly if it is above a ceiling. -/
theorem exceeds_capped_iff {maximum : ResourceList} {x : Requirements} {r : String}
    {l l' : Quantity} (hl : x.limits.get? r = some l)
    (hl' : (withMaximums maximum [x]).limits.get? r = some l') :
    l.exceeds l' = true ↔ ∃ max, maximum.get? r = some max ∧ l.exceeds max = true := by
  rw [limits_withMaximums, hl] at hl'
  cases hmax : maximum.get? r with
  | none =>
    rw [hmax, Option.merge_none_right] at hl'
    rw [← Option.some.inj hl', Quantity.exceeds_self]
    exact iff_of_false Bool.false_ne_true fun ⟨max, hnone, _⟩ => nomatch hnone
  | some max =>
    rw [hmax, Option.merge_some_some] at hl'
    rw [← Option.some.inj hl', exceeds_lowered]
    constructor
    · intro hexceeds
      exact ⟨max, rfl, hexceeds⟩
    · rintro ⟨max', hmax', hexceeds⟩
      rw [Option.some.inj hmax']
      exact hexceeds

/-- Under a ceiling for the resources that are limited, capping reports exactly what the whole
ceiling lowers for these resources. -/
theorem exceedsMaximums_filterKeys_iff (maximum : ResourceList) (x : Requirements) :
    exceedsMaximums (maximum.filterKeys x.limits.contains) [x] = true
      ↔ ∃ r, (x.limits.get? r).isSome = true ∧ x.Lowers (withMaximums maximum [x]) r := by
  have hceiling : ∀ {r max}, (maximum.filterKeys x.limits.contains).get? r = some max
      ↔ (x.limits.get? r).isSome = true ∧ maximum.get? r = some max := by
    intro r max
    rw [Dict.get?_filterKeys]
    exact Option.ite_none_right_eq_some
  -- a resource without a limit is left without one, and the others are left the same limit
  have hleft : ∀ {r l'},
      (withMaximums (maximum.filterKeys x.limits.contains) [x]).limits.get? r = some l'
      ↔ (x.limits.get? r).isSome = true ∧ (withMaximums maximum [x]).limits.get? r = some l' := by
    intro r l'
    rw [limits_withMaximums, limits_withMaximums, Dict.get?_filterKeys]
    unfold Dict.contains
    cases x.limits.get? r with
    | none => exact iff_of_false (fun h => nomatch h) fun h => absurd h.1 Bool.false_ne_true
    | some l => exact (and_iff_right rfl).symm
  rw [exceedsMaximums_iff]
  constructor
  · rintro (⟨r, max, hmax, hall⟩ | ⟨r, q, l', hq, hl', hexceeds⟩)
    · obtain ⟨hlimited, hmax⟩ := hceiling.mp hmax
      obtain ⟨l, hl⟩ := Option.isSome_iff_exists.mp hlimited
      have hcapped : (withMaximums maximum [x]).limits.get? r = some (lowered l max) := by
        rw [limits_withMaximums, hl, hmax, Option.merge_some_some]
      refine ⟨r, hlimited, (lowers_withMaximums_iff hl hcapped).mpr (Or.inl ?_)⟩
      exact (exceeds_capped_iff hl hcapped).mpr ⟨max, hmax, hall l hl⟩
    · obtain ⟨hlimited, hl'⟩ := hleft.mp hl'
      obtain ⟨l, hl⟩ := Option.isSome_iff_exists.mp hlimited
      exact ⟨r, hlimited, (lowers_withMaximums_iff hl hl').mpr (Or.inr ⟨q, hq, hexceeds⟩)⟩
  · rintro ⟨r, hlimited, hlowers⟩
    obtain ⟨l, hl⟩ := Option.isSome_iff_exists.mp hlimited
    have htight := merge_tighter_left (x.limits.get? r) (maximum.get? r) l hl
    rw [← limits_withMaximums] at htight
    obtain ⟨l', hl', -⟩ := htight
    rcases (lowers_withMaximums_iff hl hl').mp hlowers with hexceeds | ⟨q, hq, hexceeds⟩
    · obtain ⟨max, hmax, hexceeds⟩ := (exceeds_capped_iff hl hl').mp hexceeds
      refine Or.inl ⟨r, max, hceiling.mpr ⟨hlimited, hmax⟩, ?_⟩
      intro limit hlimit
      rw [Option.some.inj (hlimit.symm.trans hl)]
      exact hexceeds
    · exact Or.inr ⟨r, q, l', hq, hleft.mpr ⟨hlimited, hl'⟩, hexceeds⟩

end BuildFleet.Requirements
