import BuildFleet.Proofs.Dict.Fold
import BuildFleet.Proofs.Quantity.Order
import BuildFleet.Resources.Ceiling

/-!
# Settling resources, resource by resource

The functions that settle resources go through whole maps. Here they are read off one resource at a
time, where all of them turn out to be the same operation: two limits for a resource, either of
which may be missing, are combined into one by `Option.merge lowered`, and a request is lowered to
the limit if there is one.

> `get?_overrideLimits`, `get?_tighten`, `get?_capLimits`: each is `Option.merge lowered` of what
> its two maps have;
> `get?_capRequests`, `get?_overrideRequests`: a request is lowered to the limit that stands.

A missing limit is the loosest one. `Tighter` is the order on limits that says so, and
`Option.merge lowered` gives the tightest limit that is as tight as both (`merge_tighter_left`,
`merge_tighter_right`, `tighter_merge`).
-/

namespace BuildFleet

namespace Requirements

/-! ## Limits that may be missing -/

/-- What is lowered is at most what it was. -/
theorem lowered_le_left (q bound : Quantity) : lowered q bound ≤ q := by
  unfold lowered
  split
  · next h => exact Quantity.le_of_exceeds h
  · exact le_refl q

/-- What is lowered is within the bound. -/
theorem lowered_le_right (q bound : Quantity) : lowered q bound ≤ bound := by
  unfold lowered
  split
  · exact le_refl bound
  · next h => exact Quantity.le_iff_exceeds.mpr (Bool.not_eq_true _ ▸ h)

/-- Lowering goes no further than both. -/
theorem le_lowered {x q bound : Quantity} (hq : x ≤ q) (hb : x ≤ bound) :
    x ≤ lowered q bound := by
  unfold lowered
  split
  · exact hb
  · exact hq

/-- The first limit is as tight as the second; where the second is missing, any limit is. -/
def Tighter (a b : Option Quantity) : Prop := ∀ y, b = some y → ∃ x, a = some x ∧ x ≤ y

/-- What is tighter than a tighter limit is tighter. -/
theorem Tighter.trans {a b c : Option Quantity} (hab : Tighter a b) (hbc : Tighter b c) :
    Tighter a c := by
  intro z hz
  obtain ⟨y, hy, hyz⟩ := hbc z hz
  obtain ⟨x, hx, hxy⟩ := hab y hy
  exact ⟨x, hx, le_trans hxy hyz⟩

/-- The smaller of two limits is as tight as the first. -/
theorem merge_tighter_left (a b : Option Quantity) : Tighter (a.merge lowered b) a := by
  intro y hy
  subst hy
  cases b with
  | none => exact ⟨y, rfl, le_refl y⟩
  | some z => exact ⟨lowered y z, rfl, lowered_le_left y z⟩

/-- The smaller of two limits is as tight as the second. -/
theorem merge_tighter_right (a b : Option Quantity) : Tighter (a.merge lowered b) b := by
  intro y hy
  subst hy
  cases a with
  | none => exact ⟨y, rfl, le_refl y⟩
  | some x => exact ⟨lowered x y, rfl, lowered_le_right x y⟩

/-- What is as tight as two limits is as tight as the smaller one. -/
theorem tighter_merge {a b c : Option Quantity} (hb : Tighter a b) (hc : Tighter a c) :
    Tighter a (b.merge lowered c) := by
  cases b with
  | none =>
    rw [Option.merge_none_left]
    exact hc
  | some y =>
    cases c with
    | none => exact hb
    | some z =>
      intro w hw
      rw [Option.merge_some_some, Option.some_inj] at hw
      obtain ⟨x, hx, hxy⟩ := hb y rfl
      obtain ⟨x', hx', hxz⟩ := hc z rfl
      have hxx : x' = x := Option.some.inj (hx'.symm.trans hx)
      rw [← hw]
      exact ⟨x, hx, le_lowered hxy (hxx ▸ hxz)⟩

/-! ## What each function leaves for a resource -/

theorem if_exceeds (q bound : Quantity) :
    (if q.exceeds bound then some bound else some q) = some (lowered q bound) :=
  (apply_ite some _ _ _).symm

/-- An overridden limit is the smaller one of what is asked and the default. -/
theorem get?_overrideLimits (asked defaults : ResourceList) (r : String) :
    (overrideLimits asked defaults).get? r = (asked.get? r).merge lowered (defaults.get? r) := by
  unfold overrideLimits
  -- a limit that is too high is skipped, and then the default one is still there
  refine (Dict.look_foldl Dict.get? (fun k prev q =>
    (defaults.get? k).elim (some q) fun limit => if q.exceeds limit then prev else some q)
    ?_ asked defaults r).trans ?_
  · intro acc e k
    cases defaults.get? e.1 with
    | none => exact Dict.get?_insert acc e.1 k e.2
    | some limit =>
      dsimp only [Option.elim]
      split
      · exact (ite_self (acc.get? k)).symm
      · exact Dict.get?_insert acc e.1 k e.2
  · cases asked.get? r with
    | none => exact (Option.merge_none_left).symm
    | some q =>
      rw [Option.elim_some]
      cases defaults.get? r with
      | none => rfl
      | some limit => rw [Option.elim_some, Option.merge_some_some, if_exceeds]

/-- A tightened ceiling is the smaller one of both. -/
theorem get?_tighten (ceiling lower : ResourceList) (r : String) :
    (ResourceList.tighten ceiling lower).get? r
      = (lower.get? r).merge lowered (ceiling.get? r) :=
  get?_overrideLimits lower ceiling r

/-- A request that is asked for is lowered to its limit, and the default stands where none is. -/
theorem get?_overrideRequests (asked limits defaults : ResourceList) (r : String) :
    (overrideRequests asked limits defaults).get? r
      = ((asked.get? r).map fun q => (limits.get? r).elim q (lowered q)).or (defaults.get? r) := by
  unfold overrideRequests
  refine (Dict.look_foldl Dict.get? (fun k _ q => some ((limits.get? k).elim q (lowered q)))
    ?_ asked defaults r).trans ?_
  · intro acc e k
    rw [Dict.get?_insert]
    cases limits.get? e.1 with
    | none => rfl
    | some limit => rw [Option.elim_some]
  · cases asked.get? r with
    | none => rfl
    | some q => rfl

/-- What is capped is the smaller of the limit and the ceiling. -/
theorem get?_capLimits (maximum limits : ResourceList) (r : String) :
    (capLimits maximum limits).1.get? r = (limits.get? r).merge lowered (maximum.get? r) := by
  unfold capLimits
  refine (Dict.look_foldl (fun acc => acc.1.get?) (fun _ prev max =>
    prev.elim (some max) fun limit => if limit.exceeds max then some max else some limit)
    ?_ maximum (limits, false) r).trans ?_
  · intro acc e k
    obtain ⟨acc, changed⟩ := acc
    dsimp only
    -- whether anything is put depends on what is there, so the key is compared first
    by_cases hk : e.1 = k
    · subst hk
      rw [if_pos rfl]
      cases hacc : acc.get? e.1 with
      | none => exact Dict.get?_insert_self acc e.1 e.2
      | some limit =>
        dsimp only [Option.elim]
        split
        · exact Dict.get?_insert_self acc e.1 e.2
        · exact hacc
    · rw [if_neg hk]
      cases acc.get? e.1 with
      | none => exact Dict.get?_insert_ne acc e.2 hk
      | some limit =>
        dsimp only [Option.elim]
        split
        · exact Dict.get?_insert_ne acc e.2 hk
        · rfl
  · cases maximum.get? r with
    | none => exact (Option.merge_none_right).symm
    | some max =>
      rw [Option.elim_some]
      cases limits.get? r with
      | none => rfl
      | some limit => rw [Option.elim_some, Option.merge_some_some, if_exceeds]

/-- A capped request is lowered to its limit. -/
theorem get?_capRequests (limits requests : ResourceList) (r : String) :
    (capRequests limits requests).1.get? r
      = (requests.get? r).map fun q => (limits.get? r).elim q (lowered q) := by
  unfold capRequests
  refine (Dict.look_foldl (fun acc => acc.1.get?) (fun k prev q =>
    (limits.get? k).elim prev fun limit => if q.exceeds limit then some limit else prev)
    ?_ requests (requests, false) r).trans ?_
  · intro acc e k
    obtain ⟨acc, changed⟩ := acc
    dsimp only
    cases limits.get? e.1 with
    | none => exact (ite_self (acc.get? k)).symm
    | some limit =>
      dsimp only [Option.elim]
      split
      · exact Dict.get?_insert acc e.1 k limit
      · exact (ite_self (acc.get? k)).symm
  · cases requests.get? r with
    | none => rfl
    | some q =>
      rw [Option.elim_some, Option.map_some]
      cases limits.get? r with
      | none => rfl
      | some limit => rw [Option.elim_some, Option.elim_some, if_exceeds]

/-! ## Overriding and capping as a whole -/

/-- The limit of an instance is the smaller one of what it asks and the default. -/
theorem limits_override (asked : Option Requirements) (defaults : Requirements) (r : String) :
    (override asked defaults).limits.get? r
      = (asked.bind fun a => a.limits.get? r).merge lowered (defaults.limits.get? r) := by
  cases asked with
  | none => exact (Option.merge_none_left).symm
  | some a => exact get?_overrideLimits a.limits defaults.limits r

/-- The request of an instance is what it asks, within the limit, or else the default. -/
theorem requests_override (asked : Option Requirements) (defaults : Requirements) (r : String) :
    (override asked defaults).requests.get? r
      = ((asked.bind fun a => a.requests.get? r).map fun q =>
          ((override asked defaults).limits.get? r).elim q (lowered q)).or
        (defaults.requests.get? r) := by
  cases asked with
  | none => rfl
  | some a =>
    exact get?_overrideRequests a.requests (overrideLimits a.limits defaults.limits)
      defaults.requests r

/-- A single layer is left as it is. -/
theorem layered_singleton (x : Requirements) : layered [x] = x := by
  have hextend : ∀ d : ResourceList, Dict.empty.extend d = d := by
    intro d
    apply Dict.ext_get?
    intro k
    rw [Dict.get?_extend, Dict.get?_empty, Option.or_none]
  show Requirements.mk (Dict.empty.extend x.limits) (Dict.empty.extend x.requests) = x
  rw [hextend, hextend]

/-- Under maximums a limit is the smaller one of itself and its maximum. -/
theorem limits_withMaximums (maximum : ResourceList) (x : Requirements) (r : String) :
    (withMaximums maximum [x]).limits.get? r
      = (x.limits.get? r).merge lowered (maximum.get? r) := by
  show (capLimits maximum (layered [x]).limits).1.get? r = _
  rw [layered_singleton, get?_capLimits]

/-- Under maximums a request is lowered to its limit. -/
theorem requests_withMaximums (maximum : ResourceList) (x : Requirements) (r : String) :
    (withMaximums maximum [x]).requests.get? r
      = (x.requests.get? r).map fun q =>
          ((withMaximums maximum [x]).limits.get? r).elim q (lowered q) := by
  show (capRequests (capLimits maximum (layered [x]).limits).1 (layered [x]).requests).1.get? r
    = (x.requests.get? r).map fun q =>
        ((capLimits maximum (layered [x]).limits).1.get? r).elim q (lowered q)
  rw [get?_capRequests, layered_singleton]

end Requirements

end BuildFleet
