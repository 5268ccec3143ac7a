import BuildFleet.Proofs.Resources.Consistency
import BuildFleet.Proofs.Resources.Reporting
import Mathlib.Logic.Basic
import Mathlib.Tactic.Push

/-!
# What capping makes of an entry

Capping layers requirements and then lowers what is above a bound: limits to the ceiling, and
requests to the limits that come of that. Both are the same for an entry (`Clamped`): it is lowered
to its bound if it is above it, and else left as it is written.

> `withMaximums_eq_self_iff`: requirements are left as they are exactly if their limits are as tight
> as the ceiling and no request exceeds its limit;
> `exceedsMaximums_iff_ne`: a change is reported exactly if there is one;
> `applyMaximums_caps`: every entry is clamped, from the value that the last layer has for it.
-/

namespace BuildFleet.Requirements

/-! ## Layers -/

/-- The value that the last layer with an entry for the resource has for it. -/
def lastValue (part : Requirements → ResourceList) (layers : List Requirements) (r : String) :
    Option Quantity :=
  layers.reverse.findSome? fun x => (part x).get? r

/-- The last layer with a value for a resource decides. -/
theorem lastValue_cons (part : Requirements → ResourceList) (x : Requirements)
    (layers : List Requirements) (r : String) :
    lastValue part (x :: layers) r = (lastValue part layers r).or ((part x).get? r) := by
  unfold lastValue
  rw [List.reverse_cons, List.findSome?_append, List.findSome?_singleton]

/-- There is a last value if any layer has one. -/
theorem lastValue_isSome_iff {part : Requirements → ResourceList} {layers : List Requirements}
    {r : String} : (lastValue part layers r).isSome = true
      ↔ ∃ x ∈ layers, ((part x).get? r).isSome = true := by
  unfold lastValue
  rw [List.findSome?_isSome_iff]
  simp only [List.mem_reverse]

/-- Layering a part that each layer extends leaves its last values. -/
theorem get?_layered {part : Requirements → ResourceList}
    (hempty : part empty = .empty)
    (hpart : ∀ acc layer : Requirements, part ⟨acc.limits.extend layer.limits,
      acc.requests.extend layer.requests⟩ = (part acc).extend (part layer))
    (layers : List Requirements) (r : String) :
    (part (layered layers)).get? r = lastValue part layers r := by
  have step : ∀ (layers : List Requirements) (acc : Requirements),
      (part (layers.foldl (fun acc layer =>
        ⟨acc.limits.extend layer.limits, acc.requests.extend layer.requests⟩) acc)).get? r
        = (lastValue part layers r).or ((part acc).get? r) := by
    intro layers
    induction layers with
    | nil => exact fun acc => rfl
    | cons x layers ih =>
      intro acc
      rw [List.foldl_cons, ih, hpart, Dict.get?_extend, lastValue_cons, Option.or_assoc]
  refine (step layers empty).trans ?_
  rw [hempty, Dict.get?_empty, Option.or_none]

/-- The limits of layers are their last ones. -/
theorem limits_layered (layers : List Requirements) (r : String) :
    (layered layers).limits.get? r = lastValue limits layers r :=
  get?_layered rfl (fun _ _ => rfl) layers r

/-- The requests of layers are their last ones. -/
theorem requests_layered (layers : List Requirements) (r : String) :
    (layered layers).requests.get? r = lastValue requests layers r :=
  get?_layered rfl (fun _ _ => rfl) layers r

/-- Capping layers is capping what they make together. -/
theorem applyMaximums_layered (maximum : ResourceList) (layers : List Requirements) :
    applyMaximums maximum layers = applyMaximums maximum [layered layers] := by
  unfold applyMaximums
  rw [layered_singleton]

/-! ## One entry -/

/-- A quantity above the bound is lowered to it. -/
theorem lowered_of_exceeds {q bound : Quantity} (h : q.exceeds bound = true) :
    lowered q bound = bound := if_pos h

/-- A quantity within the bound stays. -/
theorem lowered_of_le {q bound : Quantity} (h : q ≤ bound) : lowered q bound = q := by
  rw [lowered, Quantity.le_iff_exceeds.mp h, if_neg Bool.false_ne_true]

/-- What is left of the last value for an entry under a bound. Either may be missing. -/
structure Clamped (bound last left : Option Quantity) : Prop where
  /-- It does not exceed the bound. -/
  within : ∀ b q, bound = some b → left = some q → q.exceeds b = false
  /-- It is the last value, or the bound where that was missing or exceeded it. -/
  origin : ∀ q, left = some q →
    last = some q ∨ bound = some q ∧ ∀ l, last = some l → l.exceeds q = true
  /-- A value within the bound is left as it is written. -/
  kept : ∀ l, last = some l → (∀ b, bound = some b → l.exceeds b = false) → left = some l

/-- Lowering a quantity clamps it to the bound. -/
theorem clamped_lowered (q bound : Quantity) :
    Clamped (some bound) (some q) (some (lowered q bound)) := by
  refine ⟨?_, ?_, ?_⟩
  · intro b left hb hleft
    rw [← Option.some.inj hb, ← Option.some.inj hleft]
    exact lowered_le_right q bound
  · intro left hleft
    rw [← hleft]
    cases h : q.exceeds bound with
    | false => exact Or.inl (congrArg some (lowered_of_le h).symm)
    | true =>
      rw [← Option.some.inj hleft, lowered_of_exceeds h]
      exact Or.inr ⟨rfl, fun l hl => Option.some.inj hl ▸ h⟩
  · intro l hl hwithin
    rw [← Option.some.inj hl] at hwithin ⊢
    exact congrArg some (lowered_of_le (hwithin bound rfl))

/-- Without a bound nothing happens. -/
theorem clamped_none (last : Option Quantity) : Clamped none last last :=
  ⟨fun _ _ h => (nomatch h), fun _ h => Or.inl h, fun _ h _ => h⟩

/-- A missing limit is filled in. -/
theorem clamped_merge (bound last : Option Quantity) :
    Clamped bound last (last.merge lowered bound) := by
  cases bound with
  | none =>
    rw [Option.merge_none_right]
    exact clamped_none last
  | some b =>
    cases last with
    | none =>
      rw [Option.merge_none_left]
      refine ⟨?_, fun _ h => Or.inr ⟨h, fun _ hl => nomatch hl⟩, fun _ hl => nomatch hl⟩
      intro bound left hbound hleft
      rw [← Option.some.inj hbound, ← Option.some.inj hleft]
      exact Quantity.exceeds_self b
    | some q => exact clamped_lowered q b

/-- A missing request stays missing. -/
theorem clamped_map (bound last : Option Quantity) :
    Clamped bound last (last.map fun q => bound.elim q (lowered q)) := by
  cases last with
  | none => exact ⟨fun _ _ _ h => (nomatch h), fun _ h => (nomatch h), fun _ h => nomatch h⟩
  | some q =>
    cases bound with
    | none => exact clamped_none (some q)
    | some b => exact clamped_lowered q b

/-! ## What is left as it is -/

/-- A limit stays exactly if it is as tight as the other one. -/
theorem merge_eq_left_iff {a b : Option Quantity} : a.merge lowered b = a ↔ Tighter a b := by
  refine ⟨fun h => h ▸ merge_tighter_right a b, fun h => ?_⟩
  cases b with
  | none => exact Option.merge_none_right
  | some y =>
    obtain ⟨x, rfl, hxy⟩ := h y rfl
    rw [Option.merge_some_some, lowered_of_le hxy]

/-- A limit is not as tight as a bound if it is missing or exceeds it. -/
theorem not_tighter_iff {a b : Option Quantity} : ¬ Tighter a b
    ↔ ∃ y, b = some y ∧ ∀ x, a = some x → x.exceeds y = true := by
  unfold Tighter
  push Not
  refine exists_congr fun y => and_congr_right fun _ => forall_congr' fun x =>
    imp_congr_right fun _ => ?_
  rw [Quantity.le_iff_exceeds, Bool.not_eq_false]

/-- Requirements with the same limits and requests for all resources are the same. -/
theorem ext_get? {x y : Requirements} (hlimits : ∀ r, x.limits.get? r = y.limits.get? r)
    (hrequests : ∀ r, x.requests.get? r = y.requests.get? r) : x = y := by
  cases x
  cases y
  rw [mk.injEq]
  exact ⟨Dict.ext_get? hlimits, Dict.ext_get? hrequests⟩

/-- Requirements differ in some entry. -/
theorem ne_iff_get? {x y : Requirements} : x ≠ y ↔ ∃ r, x.limits.get? r ≠ y.limits.get? r
    ∨ x.requests.get? r ≠ y.requests.get? r := by
  constructor
  · intro h
    refine Classical.byContradiction fun hsame => h ?_
    push Not at hsame
    exact ext_get? (fun r => (hsame r).1) fun r => (hsame r).2
  · intro hdiffer h
    obtain ⟨r, hr⟩ := hdiffer
    rw [h] at hr
    exact hr.elim (fun hl => hl rfl) fun hq => hq rfl

/-- Under limits as tight as the ceiling, capping leaves the limits as they are. -/
theorem limits_withMaximums_of_tighter {maximum : ResourceList} {x : Requirements}
    (h : ∀ r, Tighter (x.limits.get? r) (maximum.get? r)) (r : String) :
    (withMaximums maximum [x]).limits.get? r = x.limits.get? r := by
  rw [limits_withMaximums, merge_eq_left_iff]
  exact h r

/-- Maximums change nothing exactly where the limits keep to them and the requests to the limits. -/
theorem withMaximums_eq_self_iff {maximum : ResourceList} {x : Requirements} :
    withMaximums maximum [x] = x
      ↔ (∀ r, Tighter (x.limits.get? r) (maximum.get? r)) ∧ x.Consistent := by
  constructor
  · intro h
    refine ⟨fun r => ?_, h ▸ consistent_withMaximums maximum x⟩
    rw [← merge_eq_left_iff, ← limits_withMaximums, h]
  · intro h
    obtain ⟨hlimits, hconsistent⟩ := h
    have hleft := limits_withMaximums_of_tighter hlimits
    refine ext_get? hleft fun r => ?_
    rw [requests_withMaximums, hleft]
    cases hq : x.requests.get? r with
    | none => rfl
    | some q =>
      cases hl : x.limits.get? r with
      | none => rfl
      | some l => exact congrArg some (lowered_of_le (hconsistent r q l hq hl))

/-- Capping reports a change exactly if it makes one. -/
theorem exceedsMaximums_iff_ne {maximum : ResourceList} {x : Requirements} :
    exceedsMaximums maximum [x] = true ↔ withMaximums maximum [x] ≠ x := by
  rw [exceedsMaximums_iff, Ne, withMaximums_eq_self_iff, not_and_or, not_forall]
  by_cases hlimits : ∃ r, ¬ Tighter (x.limits.get? r) (maximum.get? r)
  · obtain ⟨r, hr⟩ := hlimits
    obtain ⟨max, hmax, hexceeds⟩ := not_tighter_iff.mp hr
    exact iff_of_true (Or.inl ⟨r, max, hmax, hexceeds⟩) (Or.inl ⟨r, hr⟩)
  · rw [or_iff_right hlimits]
    have hleft := limits_withMaximums_of_tighter (not_exists_not.mp hlimits)
    have hnone : ¬ ∃ r max, maximum.get? r = some max
        ∧ ∀ limit, x.limits.get? r = some limit → limit.exceeds max = true :=
      fun ⟨r, hr⟩ => hlimits ⟨r, not_tighter_iff.mpr hr⟩
    rw [or_iff_right hnone]
    unfold Consistent
    push Not
    refine exists_congr fun r => exists_congr fun q => exists_congr fun limit => ?_
    rw [hleft, Bool.ne_false_iff]

/-! ## All entries -/

/-- The result of capping layered requirements, and whether it is told to differ from them. -/
structure Caps (maximum : ResourceList) (layers : List Requirements) (result : Requirements)
    (changed : Bool) : Prop where
  /-- Limits are clamped to the ceiling. -/
  limits : ∀ r, Clamped (maximum.get? r) (lastValue limits layers r) (result.limits.get? r)
  /-- Requests are clamped to the limits that come of that. -/
  requests : ∀ r,
    Clamped (result.limits.get? r) (lastValue requests layers r) (result.requests.get? r)
  /-- So they do not exceed the ceiling either. -/
  ceiling : ∀ r max q, maximum.get? r = some max → result.requests.get? r = some q →
    q.exceeds max = false
  limitKeys : ∀ r, (result.limits.get? r).isSome = true
    ↔ (∃ x ∈ layers, (x.limits.get? r).isSome = true) ∨ (maximum.get? r).isSome = true
  requestKeys : ∀ r, (result.requests.get? r).isSome = true
    ↔ ∃ x ∈ layers, (x.requests.get? r).isSome = true
  /-- A change is told exactly if some entry is not the last value for it. -/
  changed : changed = true ↔ ∃ r, result.limits.get? r ≠ lastValue Requirements.limits layers r
    ∨ result.requests.get? r ≠ lastValue Requirements.requests layers r

theorem applyMaximums_caps (maximum : ResourceList) (layers : List Requirements) :
    Caps maximum layers (applyMaximums maximum layers).1 (applyMaximums maximum layers).2 := by
  rw [applyMaximums_layered]
  show Caps maximum layers (withMaximums maximum [layered layers])
    (exceedsMaximums maximum [layered layers])
  refine ⟨?_, ?_, ?_, ?_, ?_, ?_⟩
  · intro r
    rw [limits_withMaximums, limits_layered]
    exact clamped_merge _ _
  · intro r
    rw [requests_withMaximums, requests_layered]
    exact clamped_map _ _
  · intro r max q hmax hq
    have htight := merge_tighter_right ((layered layers).limits.get? r) (maximum.get? r)
    rw [← limits_withMaximums] at htight
    obtain ⟨l, hl, hle⟩ := htight max hmax
    have hql : q ≤ l := consistent_withMaximums maximum (layered layers) r q l hq hl
    exact le_trans hql hle
  · intro r
    rw [limits_withMaximums, limits_layered, Option.isSome_merge, Bool.or_eq_true,
      lastValue_isSome_iff]
  · intro r
    rw [requests_withMaximums, requests_layered, Option.isSome_map, lastValue_isSome_iff]
  · rw [exceedsMaximums_iff_ne, ne_iff_get?]
    simp only [limits_layered, requests_layered]

end BuildFleet.Requirements
