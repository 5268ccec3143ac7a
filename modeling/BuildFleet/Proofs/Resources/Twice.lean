import BuildFleet.Proofs.Resources.Clamping

/-!
# Capping twice

Capping takes, for each resource, the tightest limit that is as tight as what it is given. By value
there is only one such limit (`Tighter.sameValue`), so it does not matter in how many steps it
is taken or in which order. It does matter for the texts, for of two values that are spelled
differently one step may keep this one and another that one.

> `withMaximums_tighten`: capping under a tightened ceiling is capping under the one ceiling and
> then under the other, and capping again under the same ceiling changes nothing.
-/

namespace BuildFleet.Requirements

/-- Both are missing, or both have the same value. -/
def SameValue : Option Quantity → Option Quantity → Prop :=
  Option.Rel fun a b => a.compare b = .eq

/-- Limits that are as tight as one another have the same value. -/
theorem Tighter.sameValue {a b : Option Quantity} (hab : Tighter a b) (hba : Tighter b a) :
    SameValue a b := by
  cases a with
  | none =>
    cases b with
    | none => exact .none
    | some y =>
      obtain ⟨x, hx, -⟩ := hab y rfl
      exact nomatch hx
  | some x =>
    obtain ⟨y, rfl, hyx⟩ := hba x rfl
    obtain ⟨_, hx, hxy⟩ := hab y rfl
    obtain rfl := Option.some.inj hx
    exact .some (Quantity.compare_eq_of_le_of_le hxy hyx)

/-! ## Taking the tightest limit in steps -/

theorem merge_merge_tighter (a b c : Option Quantity) :
    Tighter (a.merge lowered (b.merge lowered c)) ((a.merge lowered c).merge lowered b) := by
  refine tighter_merge (tighter_merge (merge_tighter_left _ _) ?_) ?_
  · exact (merge_tighter_right _ _).trans (merge_tighter_right b c)
  · exact (merge_tighter_right _ _).trans (merge_tighter_left b c)

theorem tighter_merge_merge (a b c : Option Quantity) :
    Tighter ((a.merge lowered c).merge lowered b) (a.merge lowered (b.merge lowered c)) := by
  refine tighter_merge ?_ (tighter_merge (merge_tighter_right _ _) ?_)
  · exact (merge_tighter_left _ _).trans (merge_tighter_left a c)
  · exact (merge_tighter_left _ _).trans (merge_tighter_right a c)

/-- A bound that a tighter one follows may be left out. -/
theorem merge_sameValue {q bound loose tight : Option Quantity} (hbound : Tighter bound tight)
    (htight : Tighter tight bound) (hloose : Tighter tight loose) :
    SameValue (q.merge lowered bound) ((q.merge lowered loose).merge lowered tight) := by
  refine Tighter.sameValue ?_ ?_
  · have hright : Tighter (q.merge lowered bound) tight :=
      (merge_tighter_right q bound).trans hbound
    exact tighter_merge (tighter_merge (merge_tighter_left q bound) (hright.trans hloose)) hright
  · refine tighter_merge ?_ ((merge_tighter_right _ _).trans htight)
    exact (merge_tighter_left _ _).trans (merge_tighter_left q loose)

/-! ## Capping -/

/-- Maximums add no request and take none away. -/
theorem requests_withMaximums_isSome (maximum : ResourceList) (x : Requirements) (r : String) :
    ((withMaximums maximum [x]).requests.get? r).isSome = (x.requests.get? r).isSome := by
  rw [requests_withMaximums, Option.isSome_map]

/-- A request that is there is capped like a limit. -/
theorem requests_withMaximums_of_isSome {maximum : ResourceList} {x : Requirements} {r : String}
    (h : (x.requests.get? r).isSome = true) : (withMaximums maximum [x]).requests.get? r
      = (x.requests.get? r).merge lowered ((withMaximums maximum [x]).limits.get? r) := by
  obtain ⟨q, hq⟩ := Option.isSome_iff_exists.mp h
  rw [requests_withMaximums, hq, Option.map_some]
  cases (withMaximums maximum [x]).limits.get? r with
  | none => rfl
  | some l => rfl

section

variable (ceiling lower : ResourceList) (x : Requirements) (r : String)

/-- By value, the limits are the same in one step and in two. -/
theorem limits_tighten_tighter :
    Tighter ((withMaximums (ceiling.tighten lower) [x]).limits.get? r)
        ((withMaximums lower [withMaximums ceiling [x]]).limits.get? r)
      ∧ Tighter ((withMaximums lower [withMaximums ceiling [x]]).limits.get? r)
        ((withMaximums (ceiling.tighten lower) [x]).limits.get? r) := by
  simp only [limits_withMaximums, get?_tighten]
  exact ⟨merge_merge_tighter _ _ _, tighter_merge_merge _ _ _⟩

/-- So are the requests. The limit that the first of two steps lowers them to does not matter, for
that of the second is at least as tight. -/
theorem requests_tighten_sameValue :
    SameValue ((withMaximums (ceiling.tighten lower) [x]).requests.get? r)
      ((withMaximums lower [withMaximums ceiling [x]]).requests.get? r) := by
  obtain ⟨htighter, htighter'⟩ := limits_tighten_tighter ceiling lower x r
  have hfirst : Tighter ((withMaximums lower [withMaximums ceiling [x]]).limits.get? r)
      ((withMaximums ceiling [x]).limits.get? r) := by
    rw [limits_withMaximums lower]
    exact merge_tighter_left _ _
  cases hq : (x.requests.get? r).isSome with
  | true =>
    have hfirstSome := (requests_withMaximums_isSome ceiling x r).trans hq
    rw [requests_withMaximums_of_isSome hq, requests_withMaximums_of_isSome hfirstSome,
      requests_withMaximums_of_isSome hq]
    exact merge_sameValue htighter htighter' hfirst
  | false =>
    have hone : ((withMaximums (ceiling.tighten lower) [x]).requests.get? r).isSome = false :=
      (requests_withMaximums_isSome _ x r).trans hq
    have htwo : ((withMaximums lower [withMaximums ceiling [x]]).requests.get? r).isSome = false :=
      (requests_withMaximums_isSome lower _ r).trans
        ((requests_withMaximums_isSome ceiling x r).trans hq)
    rw [Option.isSome_eq_false_iff, Option.isNone_iff_eq_none] at hone htwo
    rw [hone, htwo]
    exact .none

/-- What comes out of capping is left as it is when it is capped again. -/
theorem withMaximums_withMaximums :
    withMaximums ceiling [withMaximums ceiling [x]] = withMaximums ceiling [x] := by
  refine withMaximums_eq_self_iff.mpr ⟨fun r => ?_, consistent_withMaximums ceiling x⟩
  rw [limits_withMaximums]
  exact merge_tighter_right _ _

end

/-- Capping under a tightened ceiling leaves, by value, what capping under both ceilings one after
the other does. Capping again under the same ceiling leaves the texts, too, and reports nothing. -/
theorem withMaximums_tighten (ceiling lower : ResourceList) (x : Requirements) :
    (∀ r, SameValue ((withMaximums (ceiling.tighten lower) [x]).limits.get? r)
          ((withMaximums lower [withMaximums ceiling [x]]).limits.get? r)
        ∧ SameValue ((withMaximums (ceiling.tighten lower) [x]).requests.get? r)
          ((withMaximums lower [withMaximums ceiling [x]]).requests.get? r))
      ∧ applyMaximums ceiling [withMaximums ceiling [x]] = (withMaximums ceiling [x], false) := by
  constructor
  · intro r
    obtain ⟨htighter, htighter'⟩ := limits_tighten_tighter ceiling lower x r
    exact ⟨htighter.sameValue htighter', requests_tighten_sameValue ceiling lower x r⟩
  · have hagain := withMaximums_withMaximums ceiling x
    refine Prod.ext hagain ?_
    show exceedsMaximums ceiling [withMaximums ceiling [x]] = false
    rw [← Bool.not_eq_true, exceedsMaximums_iff_ne]
    exact not_not_intro hagain

/-- The texts can differ. A limit that is missing is filled in once, from the one ceiling or from
the other. -/
example :
    let ceiling : ResourceList := .ofList [("cpu", ⟨"1"⟩)]
    let lower : ResourceList := .ofList [("cpu", ⟨"1000m"⟩)]
    (withMaximums (ceiling.tighten lower) [empty]).limits.get? "cpu" = some ⟨"1000m"⟩
      ∧ (withMaximums lower [withMaximums ceiling [empty]]).limits.get? "cpu" = some ⟨"1"⟩ := by
  decide

end BuildFleet.Requirements
