import Mathlib.Order.Defs.PartialOrder
import BuildFleet.Quantity.Basic

/-!
# The value order on quantities

Quantities are compared by value, and texts without a value come after all others in the order of
texts. This file shows that comparing is a total preorder, whatever the texts are:

> `Quantity.instTransCmpCompare`: turning a comparison round swaps its answer, and "not
> greater" is transitive, also between texts with and without a value;
> `le_total`: of two quantities one does not exceed the other.

`a ≤ b` stands for `a.exceeds b = false`, which is how the operator asks. It is no partial order:
`1000m` and `1` are two quantities that exceed neither each other.
-/

namespace BuildFleet.Quantity

/-- Comparing is oriented and transitive. -/
instance instTransCmpCompare : Std.TransCmp Quantity.compare where
  eq_swap := by
    intro a b
    unfold Quantity.compare
    cases a.nano? with
    | none =>
      cases b.nano? with
      | none =>
        show Ord.compare a.text b.text = (Ord.compare b.text a.text).swap
        exact Std.OrientedOrd.eq_swap
      | some y => rfl
    | some x =>
      cases b.nano? with
      | none => rfl
      | some y =>
        show Ord.compare x y = (Ord.compare y x).swap
        exact Std.OrientedOrd.eq_swap
  isLE_trans := by
    intro a b c hab hbc
    unfold Quantity.compare at hab hbc ⊢
    cases ha : a.nano? with
    | none =>
      -- nothing but a text without a value is above one, so none of the three has a value
      cases hb : b.nano? with
      | some y => simp [ha, hb] at hab
      | none =>
        cases hc : c.nano? with
        | some z => simp [hb, hc] at hbc
        | none =>
          simp only [ha, hb, hc] at hab hbc ⊢
          exact Std.TransCmp.isLE_trans hab hbc
    | some x =>
      cases hc : c.nano? with
      | none => rfl
      | some z =>
        cases hb : b.nano? with
        | none => simp [hb, hc] at hbc
        | some y =>
          simp only [ha, hb, hc] at hab hbc ⊢
          exact Std.TransCmp.isLE_trans hab hbc

/-- At most as great by value. -/
instance : LE Quantity := ⟨fun a b => a.exceeds b = false⟩

/-- A quantity is at most another if it does not exceed it. -/
theorem le_iff_exceeds {a b : Quantity} : a ≤ b ↔ a.exceeds b = false := Iff.rfl

/-- A quantity is at most another if it does not come after it. -/
theorem le_iff_isLE {a b : Quantity} : a ≤ b ↔ (a.compare b).isLE = true := by
  rw [le_iff_exceeds]
  unfold exceeds
  cases a.compare b <;> decide

instance : Preorder Quantity where
  le_refl a := le_iff_isLE.mpr Std.ReflCmp.isLE_rfl
  le_trans a b c hab hbc := by
    rw [le_iff_isLE] at hab hbc ⊢
    exact Std.TransCmp.isLE_trans hab hbc

/-- No quantity exceeds itself. -/
@[simp] theorem exceeds_self (a : Quantity) : a.exceeds a = false := le_refl a

/-- What does not come below comes above. -/
theorem le_of_exceeds {a b : Quantity} (h : a.exceeds b = true) : b ≤ a := by
  have hgt : a.compare b = .gt := by
    unfold exceeds at h
    simpa using h
  have hlt : b.compare a = .lt := Std.OrientedCmp.lt_of_gt hgt
  rw [le_iff_isLE, hlt]
  rfl

/-- Of two quantities one is at most the other. -/
theorem le_total (a b : Quantity) : a ≤ b ∨ b ≤ a := by
  cases h : a.exceeds b with
  | false => exact Or.inl h
  | true => exact Or.inr (le_of_exceeds h)

/-- Quantities that exceed neither each other have the same value. -/
theorem compare_eq_of_le_of_le {a b : Quantity} (hab : a ≤ b) (hba : b ≤ a) :
    a.compare b = .eq := by
  have hswap : b.compare a = (a.compare b).swap := Std.OrientedCmp.eq_swap
  rw [le_iff_isLE] at hab hba
  rw [hswap] at hba
  cases h : a.compare b with
  | lt => rw [h] at hba; exact absurd hba (by decide)
  | eq => rfl
  | gt => rw [h] at hab; exact absurd hab (by decide)

/-- Exceeding passes on to whatever is not above. -/
theorem exceeds_of_exceeds_of_le {a b c : Quantity} (hab : a.exceeds b = true) (hcb : c ≤ b) :
    a.exceeds c = true := by
  cases h : a.exceeds c with
  | true => rfl
  | false =>
    have hle : a ≤ b := le_trans (le_iff_exceeds.mpr h) hcb
    rw [le_iff_exceeds, hab] at hle
    exact absurd hle (by decide)

end BuildFleet.Quantity
