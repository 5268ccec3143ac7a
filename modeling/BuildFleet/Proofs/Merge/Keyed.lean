import BuildFleet.Merge.Basic
import Mathlib.Data.List.Nodup

/-!
# The keys of a keyed list

Merging into a keyed list never drops, renames or reorders what is there: an element goes into the
first one with its key, and one with a new key goes to the end. This holds whether or not the merge
succeeds, as long as merging two elements of one key gives an element of that key (`KeepsKey`).

> `keys_mergeElement`: the keys after one element has been merged;
> `keys_prefix_keyed`: the keys of the base come first, in their order;
> `keys_keyed_nodup`: no key is repeated that the base does not repeat.
-/

namespace BuildFleet

variable {α : Type}

/-- Merging two elements with the same key gives an element with that key. -/
def KeepsKey [Mergeable α] (key : α → String) : Prop :=
  ∀ base layer, key base = key layer → key (merge base layer).value = key base

/-- Merging an element leaves the keys as they are, or puts its own at the end. -/
theorem keys_mergeElement [Mergeable α] {key : α → String} (hkey : KeepsKey key) (item : α) :
    ∀ l : List α, (mergeElement key item l).value.map key
      = if key item ∈ l.map key then l.map key else l.map key ++ [key item]
  | [] => rfl
  | x :: rest => by
    have ih := keys_mergeElement hkey item rest
    rw [mergeElement]
    by_cases hx : key x = key item
    · -- the element goes into `x`, which is there already
      rw [if_pos hx, if_pos (by rw [List.map_cons, hx]; exact List.mem_cons_self)]
      show key (merge x item).value :: rest.map key = key x :: rest.map key
      rw [hkey x item hx]
    · -- it goes on to the rest, and is new there exactly if it is new here
      rw [if_neg hx]
      show key x :: (mergeElement key item rest).value.map key = _
      rw [ih, List.map_cons]
      by_cases hmem : key item ∈ rest.map key
      · rw [if_pos hmem, if_pos (List.mem_cons_of_mem _ hmem)]
      · have hcons : key item ∉ key x :: rest.map key := by
          intro h
          rcases List.mem_cons.mp h with h | h
          · exact hx h.symm
          · exact hmem h
        rw [if_neg hmem, if_neg hcons, List.cons_append]

/-- The keys that were there stay in front. -/
theorem keys_prefix_mergeElement [Mergeable α] {key : α → String} (hkey : KeepsKey key) (item : α)
    (l : List α) : l.map key <+: (mergeElement key item l).value.map key := by
  rw [keys_mergeElement hkey]
  split
  · exact List.prefix_refl _
  · exact List.prefix_append _ _

/-- Merging an element makes no key occur twice. -/
theorem keys_mergeElement_nodup [Mergeable α] {key : α → String} (hkey : KeepsKey key) (item : α)
    {l : List α} (hl : (l.map key).Nodup) :
    ((mergeElement key item l).value.map key).Nodup := by
  rw [keys_mergeElement hkey]
  split
  · exact hl
  · next hnew =>
    rw [← List.concat_eq_append]
    exact List.Nodup.concat hnew hl

/-- What each merged element keeps of the list, merging a whole list keeps too. A merge that fails
stops there, so this is about its outcome in both cases. -/
theorem keyed_induction [Mergeable α] {key : α → String} {P : List α → Prop}
    (hstep : ∀ item l, P l → P (mergeElement key item l).value) :
    ∀ (layer base : List α), P base → P (keyed key base layer).value
  | [], _, hbase => hbase
  | item :: rest, base, hbase => by
    have hfirst : P (mergeElement key item base).value := hstep item base hbase
    rw [keyed, Merged.andThen]
    split
    · exact keyed_induction hstep rest _ hfirst
    · exact hfirst

/-- The keys of the base stay where they are. -/
theorem keys_prefix_keyed [Mergeable α] {key : α → String} (hkey : KeepsKey key)
    (base layer : List α) : base.map key <+: (keyed key base layer).value.map key := by
  refine keyed_induction (P := fun l => base.map key <+: l.map key) ?_ layer base
    (List.prefix_refl _)
  intro item l hl
  exact hl.trans (keys_prefix_mergeElement hkey item l)

/-- A base without repeated keys gets none. -/
theorem keys_keyed_nodup [Mergeable α] {key : α → String} (hkey : KeepsKey key)
    {base : List α} (hbase : (base.map key).Nodup) (layer : List α) :
    ((keyed key base layer).value.map key).Nodup :=
  keyed_induction (P := fun l => (l.map key).Nodup)
    (fun item _ hl => keys_mergeElement_nodup hkey item hl) layer base hbase

/-- Where keys are not repeated, an element is found under its key. -/
theorem find?_key_of_nodup {key : α → String} :
    ∀ {l : List α}, (l.map key).Nodup → ∀ {x}, x ∈ l → l.find? (key · == key x) = some x
  | [], _, _, hx => absurd hx List.not_mem_nil
  | z :: rest, hnd, x, hx => by
    rw [List.map_cons, List.nodup_cons] at hnd
    rcases List.mem_cons.mp hx with rfl | hx
    · exact List.find?_cons_of_pos (beq_self_eq_true (key x))
    · have hz : key z ≠ key x := fun h => hnd.1 (List.mem_map.mpr ⟨x, hx, h.symm⟩)
      rw [List.find?_cons_of_neg (by simpa using hz)]
      exact find?_key_of_nodup hnd.2 hx

/-- Where keys are not repeated, one element has a key that occurs. -/
theorem filter_key_of_nodup {key : α → String} {k : String} :
    ∀ {l : List α}, (l.map key).Nodup → k ∈ l.map key → ∃ x, l.filter (key · == k) = [x]
  | [], _, hk => absurd hk List.not_mem_nil
  | x :: rest, hnd, hk => by
    rw [List.map_cons, List.nodup_cons] at hnd
    rw [List.filter_cons]
    by_cases hx : key x = k
    · have hrest : rest.filter (key · == k) = [] := by
        rw [List.filter_eq_nil_iff]
        intro y hy hyk
        exact hnd.1 (List.mem_map.mpr ⟨y, hy, (beq_iff_eq.mp hyk).trans hx.symm⟩)
      rw [if_pos (beq_iff_eq.mpr hx), hrest]
      exact ⟨x, rfl⟩
    · rw [if_neg fun h => hx (beq_iff_eq.mp h)]
      rcases List.mem_cons.mp hk with h | h
      · exact absurd h.symm hx
      · exact filter_key_of_nodup hnd.2 h

end BuildFleet
