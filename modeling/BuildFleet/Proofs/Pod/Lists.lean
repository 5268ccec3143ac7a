import BuildFleet.Proofs.Merge.Gathering
import BuildFleet.Proofs.Pod.Rules

/-!
# What merging does to a keyed list

A layer is merged into a keyed list one element at a time, and each element is looked for in the
list as the earlier ones have left it. What comes of it can be said without following the steps: the
base's elements stay in their places, and new keys follow in the order in which they first come up;
only the first element of each key takes up what the layer has under that key.

> `keyed_merged`: this is so for every type of elements whose merge succeeds and keeps the key, and
> the merges of all elements of pods keep theirs.
-/

namespace BuildFleet

/-- The keys that are not known yet, each once, in the order in which they first come up. -/
def newKeys (known keys : List String) : List String :=
  (keys.filter fun k => k ∉ known).eraseDups

@[simp] theorem newKeys_nil (known : List String) : newKeys known [] = [] := rfl

/-- A key that is known is not new. -/
theorem newKeys_cons_of_mem {known : List String} {k : String} (hk : k ∈ known)
    (keys : List String) : newKeys known (k :: keys) = newKeys known keys := by
  unfold newKeys
  rw [List.filter_cons_of_neg (by simpa using hk)]

/-- Once a new key has come up, it is known. -/
theorem newKeys_cons_of_not_mem {known : List String} {k : String} (hk : k ∉ known)
    (keys : List String) :
    newKeys known (k :: keys) = k :: newKeys (known ++ [k]) keys := by
  unfold newKeys
  rw [List.filter_cons_of_pos (by simpa using hk), List.eraseDups_cons, List.filter_filter]
  congr 2
  refine List.filter_congr ?_
  intro k' _
  by_cases hk' : k' = k <;> simp [hk']

namespace Rules

variable {α : Type} {r : Rules α} {key : α → String}

/-- Laying values over one that is there is merging all of them. -/
theorem layAll_some_eq {xs : List α} : letI := r.mergeable
    ∀ {b : α} {w : Option α}, r.layAll (some b) xs = some w →
      ∃ v, w = some v ∧ mergeAll b xs = .ok v := by
  induction xs with
  | nil =>
    intro b w h
    exact ⟨b, (Option.some.inj h).symm, rfl⟩
  | cons x xs ih =>
    intro b w h
    obtain ⟨o, ho, hrest⟩ := Option.bind_eq_some_iff.mp h
    rw [lay_optional_some] at ho
    obtain ⟨y, hy, rfl⟩ := Option.map_eq_some_iff.mp ho
    obtain ⟨v, rfl, hv⟩ := ih hrest
    let _ := r.mergeable
    exact ⟨v, rfl, mergeAll_cons_eq_ok_iff.mpr ⟨y, hy, hv⟩⟩

/-- An element is laid into the first one with its key, so every other one stays in its place. -/
theorem getElem?_layElement {x : α} : ∀ {l v : List α} {i : Nat} {z : α},
    r.layElement key x l = some v → l[i]? = some z → (key z = key x → key z ∈ (l.map key).take i) →
      v[i]? = some z
  | [], _, i, z, _, hz, _ => nomatch hz
  | y :: l, v, i, z, hv, hz, hearlier => by
    by_cases hy : key y = key x
    · rw [layElement_cons_of_eq hy] at hv
      obtain ⟨w, -, rfl⟩ := Option.map_eq_some_iff.mp hv
      cases i with
      | zero =>
        -- the head is the first element with its key
        obtain rfl := Option.some.inj hz
        exact nomatch hearlier hy
      | succ i => exact hz
    · rw [layElement_cons_of_ne hy] at hv
      obtain ⟨v', hv', rfl⟩ := Option.map_eq_some_iff.mp hv
      cases i with
      | zero => exact hz
      | succ i =>
        show v'[i]? = some z
        refine getElem?_layElement hv' hz ?_
        intro hzx
        have hcons := hearlier hzx
        rw [List.map_cons, List.take_succ_cons] at hcons
        exact (List.mem_cons.mp hcons).resolve_left fun h => hy (h.symm.trans hzx)

section

variable (hkey : letI := r.mergeable; KeepsKey key)

include hkey

/-- The keys of the base stay, and the new keys of the layer follow. -/
theorem keys_keyed : ∀ {l b v : List α}, (r.keyed key).lay b l = some v →
    v.map key = b.map key ++ newKeys (b.map key) (l.map key)
  | [], b, v, hv => by
    have hbv : b = v := Option.some.inj hv
    rw [← hbv, List.map_nil, newKeys_nil, List.append_nil]
  | x :: l, b, v, hv => by
    rw [lay_keyed_cons] at hv
    obtain ⟨w, hw, hv⟩ := Option.bind_eq_some_iff.mp hv
    have hkeys := keys_layElement hkey hw
    rw [keys_keyed hv, List.map_cons]
    by_cases hx : key x ∈ b.map key
    · rw [if_pos hx] at hkeys
      rw [hkeys, newKeys_cons_of_mem hx]
    · rw [if_neg hx] at hkeys
      rw [hkeys, newKeys_cons_of_not_mem hx, List.append_assoc, List.singleton_append]

/-- What the layer does not have the key of, and what is not the first of its key, stays. -/
theorem getElem?_keyed : ∀ {l b v : List α} {i : Nat} {z : α}, (r.keyed key).lay b l = some v →
    b[i]? = some z → (key z ∈ l.map key → key z ∈ (b.map key).take i) → v[i]? = some z
  | [], b, v, i, z, hv, hz, _ => by
    obtain rfl := Option.some.inj hv
    exact hz
  | x :: l, b, v, i, z, hv, hz, hearlier => by
    rw [lay_keyed_cons] at hv
    obtain ⟨w, hw, hv⟩ := Option.bind_eq_some_iff.mp hv
    have hwz : w[i]? = some z := getElem?_layElement hw hz fun hzx =>
      hearlier (List.mem_cons.mpr (Or.inl hzx))
    refine getElem?_keyed hv hwz ?_
    intro hl
    -- the earlier elements of the base are still the earlier ones, by their keys
    have hi : i ≤ (b.map key).length := by
      rw [List.length_map]
      exact Nat.le_of_lt (List.getElem?_eq_some_iff.mp hz).1
    have htake : (w.map key).take i = (b.map key).take i := by
      rw [keys_layElement hkey hw]
      split
      · rfl
      · exact List.take_append_of_le_length hi
    rw [htake]
    exact hearlier (List.mem_cons_of_mem _ hl)

end

end Rules

variable {α : Type} [Mergeable α]

/-- What merging a layer into a keyed list comes to. -/
structure KeyedMerge (key : α → String) (base layer result : List α) : Prop where
  /-- The base's keys come first, and then the layer's new ones. -/
  keys : result.map key = base.map key ++ newKeys (base.map key) (layer.map key)
  /-- No key is repeated that the base does not repeat. -/
  nodup : (base.map key).Nodup → (result.map key).Nodup
  /-- An element with another key than the layer's elements, or with that of an earlier one, stays
  in its place. -/
  kept : ∀ (i : Nat) (x : α), base[i]? = some x →
    key x ∉ layer.map key ∨ key x ∈ (base.map key).take i → result[i]? = some x
  /-- Under a key of the layer, its elements are merged in their order onto the base's first one, or
  onto the first one of their own. -/
  gathered : ∀ k ∈ layer.map key, ∃ first rest v,
    (base.find? (key · == k)).toList ++ layer.filter (key · == k) = first :: rest
      ∧ mergeAll first rest = .ok v ∧ result.find? (key · == k) = some v

/-- A merge of lists that succeeds comes to this, whatever its elements are. -/
theorem keyedMerge_of_value? {key : α → String} (hkey : KeepsKey key) {base layer result : List α}
    (h : (keyed key base layer).value? = some result) : KeyedMerge key base layer result := by
  -- of the rules, only the merge matters here
  let r : Rules α := .single merge fun _ => .inner
  have hlay : (r.keyed key).lay base layer = some result := h
  refine ⟨Rules.keys_keyed (r := r) hkey hlay, ?_, ?_, ?_⟩
  · intro hbase
    obtain ⟨-, rfl⟩ := Merged.value?_eq_some_iff.mp h
    exact keys_keyed_nodup hkey hbase layer
  · intro i x hx hspared
    exact Rules.getElem?_keyed (r := r) hkey hlay hx fun hl =>
      hspared.resolve_left (not_not_intro hl)
  · intro k hk
    have hall := Rules.layAll_keyed (r := r) hkey (k := k) hlay
    cases hbase : base.find? (key · == k) with
    | some b =>
      rw [hbase] at hall
      obtain ⟨v, hv, hmerged⟩ := Rules.layAll_some_eq hall
      exact ⟨b, _, v, rfl, hmerged, hv⟩
    | none =>
      cases hlayer : layer.filter (key · == k) with
      | nil =>
        obtain ⟨x, hx, hxk⟩ := List.mem_map.mp hk
        exact absurd (beq_iff_eq.mpr hxk) (List.filter_eq_nil_iff.mp hlayer x hx)
      | cons x xs =>
        -- the first of the layer's elements is taken over as it is
        rw [hbase, hlayer] at hall
        have hrest : r.layAll (some x) xs = some (result.find? (key · == k)) := hall
        obtain ⟨v, hv, hmerged⟩ := Rules.layAll_some_eq hrest
        exact ⟨x, xs, v, rfl, hmerged, hv⟩

/-- Where elements of one key merge, one element can be merged into any list. -/
theorem mismatch_mergeElement {key : α → String}
    (hmerges : ∀ x y : α, key x = key y → (merge x y).mismatch = none) (item : α) :
    ∀ l : List α, (mergeElement key item l).mismatch = none
  | [] => rfl
  | x :: l => by
    rw [mergeElement]
    by_cases hx : key x = key item
    · rw [if_pos hx]
      exact congrArg (Option.map _) (hmerges x item hx)
    · rw [if_neg hx]
      exact mismatch_mergeElement hmerges item l

/-- Where elements of one key merge, so do all lists. -/
theorem mismatch_keyed {key : α → String}
    (hmerges : ∀ x y : α, key x = key y → (merge x y).mismatch = none) :
    ∀ layer base : List α, (keyed key base layer).mismatch = none
  | [], _ => rfl
  | item :: layer, base => by
    rw [keyed, Merged.andThen, mismatch_mergeElement hmerges item base]
    exact mismatch_keyed hmerges layer _

/-- Elements of one type that merge and keep their key: any two lists of them merge, and it comes to
what `KeyedMerge` says. All elements of keyed lists in pods keep their key. -/
theorem keyed_merged :
    (∀ {α : Type} [Mergeable α] {key : α → String}, KeepsKey key →
      (∀ x y : α, key x = key y → (merge x y).mismatch = none) → ∀ base layer : List α,
        ∃ result, (keyed key base layer).result = .ok result ∧ KeyedMerge key base layer result)
    ∧ KeepsKey Container.mergeKey ∧ KeepsKey Volume.mergeKey ∧ KeepsKey EnvVar.mergeKey
    ∧ KeepsKey ContainerPort.mergeKey ∧ KeepsKey VolumeMount.mergeKey
    ∧ KeepsKey TopologySpreadConstraint.mergeKey ∧ KeepsKey LocalReference.mergeKey := by
  refine ⟨?_, Container.keepsKey, Volume.keepsKey, EnvVar.keepsKey, ContainerPort.keepsKey,
    VolumeMount.keepsKey, TopologySpreadConstraint.keepsKey, LocalReference.keepsKey⟩
  intro α _ key hkey hmerges base layer
  have hvalue : (keyed key base layer).value? = some (keyed key base layer).value :=
    Merged.value?_eq_some_iff.mpr ⟨mismatch_keyed hmerges layer base, rfl⟩
  exact ⟨_, Merged.result_eq_ok_iff.mpr hvalue, keyedMerge_of_value? hkey hvalue⟩

/-- Numbers that replace each other, keyed by their remainders. Seven goes into the first element
with its key, four keeps its place behind it, and five goes into two, which is new itself. -/
theorem keyed_merged_remainders :
    let key : Int → String := fun n => toString (n % 3)
    KeepsKey key ∧ (∀ x y : Int, key x = key y → (merge x y).mismatch = none)
      ∧ (keyed key [1, 4] [2, 7, 5]).result = .ok [7, 4, 5]
      ∧ KeyedMerge key [1, 4] [2, 7, 5] [7, 4, 5] := by
  intro key
  have hkey : KeepsKey key := fun _ _ h => h.symm
  have hmerges : ∀ x y : Int, key x = key y → (merge x y).mismatch = none := fun _ _ _ => rfl
  obtain ⟨result, hok, hmerged⟩ := keyed_merged.1 hkey hmerges [1, 4] [2, 7, 5]
  have hresult : (keyed key [1, 4] [2, 7, 5]).result = .ok [7, 4, 5] := by rfl
  obtain rfl := Except.ok.inj (hresult.symm.trans hok)
  exact ⟨hkey, hmerges, hresult, hmerged⟩

end BuildFleet
