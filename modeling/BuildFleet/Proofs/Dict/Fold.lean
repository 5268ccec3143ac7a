import BuildFleet.Dict

/-!
# Going through a map entry by entry

Much of what is done with a map goes through its entries in key order and puts something under the
key of each. Because no key occurs twice, such a pass can be read off key by key:

> `Entries.look_foldl`: if each step only touches the key of its entry, the whole pass does to each
> key what the one step for its entry does, and leaves the other keys alone;
> `Entries.noted_foldl`: what such a pass notes on the way can be told from what was there before.

The pass may carry more than a map along, so what it leaves under a key is read through a view
`look`, and whether it has noted anything through a view `noted`.
-/

namespace BuildFleet

namespace Entries

variable {α β σ : Type}

/-- In key order, what is found under a key is what is listed under it. -/
theorem get?_eq_some_iff_mem {k : String} {v : α} :
    ∀ {l : List (String × α)}, Sorted l → (get? k l = some v ↔ (k, v) ∈ l)
  | [], _ => by simp [get?]
  | (k', v') :: rest, h => by
    have hrest : Sorted rest := List.Pairwise.of_cons h
    have hhead : ∀ e ∈ rest, k' < e.1 := (List.pairwise_cons.mp h).1
    rw [get?]
    by_cases hk : k' = k
    · subst hk
      rw [if_pos rfl]
      constructor
      · intro hv
        cases hv
        exact List.mem_cons_self ..
      · intro hmem
        rcases List.mem_cons.mp hmem with heq | hin
        · cases heq
          rfl
        · exact absurd (hhead _ hin) (String.lt_irrefl k')
    · rw [if_neg hk, get?_eq_some_iff_mem hrest]
      constructor
      · exact List.mem_cons_of_mem _
      · intro hmem
        rcases List.mem_cons.mp hmem with heq | hin
        · cases heq
          exact absurd rfl hk
        · exact hin

/-- A pass whose steps only touch the key of their entry, read off at one key. -/
theorem look_foldl (look : σ → String → Option β) (put : String → Option β → α → Option β)
    {step : σ → String × α → σ}
    (hstep : ∀ s e k, look (step s e) k = if e.1 = k then put e.1 (look s k) e.2 else look s k) :
    ∀ {l : List (String × α)}, Sorted l → ∀ (s : σ) (k : String),
      look (l.foldl step s) k = (get? k l).elim (look s k) (put k (look s k))
  | [], _, _, _ => rfl
  | (k', v') :: rest, h, s, k => by
    have hrest : Sorted rest := List.Pairwise.of_cons h
    rw [List.foldl_cons, look_foldl look put hstep hrest, hstep, get?]
    by_cases hk : k' = k
    · subst hk
      -- the key does not come up again, so the rest of the pass leaves it alone
      have hnone : get? k' rest = none := get?_eq_none_of_lt (List.pairwise_cons.mp h).1
      rw [hnone, if_pos rfl, if_pos rfl]
      rfl
    · rw [if_neg hk, if_neg hk]

/-- A pass whose steps leave other keys alone notes something exactly if one of its entries calls
for that, given what was there for its key at the start. -/
theorem noted_foldl (look : σ → String → Option β) (noted : σ → Bool)
    (test : String → Option β → α → Bool) {step : σ → String × α → σ}
    (hother : ∀ s e k, e.1 ≠ k → look (step s e) k = look s k)
    (hnoted : ∀ s e, noted (step s e) = (noted s || test e.1 (look s e.1) e.2)) :
    ∀ {l : List (String × α)}, Sorted l → ∀ s, noted (l.foldl step s) = true
      ↔ noted s = true ∨ ∃ e ∈ l, test e.1 (look s e.1) e.2 = true
  | [], _, s => (or_iff_left fun ⟨_, he, _⟩ => absurd he List.not_mem_nil).symm
  | e :: rest, h, s => by
    -- what is there for the other entries is still what was there at the start
    have hrest : ∀ e' ∈ rest,
        test e'.1 (look (step s e) e'.1) e'.2 = test e'.1 (look s e'.1) e'.2 := by
      intro e' he'
      rw [hother s e e'.1 (String.ne_of_lt ((List.pairwise_cons.mp h).1 e' he'))]
    rw [List.foldl_cons, noted_foldl look noted test hother hnoted (List.Pairwise.of_cons h),
      hnoted, Bool.or_eq_true, or_assoc]
    simp only [List.mem_cons, exists_eq_or_imp]
    refine or_congr_right (or_congr_right (exists_congr fun e' => and_congr_right fun he' => ?_))
    rw [hrest e' he']

/-- What is found once the keys are filtered. -/
theorem get?_filterKeys (p : String → Bool) (k : String) :
    ∀ l : List (String × α), get? k (filterKeys p l) = if p k then get? k l else none
  | [] => (ite_self none).symm
  | (k', v) :: rest => by
    unfold filterKeys
    rw [List.filter_cons, get?]
    by_cases hk : k' = k
    · subst hk
      by_cases hp : p k' = true
      · rw [if_pos hp, if_pos hp, if_pos rfl, get?, if_pos rfl]
      · rw [if_neg hp, if_neg hp]
        exact (get?_filterKeys p k' rest).trans (if_neg hp)
    · rw [if_neg hk, ← get?_filterKeys p k rest]
      split
      · rw [get?, if_neg hk]
        rfl
      · rfl

end Entries

namespace Dict

variable {α β σ : Type}

/-- A pass over a map, read off at one key. -/
theorem look_foldl (look : σ → String → Option β) (put : String → Option β → α → Option β)
    {step : σ → String × α → σ}
    (hstep : ∀ s e k, look (step s e) k = if e.1 = k then put e.1 (look s k) e.2 else look s k)
    (d : Dict α) (s : σ) (k : String) :
    look (d.entries.foldl step s) k = (d.get? k).elim (look s k) (put k (look s k)) :=
  Entries.look_foldl look put hstep d.sorted s k

/-- What is found under a key is what the map has as an entry with the key. -/
theorem get?_eq_some_iff_mem {d : Dict α} {k : String} {v : α} :
    d.get? k = some v ↔ (k, v) ∈ d.entries :=
  Entries.get?_eq_some_iff_mem d.sorted

/-- What a pass over a map notes. -/
theorem noted_foldl_iff (look : σ → String → Option β) (noted : σ → Bool)
    (test : String → Option β → α → Bool) {step : σ → String × α → σ}
    (hother : ∀ s e k, e.1 ≠ k → look (step s e) k = look s k)
    (hnoted : ∀ s e, noted (step s e) = (noted s || test e.1 (look s e.1) e.2))
    (d : Dict α) (s : σ) : noted (d.entries.foldl step s) = true
      ↔ noted s = true ∨ ∃ k v, d.get? k = some v ∧ test k (look s k) v = true := by
  rw [Entries.noted_foldl look noted test hother hnoted d.sorted]
  refine or_congr_right ?_
  constructor
  · rintro ⟨⟨k, v⟩, hmem, htest⟩
    exact ⟨k, v, get?_eq_some_iff_mem.mpr hmem, htest⟩
  · rintro ⟨k, v, hv, htest⟩
    exact ⟨(k, v), get?_eq_some_iff_mem.mp hv, htest⟩

/-- Leaving out entries leaves what is under the keys that are kept. -/
theorem get?_filterKeys (p : String → Bool) (d : Dict α) (k : String) :
    (d.filterKeys p).get? k = if p k then d.get? k else none :=
  Entries.get?_filterKeys p k d.entries

/-- Putting something under a key changes what is there and nothing else. -/
theorem get?_insert (d : Dict α) (k k' : String) (v : α) :
    (d.insert k v).get? k' = if k = k' then some v else d.get? k' := by
  by_cases h : k = k'
  · subst h
    rw [if_pos rfl, get?_insert_self]
  · rw [if_neg h, get?_insert_ne d v h]

/-- A map without entries answers no look-up, and no other map does so. -/
theorem isEmpty_iff {d : Dict α} : d.isEmpty = true ↔ ∀ k, d.get? k = none := by
  constructor
  · intro h k
    unfold isEmpty at h
    rw [get?, List.isEmpty_iff.mp h]
    rfl
  · intro h
    have hd : d = empty := ext_get? h
    rw [hd]
    rfl

/-- The second map wins under its own keys. -/
theorem get?_extend (d d' : Dict α) (k : String) :
    (d.extend d').get? k = (d'.get? k).or (d.get? k) := by
  unfold extend
  rw [look_foldl get? (fun _ _ v => some v) (fun s e k => get?_insert s e.1 k e.2)]
  cases d'.get? k with
  | none => rfl
  | some v => rfl

end Dict

end BuildFleet
