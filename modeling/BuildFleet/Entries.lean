/-!
# Entry lists in key order

Maps keyed by text are kept as lists of entries in strictly increasing key order, so that two maps
with the same contents are the same list. This file holds the operations on such lists and the facts
that every map built from them needs:

> `insert_sorted`: inserting keeps the order;
> `get?_insert_self`, `get?_insert_ne`: an insertion is seen at its own key and nowhere else.

The operations do not ask for sorted input; the order is a property (`Sorted`) that they keep.
-/

namespace BuildFleet.Entries

variable {α β : Type}

/-- Keys strictly increase, so no key occurs twice. -/
def Sorted (l : List (String × α)) : Prop :=
  l.Pairwise fun a b => a.1 < b.1

/-- The value of the first entry under the key. -/
def get? (k : String) : List (String × α) → Option α
  | [] => none
  | (k', v) :: rest => if k' = k then some v else get? k rest

/-- Puts the value under the key: in place of the entry that has it, else before the first greater
key. -/
def insert (k : String) (v : α) : List (String × α) → List (String × α)
  | [] => [(k, v)]
  | (k', v') :: rest =>
    if k < k' then (k, v) :: (k', v') :: rest
    else if k = k' then (k, v) :: rest
    else (k', v') :: insert k v rest

/-- All entries in order of insertion, a later one replacing an earlier one under the same key. -/
def ofList (l : List (String × α)) : List (String × α) :=
  l.foldl (fun acc e => insert e.1 e.2 acc) []

/-- The entries under keys that pass the test. -/
def filterKeys (p : String → Bool) (l : List (String × α)) : List (String × α) :=
  l.filter fun e => p e.1

/-- The same keys with other values. -/
def mapValues (f : α → β) (l : List (String × α)) : List (String × β) :=
  l.map fun e => (e.1, f e.2)

/-- Of two texts neither of which is smaller, both are the same. -/
theorem eq_of_not_lt {a b : String} (h : ¬ a < b) (h' : ¬ b < a) : a = b :=
  String.le_antisymm (String.not_lt.mp h') (String.not_lt.mp h)

theorem sorted_nil : Sorted ([] : List (String × α)) := List.Pairwise.nil

theorem sorted_singleton (k : String) (v : α) : Sorted [(k, v)] :=
  List.pairwise_singleton _ _

/-- The keys of an insertion are the old ones and the new one. -/
theorem mem_insert {k : String} {v : α} {e : String × α} :
    ∀ {l : List (String × α)}, e ∈ insert k v l → e = (k, v) ∨ e ∈ l
  | [], h => Or.inl (List.mem_singleton.mp h)
  | (k', v') :: rest, h => by
    rw [insert] at h
    split at h
    · rcases List.mem_cons.mp h with rfl | h
      · exact Or.inl rfl
      · exact Or.inr h
    · split at h
      · rcases List.mem_cons.mp h with rfl | h
        · exact Or.inl rfl
        · exact Or.inr (List.mem_cons_of_mem _ h)
      · rcases List.mem_cons.mp h with rfl | h
        · exact Or.inr (List.mem_cons_self ..)
        · rcases mem_insert h with rfl | h
          · exact Or.inl rfl
          · exact Or.inr (List.mem_cons_of_mem _ h)

/-- Inserting keeps entries in key order. -/
theorem insert_sorted (k : String) (v : α) :
    ∀ {l : List (String × α)}, Sorted l → Sorted (insert k v l)
  | [], _ => sorted_singleton k v
  | (k', v') :: rest, h => by
    have hrest : Sorted rest := List.Pairwise.of_cons h
    have hhead : ∀ e ∈ rest, k' < e.1 := (List.pairwise_cons.mp h).1
    rw [insert]
    split
    · next hlt =>
      refine List.pairwise_cons.mpr ⟨?_, h⟩
      intro e he
      rcases List.mem_cons.mp he with rfl | he
      · exact hlt
      · exact String.lt_trans hlt (hhead e he)
    · split
      · next heq =>
        subst heq
        exact List.pairwise_cons.mpr ⟨hhead, hrest⟩
      · next hnlt hne =>
        refine List.pairwise_cons.mpr ⟨?_, insert_sorted k v hrest⟩
        intro e he
        rcases mem_insert he with rfl | he
        · exact Decidable.byContradiction fun hc => hne (eq_of_not_lt hnlt hc)
        · exact hhead e he

/-- Entries that are made of a list are in key order, in whatever order the list is. -/
theorem ofList_sorted (l : List (String × α)) : Sorted (ofList l) := by
  have step : ∀ (l acc : List (String × α)), Sorted acc →
      Sorted (l.foldl (fun acc e => insert e.1 e.2 acc) acc) := by
    intro l
    induction l with
    | nil => intro acc h; exact h
    | cons e rest ih => intro acc h; exact ih _ (insert_sorted e.1 e.2 h)
  exact step l [] sorted_nil

/-- An entry whose key is above all others goes to the end. -/
theorem insert_eq_append {k : String} {v : α} :
    ∀ {l : List (String × α)}, (∀ e ∈ l, e.1 < k) → insert k v l = l ++ [(k, v)]
  | [], _ => rfl
  | (k', v') :: rest, h => by
    have hk : k' < k := h (k', v') (List.mem_cons_self ..)
    have hne : k ≠ k' := fun he => String.lt_irrefl k' (he ▸ hk)
    rw [insert, if_neg (String.lt_asymm hk), if_neg hne,
      insert_eq_append fun e he => h e (List.mem_cons_of_mem _ he)]
    rfl

/-- Entries that are in order already are left as they are. -/
theorem ofList_eq_self {l : List (String × α)} (h : Sorted l) : ofList l = l := by
  have step : ∀ (l acc : List (String × α)), Sorted (acc ++ l) →
      l.foldl (fun acc e => insert e.1 e.2 acc) acc = acc ++ l := by
    intro l
    induction l with
    | nil => intro acc _; simp
    | cons e rest ih =>
      intro acc hs
      have hlt : ∀ a ∈ acc, a.1 < e.1 := fun a ha =>
        (List.pairwise_append.mp hs).2.2 a ha e (List.mem_cons_self ..)
      rw [List.foldl_cons, insert_eq_append hlt,
        ih (acc ++ [(e.1, e.2)]) (by simpa using hs)]
      simp
  exact step l [] h

/-- Leaving out entries keeps the others in key order. -/
theorem filterKeys_sorted (p : String → Bool) {l : List (String × α)} (h : Sorted l) :
    Sorted (filterKeys p l) :=
  List.Pairwise.filter _ h

/-- Changing values keeps entries in key order. -/
theorem mapValues_sorted (f : α → β) {l : List (String × α)} (h : Sorted l) :
    Sorted (mapValues f l) :=
  List.pairwise_map.mpr (List.Pairwise.imp (fun hab => hab) h)

/-- What is inserted under a key is found there. -/
@[simp] theorem get?_insert_self (k : String) (v : α) :
    ∀ l : List (String × α), get? k (insert k v l) = some v
  | [] => by simp [insert, get?]
  | (k', v') :: rest => by
    rw [insert]
    split
    · simp [get?]
    · split
      · simp [get?]
      · next hne => simp [get?, Ne.symm hne, get?_insert_self k v rest]

/-- Inserting under one key changes nothing under another. -/
theorem get?_insert_ne {k k' : String} (v : α) (h : k ≠ k') :
    ∀ l : List (String × α), get? k' (insert k v l) = get? k' l
  | [] => by simp [insert, get?, h]
  | (k'', v') :: rest => by
    rw [insert]
    split
    · simp [get?, h]
    · split
      · next heq => subst heq; simp [get?, h]
      · simp [get?, get?_insert_ne v h rest]

/-- A key below the first one is not there. -/
theorem get?_eq_none_of_lt {k : String} :
    ∀ {l : List (String × α)}, (∀ e ∈ l, k < e.1) → get? k l = none
  | [], _ => rfl
  | (k', v') :: rest, h => by
    have hk : k < k' := h (k', v') (List.mem_cons_self ..)
    have hne : k' ≠ k := fun he => String.lt_irrefl k (he ▸ hk)
    rw [get?, if_neg hne]
    exact get?_eq_none_of_lt fun e he => h e (List.mem_cons_of_mem _ he)

/-- Sorted entry lists are equal as soon as they answer every look-up alike. -/
theorem ext_get? : ∀ {l l' : List (String × α)}, Sorted l → Sorted l' →
    (∀ k, get? k l = get? k l') → l = l'
  | [], [], _, _, _ => rfl
  | [], (k, v) :: rest, _, _, h => by
    have := h k
    simp [get?] at this
  | (k, v) :: rest, [], _, _, h => by
    have := h k
    simp [get?] at this
  | (k, v) :: rest, (k', v') :: rest', hs, hs', h => by
    have hhead : ∀ e ∈ rest, k < e.1 := (List.pairwise_cons.mp hs).1
    have hhead' : ∀ e ∈ rest', k' < e.1 := (List.pairwise_cons.mp hs').1
    have hkk : k = k' := by
      apply eq_of_not_lt
      · intro hlt
        have hnone : get? k ((k', v') :: rest') = none := by
          apply get?_eq_none_of_lt
          intro e he
          rcases List.mem_cons.mp he with rfl | he
          · exact hlt
          · exact String.lt_trans hlt (hhead' e he)
        have := h k
        rw [hnone] at this
        simp [get?] at this
      · intro hlt
        have hnone : get? k' ((k, v) :: rest) = none := by
          apply get?_eq_none_of_lt
          intro e he
          rcases List.mem_cons.mp he with rfl | he
          · exact hlt
          · exact String.lt_trans hlt (hhead e he)
        have := h k'
        rw [hnone] at this
        simp [get?] at this
    subst hkk
    have hv : v = v' := by
      have := h k
      simpa [get?] using this
    subst hv
    have hrest : rest = rest' := by
      apply ext_get? (List.Pairwise.of_cons hs) (List.Pairwise.of_cons hs')
      intro x
      by_cases hx : k = x
      · subst hx
        rw [get?_eq_none_of_lt hhead, get?_eq_none_of_lt hhead']
      · have := h x
        simpa [get?, hx] using this
    rw [hrest]

end BuildFleet.Entries
