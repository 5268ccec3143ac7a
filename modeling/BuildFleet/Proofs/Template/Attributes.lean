import BuildFleet.Proofs.Dict.Fold
import BuildFleet.Template.Basic

/-!
# What the attributes of a daemon can be told from

The environment holds the attributes as one text, keys and values as they are. Keys are plain: they
have neither of the marks in them that part the attributes (`PlainKeys`). Values may have them, and
then a value can read like a shorter one with further attributes behind it (`Conceals`).

> `attributes_told`: settings with the same text have the same attributes exactly if neither
> conceals an attribute of the other; and a text can be read in one way only exactly if it has at
> most one attribute, and that one hides none (`Hides`).
-/

namespace BuildFleet

/-- A key that is not empty and has neither mark in it. -/
def PlainKey (k : String) : Prop := k ≠ "" ∧ ',' ∉ k.toList ∧ '=' ∉ k.toList

instance (k : String) : Decidable (PlainKey k) := inferInstanceAs (Decidable (_ ∧ _ ∧ _))

/-- Attributes with their keys. -/
abbrev Attributes := List (String × String)

namespace Attributes

/-- Under some key there is the value that the other attributes have there, and behind it what reads
like a later attribute of theirs. -/
def Conceal (es es' : Attributes) : Prop :=
  ∃ k v k' w rest, (k, v) ∈ es' ∧ (k', w) ∈ es' ∧ k < k'
    ∧ (k, v ++ "," ++ k' ++ "=" ++ rest) ∈ es

/-- Attributes, each behind a comma. -/
def listed (es : Attributes) : List Char :=
  es.flatMap fun e => ',' :: (e.1.toList ++ '=' :: e.2.toList)

/-- An attribute is written behind a comma, with an equals sign in it. -/
theorem listed_cons (k v : String) (rest : Attributes) :
    listed ((k, v) :: rest) = ',' :: (k.toList ++ '=' :: (v.toList ++ listed rest)) := by
  simp [listed]

/-- The text has a comma before each attribute but the first. -/
theorem listed_cons_eq (e : String × String) : ∀ rest : Attributes,
    listed (e :: rest)
      = ',' :: (",".intercalate ((e :: rest).map fun e => e.1 ++ "=" ++ e.2)).toList
  | [] => by simp [listed]
  | e' :: rest => by
    have happend : listed (e :: e' :: rest) = listed [e] ++ listed (e' :: rest) := by
      simp [listed]
    rw [happend, listed_cons_eq e' rest]
    simp [listed]

/-- What conceals goes on to do so behind further attributes. -/
theorem Conceal.cons {es es' : Attributes} (h : Conceal es es') (e e' : String × String) :
    Conceal (e :: es) (e' :: es') := by
  obtain ⟨k, v, k', w, rest, hv, hw, hlt, hmem⟩ := h
  exact ⟨k, v, k', w, rest, List.mem_cons_of_mem _ hv, List.mem_cons_of_mem _ hw, hlt,
    List.mem_cons_of_mem _ hmem⟩

/-- Attributes without repeated keys do not conceal any of themselves. -/
theorem not_conceal_self {es : Attributes} (hs : Entries.Sorted es) : ¬ Conceal es es := by
  rintro ⟨k, v, k', w, rest, hv, -, -, hmem⟩
  have hget := (Entries.get?_eq_some_iff_mem hs).mpr hv
  rw [(Entries.get?_eq_some_iff_mem hs).mpr hmem] at hget
  have hlength := congrArg String.length (Option.some.inj hget)
  have hcomma : ",".length = 1 := rfl
  simp only [String.length_append] at hlength
  omega

/-- What stands before the first of a mark, and what behind it. -/
theorem eq_of_append_mark {c : Char} {a b x y : List Char} (ha : c ∉ a) (hb : c ∉ b)
    (h : a ++ c :: x = b ++ c :: y) : a = b ∧ x = y := by
  rcases List.append_eq_append_iff.mp h with ⟨t, rfl, ht⟩ | ⟨t, rfl, ht⟩
  all_goals
    cases t with
    | nil => simp_all
    | cons d t => simp_all

/-- The list begins with a comma, unless it is empty. -/
theorem head_listed {c : Char} {es : Attributes} {x : List Char} (h : listed es = c :: x) :
    c = ',' := by
  cases es with
  | nil => exact nomatch h
  | cons e rest => exact (List.cons.inj h).1.symm

/-- What is more in a list than in another one begins with a whole key. -/
theorem exists_key_of_listed_eq {es es' : Attributes} {t : List Char} (ht : t ≠ [])
    (hplain : ∀ e ∈ es, PlainKey e.1) (h : listed es = t ++ listed es') :
    ∃ e ∈ es, ∃ u, t = ',' :: (e.1.toList ++ '=' :: u) := by
  obtain ⟨c, t, rfl⟩ := List.exists_cons_of_ne_nil ht
  cases es with
  | nil => exact nomatch h
  | cons e rest =>
    obtain ⟨k, v⟩ := e
    rw [listed_cons, List.cons_append, List.cons.injEq] at h
    obtain ⟨rfl, h⟩ := h
    have hcomma : ',' ∉ k.toList := (hplain (k, v) List.mem_cons_self).2.1
    rcases List.append_eq_append_iff.mp h with ⟨s, rfl, hs⟩ | ⟨s, hk, hs⟩
    · cases s with
      | nil => exact absurd (head_listed (List.nil_append _ ▸ hs).symm) (by decide)
      | cons d s =>
        obtain ⟨rfl, -⟩ := List.cons.inj hs
        exact ⟨(k, v), List.mem_cons_self, s, rfl⟩
    · -- the other attributes would begin inside of the key, or with its equals sign
      cases s with
      | nil => exact absurd (head_listed hs) (by decide)
      | cons d s =>
        obtain rfl := head_listed hs
        exact absurd (hk ▸ List.mem_append_right t List.mem_cons_self) hcomma

/-- A value that goes on where the other one ends conceals what follows there. -/
theorem conceal_of_append {k v v' : String} {es es' : Attributes} {t : List Char} (ht : t ≠ [])
    (hs : Entries.Sorted ((k, v) :: es)) (hplain : ∀ e ∈ es, PlainKey e.1)
    (hv : v'.toList = v.toList ++ t) (h : listed es = t ++ listed es') :
    Conceal ((k, v') :: es') ((k, v) :: es) := by
  obtain ⟨e, he, u, rfl⟩ := exists_key_of_listed_eq ht hplain h
  have hvalue : v' = v ++ "," ++ e.1 ++ "=" ++ String.ofList u :=
    String.toList_injective (by simp [hv])
  exact ⟨k, v, e.1, e.2, String.ofList u, List.mem_cons_self, List.mem_cons_of_mem _ he,
    (List.pairwise_cons.mp hs).1 e he, hvalue ▸ List.mem_cons_self⟩

/-- Attributes that read the same are the same, up to where a value of the one goes on and a value
of the other ends. -/
theorem eq_or_conceal : ∀ {es es' : Attributes}, Entries.Sorted es → Entries.Sorted es' →
    (∀ e ∈ es, PlainKey e.1) → (∀ e ∈ es', PlainKey e.1) → listed es = listed es' →
      es = es' ∨ Conceal es es' ∨ Conceal es' es
  | [], [], _, _, _, _, _ => Or.inl rfl
  | [], (_, _) :: _, _, _, _, _, h => nomatch h
  | (_, _) :: _, [], _, _, _, _, h => nomatch h
  | (k, v) :: es, (k', v') :: es', hs, hs', hplain, hplain', h => by
    obtain ⟨hk, hrest⟩ := List.forall_mem_cons.mp hplain
    obtain ⟨hk', hrest'⟩ := List.forall_mem_cons.mp hplain'
    rw [listed_cons, listed_cons, List.cons.injEq] at h
    obtain ⟨hkeys, hvalues⟩ := eq_of_append_mark hk.2.2 hk'.2.2 h.2
    obtain rfl : k = k' := String.toList_injective hkeys
    by_cases hvv : v = v'
    · -- what follows the first attribute reads the same
      subst hvv
      have hlisted : listed es = listed es' := List.append_cancel_left hvalues
      rcases eq_or_conceal hs.of_cons hs'.of_cons hrest hrest' hlisted with rfl | h | h
      · exact Or.inl rfl
      · exact Or.inr (Or.inl (h.cons _ _))
      · exact Or.inr (Or.inr (h.cons _ _))
    -- one of the values goes on where the other one ends
    have hnil : ∀ {a b : String} {t : List Char}, a ≠ b → a.toList = b.toList ++ t → t ≠ [] := by
      rintro a b t hne hab rfl
      exact hne (String.toList_injective (hab.trans (List.append_nil _)))
    rcases List.append_eq_append_iff.mp hvalues with ⟨t, hv, ht⟩ | ⟨t, hv, ht⟩
    · exact Or.inr (Or.inr (conceal_of_append (hnil (Ne.symm hvv) hv) hs hrest hv ht))
    · exact Or.inr (Or.inl (conceal_of_append (hnil hvv hv) hs' hrest' hv ht))

end Attributes

namespace OtlpSettings

variable {o o' : OtlpSettings}

/-- All attributes have plain keys. -/
def PlainKeys (o : OtlpSettings) : Prop := ∀ e ∈ o.resourceAttributes.entries, PlainKey e.1

instance (o : OtlpSettings) : Decidable o.PlainKeys :=
  inferInstanceAs (Decidable (∀ e ∈ _, _))

/-- Under some key there is the value that the other settings have there, and behind it what reads
like a later attribute of theirs. -/
def Conceals (o o' : OtlpSettings) : Prop :=
  Attributes.Conceal o.resourceAttributes.entries o'.resourceAttributes.entries

/-- Some value has in it what reads like a later attribute. -/
def Hides (o : OtlpSettings) : Prop :=
  ∃ k v k' rest, PlainKey k' ∧ k < k'
    ∧ (k, v ++ "," ++ k' ++ "=" ++ rest) ∈ o.resourceAttributes.entries

/-- Attributes that conceal others of plain keys hide something. -/
theorem Conceals.hides (ho' : o'.PlainKeys) (h : o.Conceals o') : o.Hides := by
  obtain ⟨k, v, k', w, rest, -, hw, hlt, hmem⟩ := h
  exact ⟨k, v, k', rest, ho' _ hw, hlt, hmem⟩

/-- What is concealed is one of several attributes. -/
theorem Conceals.length (h : o'.Conceals o) : 1 < o.resourceAttributes.entries.length := by
  obtain ⟨k, v, k', w, rest, hv, hw, hlt, -⟩ := h
  by_cases hone : o.resourceAttributes.entries.length ≤ 1
  · obtain ⟨e, he⟩ := List.length_eq_one_iff.mp (Nat.le_antisymm hone (List.length_pos_of_mem hv))
    rw [he] at hv hw
    obtain ⟨rfl, -⟩ :=
      Prod.mk.inj ((List.mem_singleton.mp hv).trans (List.mem_singleton.mp hw).symm)
    exact absurd hlt (String.lt_irrefl _)
  · exact Nat.lt_of_not_le hone

/-- Only the absence of attributes has an empty text. -/
theorem attributesText_eq_empty_iff :
    o.attributesText = "" ↔ o.resourceAttributes.entries = [] := by
  unfold attributesText
  cases o.resourceAttributes.entries with
  | nil => exact iff_of_true rfl rfl
  | cons e rest =>
    refine iff_of_false ?_ (List.cons_ne_nil e rest)
    intro hempty
    have hlisted := Attributes.listed_cons_eq e rest
    rw [hempty, Attributes.listed_cons] at hlisted
    simp at hlisted

/-- Attributes with the same text are listed alike. -/
theorem listed_eq_of_attributesText_eq (h : o.attributesText = o'.attributesText) :
    Attributes.listed o.resourceAttributes.entries
      = Attributes.listed o'.resourceAttributes.entries := by
  have hempty : o.resourceAttributes.entries = [] ↔ o'.resourceAttributes.entries = [] := by
    rw [← attributesText_eq_empty_iff, h, attributesText_eq_empty_iff]
  unfold attributesText at h
  cases hes : o.resourceAttributes.entries with
  | nil => rw [hempty.mp hes]
  | cons e rest =>
    cases hes' : o'.resourceAttributes.entries with
    | nil => exact absurd (hempty.mpr hes') (hes ▸ List.cons_ne_nil e rest)
    | cons e' rest' =>
      rw [Attributes.listed_cons_eq, Attributes.listed_cons_eq, ← hes, ← hes', h]

/-- Settings with the same text have the same attributes, unless one of them conceals some. -/
theorem eq_or_conceals (ho : o.PlainKeys) (ho' : o'.PlainKeys)
    (h : o.attributesText = o'.attributesText) :
    o.resourceAttributes = o'.resourceAttributes ∨ o.Conceals o' ∨ o'.Conceals o := by
  rcases Attributes.eq_or_conceal o.resourceAttributes.sorted o'.resourceAttributes.sorted ho ho'
    (listed_eq_of_attributesText_eq h) with heq | hconceals
  · refine Or.inl (Dict.ext_get? fun k => ?_)
    rw [Dict.get?, Dict.get?, heq]
  · exact Or.inr hconceals

/-- Several attributes read like a single one, whose value has all the others in it. -/
theorem exists_single (ho : o.PlainKeys) (hlength : 1 < o.resourceAttributes.entries.length) :
    ∃ o' : OtlpSettings, o'.PlainKeys ∧ o.attributesText = o'.attributesText
      ∧ o'.resourceAttributes.entries.length = 1 := by
  unfold PlainKeys at ho
  unfold attributesText
  match hes : o.resourceAttributes.entries, hlength with
  | (k, v) :: e :: rest, _ =>
    let others := ",".intercalate ((e :: rest).map fun e => e.1 ++ "=" ++ e.2)
    refine ⟨⟨o.serviceName, [(k, v ++ "," ++ others)], Entries.sorted_singleton _ _⟩, ?_, ?_, rfl⟩
    · rw [hes] at ho
      have hk : PlainKey k := ho (k, v) List.mem_cons_self
      exact List.forall_mem_singleton.mpr hk
    · simp [others, String.append_assoc]

/-- A single attribute that hides one reads like the two of them. -/
theorem exists_pair (ho : o.PlainKeys) (hlength : o.resourceAttributes.entries.length ≤ 1)
    (hhides : o.Hides) : ∃ o' : OtlpSettings, o'.PlainKeys
      ∧ o.attributesText = o'.attributesText ∧ o'.resourceAttributes.entries.length = 2 := by
  obtain ⟨k, v, k', rest, hk', hlt, hmem⟩ := hhides
  have hes : o.resourceAttributes.entries = [(k, v ++ "," ++ k' ++ "=" ++ rest)] := by
    obtain ⟨e, he⟩ :=
      List.length_eq_one_iff.mp (Nat.le_antisymm hlength (List.length_pos_of_mem hmem))
    rw [he] at hmem ⊢
    rw [List.mem_singleton.mp hmem]
  have hsorted : Entries.Sorted [(k, v), (k', rest)] := by
    refine List.pairwise_cons.mpr ⟨?_, Entries.sorted_singleton _ _⟩
    exact List.forall_mem_singleton.mpr hlt
  refine ⟨⟨o.serviceName, [(k, v), (k', rest)], hsorted⟩, ?_, ?_, rfl⟩
  · have hk : PlainKey k := ho _ hmem
    exact List.forall_mem_cons.mpr ⟨hk, List.forall_mem_singleton.mpr hk'⟩
  · unfold attributesText
    rw [hes]
    simp [String.append_assoc]

/-- Of settings with plain keys: which others with the same text have the same attributes, and when
all of them have. -/
theorem attributes_told (ho : o.PlainKeys) :
    (∀ o' : OtlpSettings, o'.PlainKeys → o.attributesText = o'.attributesText →
      (o.resourceAttributes = o'.resourceAttributes ↔ ¬ o.Conceals o' ∧ ¬ o'.Conceals o))
    ∧ ((∀ o' : OtlpSettings, o'.PlainKeys → o.attributesText = o'.attributesText →
        o.resourceAttributes = o'.resourceAttributes)
      ↔ o.resourceAttributes.entries.length ≤ 1 ∧ ¬ o.Hides) := by
  constructor
  · intro o' ho' htext
    constructor
    · intro heq
      have hself := Attributes.not_conceal_self o'.resourceAttributes.sorted
      unfold Conceals
      rw [heq]
      exact ⟨hself, hself⟩
    · rintro ⟨hconceals, hconceals'⟩
      rcases eq_or_conceals ho ho' htext with heq | h | h
      · exact heq
      · exact absurd h hconceals
      · exact absurd h hconceals'
  · constructor
    · intro hall
      have hlength : o.resourceAttributes.entries.length ≤ 1 := by
        refine Nat.le_of_not_lt fun hmore => ?_
        obtain ⟨o', ho', htext, hone⟩ := exists_single ho hmore
        rw [hall o' ho' htext, hone] at hmore
        exact Nat.lt_irrefl 1 hmore
      refine ⟨hlength, fun hhides => ?_⟩
      obtain ⟨o', ho', htext, htwo⟩ := exists_pair ho hlength hhides
      rw [hall o' ho' htext, htwo] at hlength
      exact absurd hlength (by decide)
    · rintro ⟨hlength, hhides⟩ o' ho' htext
      rcases eq_or_conceals ho ho' htext with heq | h | h
      · exact heq
      · exact absurd (h.hides ho') hhides
      · exact absurd h.length (Nat.not_lt.mpr hlength)

/-- A comma in a value does no harm by itself. -/
theorem attributes_told_note :
    let o : OtlpSettings := ⟨"buildkitd", .ofList [("note", "fast,cheap")]⟩
    o.PlainKeys ∧ o.attributesText = "note=fast,cheap"
      ∧ ∀ o' : OtlpSettings, o'.PlainKeys → o.attributesText = o'.attributesText →
        o.resourceAttributes = o'.resourceAttributes := by
  intro o
  have ho : o.PlainKeys := by decide
  have hhides : ¬ o.Hides := by
    rintro ⟨k, v, k', rest, -, -, hmem⟩
    have hvalue : v ++ "," ++ k' ++ "=" ++ rest = "fast,cheap" :=
      (Prod.mk.inj (List.mem_singleton.mp hmem)).2
    -- the value has no equals sign
    have hmark : '=' ∈ "fast,cheap".toList := by
      rw [← hvalue]
      simp
    exact absurd hmark (by decide)
  exact ⟨ho, by decide, (attributes_told ho).2.mpr ⟨by decide, hhides⟩⟩

/-- One attribute whose value reads like two. -/
theorem attributes_confused :
    let o : OtlpSettings := ⟨"buildkitd", .ofList [("a", "1,b=2")]⟩
    let o' : OtlpSettings := ⟨"buildkitd", .ofList [("a", "1"), ("b", "2")]⟩
    o.PlainKeys ∧ o'.PlainKeys ∧ o.attributesText = o'.attributesText
      ∧ o.resourceAttributes ≠ o'.resourceAttributes := by
  decide

end OtlpSettings

end BuildFleet
