/-!
# Parts of a text that are replaced

`around? part cs` finds the first place at which a part stands in a text, and gives what is before
it and what is after it. Texts are lists of characters here, up to `replaceFirst`.

> `around?_eq_some`: what is found is the part, between the two, and it stands nowhere earlier;
> `replaceFirst_eq`: so of all the places at which the part stands, the first one is replaced.
-/

namespace BuildFleet.Text

/-- What is before the first place at which the part stands, and what is after it; none if it
stands nowhere. -/
def around? (part : List Char) : List Char → Option (List Char × List Char)
  | [] => if part.isEmpty then some ([], []) else none
  | c :: rest =>
    if part.isPrefixOf (c :: rest) then some ([], (c :: rest).drop part.length)
    else (around? part rest).map fun (before, after) => (c :: before, after)

/-- The part stands between the two, and nowhere earlier. -/
theorem around?_eq_some {part : List Char} : ∀ {cs before after : List Char},
    around? part cs = some (before, after) → cs = before ++ part ++ after
      ∧ ∀ b a, cs = b ++ part ++ a → before.length ≤ b.length
  | [], before, after, h => by
    obtain ⟨hempty, h⟩ := Option.ite_none_right_eq_some.mp h
    obtain ⟨rfl, rfl⟩ := Prod.mk.inj (Option.some.inj h)
    obtain rfl := List.isEmpty_iff.mp hempty
    exact ⟨rfl, fun b _ _ => Nat.zero_le b.length⟩
  | c :: rest, before, after, h => by
    rw [around?] at h
    split at h
    · next hprefix =>
      obtain ⟨rfl, rfl⟩ := Prod.mk.inj (Option.some.inj h)
      obtain ⟨tail, htail⟩ := List.isPrefixOf_iff_prefix.mp hprefix
      refine ⟨?_, fun b _ _ => Nat.zero_le b.length⟩
      rw [← htail, List.drop_left, List.nil_append]
    · next hprefix =>
      obtain ⟨⟨before', after'⟩, hrest, heq⟩ := Option.map_eq_some_iff.mp h
      obtain ⟨rfl, rfl⟩ := Prod.mk.inj heq
      obtain ⟨hparts, hfirst⟩ := around?_eq_some hrest
      refine ⟨by rw [hparts]; rfl, ?_⟩
      intro b a hb
      cases b with
      | nil =>
        -- the part would stand at the beginning
        have hpart : part.isPrefixOf (c :: rest) = true :=
          List.isPrefixOf_iff_prefix.mpr ⟨a, hb.symm⟩
        exact absurd hpart hprefix
      | cons c' b =>
        obtain ⟨rfl, hrest'⟩ := List.cons.inj hb
        exact Nat.succ_le_succ (hfirst b a hrest')

/-- The text with another text in the first place at which the part stands. -/
def replaceFirst (part other text : String) : String :=
  match around? part.toList text.toList with
  | some (before, after) => String.ofList before ++ other ++ String.ofList after
  | none => text

/-- A part that is found is replaced at the first place at which it stands. -/
theorem replaceFirst_eq {part text : String}
    (h : (around? part.toList text.toList).isSome = true) :
    ∃ before after : String, text = before ++ part ++ after
      ∧ (∀ b a : String, text = b ++ part ++ a → before.length ≤ b.length)
      ∧ ∀ other, replaceFirst part other text = before ++ other ++ after := by
  obtain ⟨⟨before, after⟩, hparts⟩ := Option.isSome_iff_exists.mp h
  obtain ⟨htext, hfirst⟩ := around?_eq_some hparts
  refine ⟨String.ofList before, String.ofList after, ?_, ?_, ?_⟩
  · apply String.toList_inj.mp
    rw [htext, String.toList_append, String.toList_append, String.toList_ofList,
      String.toList_ofList]
  · intro b a hb
    have hlist : text.toList = b.toList ++ part.toList ++ a.toList := by
      rw [hb, String.toList_append, String.toList_append]
    have hlength := hfirst _ _ hlist
    rw [String.length_toList] at hlength
    rw [String.length_ofList]
    exact hlength
  · intro other
    rw [replaceFirst, hparts]

end BuildFleet.Text
