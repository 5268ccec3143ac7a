import BuildFleet.Status.Condition

/-!
# Setting a condition

A list of conditions that is read may hold several of one type, or of types that the operator does
not know. Setting a condition makes good the first and leaves the second alone:

> `ofType_set_self`: afterwards there is one condition of the type, which states what was set;
> `filter_set`: what is told apart by other types stays, in its order.

Only the transition time of what is set may be that of an earlier condition. So what is set again
stays as it is, time and place included, where all that is set is set again in the same order:

> `set_set_again`: two conditions, at any two times.
-/

namespace BuildFleet.Condition

/-- The conditions of one type. -/
def ofType (type : String) (conditions : List Condition) : List Condition :=
  conditions.filter fun c => c.type == type

section

variable (c : Condition) (earlier : List Condition)

/-- But for the transition time a condition stays what it is when it follows others. -/
theorem following_eq : ∃ time, c.following earlier = { c with lastTransitionTime := time } := by
  unfold following
  split
  · next e _ =>
    split
    · exact ⟨e.lastTransitionTime, rfl⟩
    · exact ⟨c.lastTransitionTime, rfl⟩
  · exact ⟨c.lastTransitionTime, rfl⟩

@[simp] theorem following_type : (c.following earlier).type = c.type := by
  obtain ⟨time, heq⟩ := c.following_eq earlier
  rw [heq]

@[simp] theorem following_status : (c.following earlier).status = c.status := by
  obtain ⟨time, heq⟩ := c.following_eq earlier
  rw [heq]

@[simp] theorem following_reason : (c.following earlier).reason = c.reason := by
  obtain ⟨time, heq⟩ := c.following_eq earlier
  rw [heq]

@[simp] theorem following_message : (c.following earlier).message = c.message := by
  obtain ⟨time, heq⟩ := c.following_eq earlier
  rw [heq]

/-- There is one condition of the type that is set, however many there were. -/
theorem ofType_set_self : ofType c.type (set earlier c) = [c.following earlier] := by
  have hothers : ofType c.type (earlier.filter fun e => e.type != c.type) = [] := by
    refine List.filter_eq_nil_iff.mpr ?_
    intro e he
    have hne : (e.type != c.type) = true := (List.mem_filter.mp he).2
    rw [bne, Bool.not_eq_true'] at hne
    rw [hne]
    exact Bool.false_ne_true
  have hnew : ofType c.type [c.following earlier] = [c.following earlier] := by
    refine List.filter_eq_self.mpr ?_
    intro e he
    rw [List.mem_singleton.mp he, following_type, beq_self_eq_true]
  unfold set
  rw [ofType, List.filter_append]
  show ofType c.type _ ++ ofType c.type _ = _
  rw [hothers, hnew, List.nil_append]

end

/-- What does not tell the conditions of the type apart stays, in order. -/
theorem filter_set {keep : Condition → Bool} {c : Condition}
    (hkeep : ∀ e : Condition, e.type = c.type → keep e = false) (earlier : List Condition) :
    (set earlier c).filter keep = earlier.filter keep := by
  have hnew : [c.following earlier].filter keep = [] := by
    refine List.filter_eq_nil_iff.mpr ?_
    intro e he
    rw [List.mem_singleton.mp he, hkeep _ (c.following_type earlier)]
    exact Bool.false_ne_true
  have hothers : (earlier.filter fun e => e.type != c.type).filter keep = earlier.filter keep := by
    rw [List.filter_filter]
    refine List.filter_congr ?_
    intro e _
    by_cases htype : e.type = c.type
    · rw [hkeep e htype, Bool.false_and]
    · rw [bne_iff_ne.mpr htype, Bool.and_true]
  unfold set
  rw [List.filter_append, hnew, hothers, List.append_nil]

/-- Setting a condition of another type leaves the conditions of a type alone. -/
theorem ofType_set_of_ne {type : String} {c : Condition} (hne : c.type ≠ type)
    (earlier : List Condition) : ofType type (set earlier c) = ofType type earlier := by
  refine filter_set ?_ earlier
  intro e he
  rw [beq_eq_false_iff_ne, he]
  exact hne

/-! ## Setting again -/

/-- The conditions state the same, maybe as of different times. -/
def Restates (c d : Condition) : Prop := ∃ time, c = { d with lastTransitionTime := time }

/-- A condition that follows others restates what it said. -/
theorem restates_following (c : Condition) (earlier : List Condition) :
    (c.following earlier).Restates c := c.following_eq earlier

/-- What a condition restates has its type. -/
theorem Restates.type_eq {c d : Condition} (h : c.Restates d) : c.type = d.type := by
  obtain ⟨time, rfl⟩ := h
  rfl

/-- Two conditions that restate a third restate one another. -/
theorem Restates.trans_symm {c d e : Condition} (hc : c.Restates e) (hd : d.Restates e) :
    c.Restates d := by
  obtain ⟨time, rfl⟩ := hc
  obtain ⟨time', rfl⟩ := hd
  exact ⟨time, rfl⟩

/-- A condition that is there once, and is set again, moves to the end as it is. -/
theorem set_again {c d : Condition} (hd : d.Restates c) {before after : List Condition}
    (hbefore : ∀ e ∈ before, e.type ≠ c.type) (hafter : ∀ e ∈ after, e.type ≠ c.type) :
    set (before ++ d :: after) c = before ++ after ++ [d] := by
  have hother : ∀ {l : List Condition}, (∀ e ∈ l, e.type ≠ c.type) →
      l.filter (fun e => e.type != c.type) = l :=
    fun hl => List.filter_eq_self.mpr fun e he => bne_iff_ne.mpr (hl e he)
  have htype : (d.type != c.type) = false := by simp [hd.type_eq]
  have hfind : (before ++ d :: after).find? (fun e => e.type == c.type) = some d := by
    have hnone : before.find? (fun e => e.type == c.type) = none :=
      List.find?_eq_none.mpr fun e he => by simpa using hbefore e he
    rw [List.find?_append, hnone, Option.none_or]
    exact List.find?_cons_of_pos (beq_iff_eq.mpr hd.type_eq)
  have hfollowing : c.following (before ++ d :: after) = d := by
    unfold following
    rw [hfind]
    obtain ⟨time, rfl⟩ := hd
    exact if_pos rfl
  unfold set
  rw [hfollowing, List.filter_append, List.filter_cons, htype, hother hbefore, hother hafter]
  rfl

/-- Two conditions that were set are left as they are by setting them again. -/
theorem set_set_again {c c' d d' : Condition} (hne : c.type ≠ d.type) (hc : c'.Restates c)
    (hd : d'.Restates d) (earlier : List Condition) :
    set (set (set (set earlier c) d) c') d' = set (set earlier c) d := by
  -- what was set last of each type comes last, and all else is of other types
  obtain ⟨before, hform, hothers⟩ : ∃ before, set (set earlier c) d
      = before ++ [c.following earlier, d.following (set earlier c)]
      ∧ ∀ e ∈ before, e.type ≠ c.type ∧ e.type ≠ d.type := by
    refine ⟨(earlier.filter fun e => e.type != c.type).filter fun e => e.type != d.type, ?_, ?_⟩
    · have hkept : ((c.following earlier).type != d.type) = true := by
        rw [following_type]
        exact bne_iff_ne.mpr hne
      show (set earlier c).filter (fun e => e.type != d.type) ++ [_] = _
      rw [set, List.filter_append, List.filter_cons, if_pos hkept, List.append_assoc]
      rfl
    · intro e he
      obtain ⟨he, hd⟩ := List.mem_filter.mp he
      exact ⟨bne_iff_ne.mp (List.mem_filter.mp he).2, bne_iff_ne.mp hd⟩
  generalize hC : c.following earlier = C at hform
  generalize hD : d.following (set earlier c) = D at hform
  have hCc : C.Restates c := hC ▸ restates_following c earlier
  have hDd : D.Restates d := hD ▸ restates_following d _
  rw [hform]
  have hfirst : set (before ++ [C, D]) c' = before ++ [D, C] := by
    rw [set_again (hCc.trans_symm hc) (fun e he => ?_) (fun e he => ?_), List.append_assoc]
    · rfl
    · rw [hc.type_eq]
      exact (hothers e he).1
    · rw [hc.type_eq, List.mem_singleton.mp he, hDd.type_eq]
      exact hne.symm
  rw [hfirst, set_again (hDd.trans_symm hd) (fun e he => ?_) (fun e he => ?_), List.append_assoc]
  · rfl
  · rw [hd.type_eq]
    exact (hothers e he).2
  · rw [hd.type_eq, List.mem_singleton.mp he, hCc.type_eq]
    exact hne

end BuildFleet.Condition
