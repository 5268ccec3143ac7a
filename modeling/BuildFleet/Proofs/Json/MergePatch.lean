import BuildFleet.Json.Received
import BuildFleet.Proofs.Json.RoundTrip

/-!
# Merge patches

A merge patch (`application/merge-patch+json`) is a JSON value that is laid over another one. Where
it is an object, it changes the members that it has: null takes a member away, and any other value
is a patch of the member. All else replaces what it is laid over.

> `Json.member?_mergePatch`: what a patched object has under a name;
> `RecordFormat.Describes.read_mergePatch`: a record is read from what it has been laid over if all
> its fields are written, none of them as null or as an object.

What a record leaves out when it is written stays as it was, so a field that is not always written
may keep an old value; and an object is not replaced but patched.
-/

namespace BuildFleet

namespace Json

mutual

/-- The value with a patch laid over it. A patch that is an object makes one of it. -/
def mergePatch : Json → Json → Json
  | target, obj patch => obj (mergePatchMembers (target.fields?.getD []) patch)
  | _, null => null
  | _, bool b => bool b
  | _, int n => int n
  | _, float x => float x
  | _, str s => str s
  | _, arr items => arr items

/-- The members with the members of a patch laid over them. -/
def mergePatchMembers : Members → List (String × Json) → Members
  | target, [] => target
  | target, (k, v) :: rest =>
    mergePatchMembers
      (if v.kind = .null then Entries.filterKeys (· != k) target
        else Entries.insert k (mergePatch ((Entries.get? k target).getD .null) v) target)
      rest

end

/-- A value that is no object replaces what it is laid over. -/
theorem mergePatch_of_ne_object (target : Json) {v : Json} (hv : v.kind ≠ .object) :
    target.mergePatch v = v := by
  cases v with
  | obj _ => exact absurd rfl hv
  | _ => rfl

/-- What a patch of a member makes of it, if there is any. -/
def patched (old : Option Json) (v : Json) : Option Json :=
  if v.kind = .null then none else some ((old.getD .null).mergePatch v)

/-- A value that is neither null nor an object replaces what was there. -/
theorem patched_eq_self {old : Option Json} {v : Json} (hnull : v.kind ≠ .null)
    (hobject : v.kind ≠ .object) : patched old v = some v := by
  rw [patched, if_neg hnull, mergePatch_of_ne_object _ hobject]

/-- A member that a patch has is patched, and any other one stays. -/
theorem get?_mergePatchMembers {k : String} : ∀ {patch target : Members}, Entries.Sorted patch →
    Entries.get? k (mergePatchMembers target patch)
      = match Entries.get? k patch with
        | none => Entries.get? k target
        | some v => patched (Entries.get? k target) v
  | [], _, _ => rfl
  | (k', v) :: rest, target, hsorted => by
    obtain ⟨hfirst, hrest⟩ := List.pairwise_cons.mp hsorted
    rw [mergePatchMembers, get?_mergePatchMembers hrest, Entries.get?]
    by_cases hk : k' = k
    · subst hk
      rw [if_pos rfl, Entries.get?_eq_none_of_lt hfirst]
      show Entries.get? k' _ = patched _ v
      unfold patched
      split
      · rw [Entries.get?_filterKeys, if_neg (by simp)]
      · rw [Entries.get?_insert_self]
    · have hstays : Entries.get? k (if v.kind = .null then Entries.filterKeys (· != k') target
          else Entries.insert k' (mergePatch ((Entries.get? k' target).getD .null) v) target)
          = Entries.get? k target := by
        split
        · rw [Entries.get?_filterKeys, if_pos (by simpa using Ne.symm hk)]
        · exact Entries.get?_insert_ne _ hk _
      rw [if_neg hk, hstays]

/-- What a patched object has under a name. -/
theorem member?_mergePatch (target : Members) (patch : Members) (k : String) :
    ((obj target).mergePatch (ofFields patch)).member? k
      = match (ofFields patch).member? k with
        | none => (obj target).member? k
        | some v => patched ((obj target).member? k) v :=
  get?_mergePatchMembers (Entries.ofList_sorted patch)

end Json

/-! ## Records -/

/-- A field that is always written replaces what it is laid over, unless it is an object. -/
theorem Slot.exists_write_always {α : Type} {f : Form α} {x : α} (default : α)
    (hobject : (f.write x).kind ≠ .object) :
    ∃ v, (Slot.always f default).write x = some v ∧ v.kind ≠ .null ∧ v.kind ≠ .object :=
  ⟨f.write x, rfl, f.write_ne_null x, hobject⟩

namespace RecordFormat.Describes

variable {ρ : Type} {R : RecordFormat ρ} {read : Json → Option ρ} {write : ρ → Json}

/-- A record that writes all its fields, none of them as null or as an object, is read from any
value that is patched with it. -/
theorem read_mergePatch (h : R.Describes read write) {least : Nat}
    (hothers : R.others = .ignored least) {hwrite : ∀ x, (write x).kind = .object} {x : ρ}
    (hx : (R.form read write hwrite).ReadsBack x)
    (hfields : ∀ e ∈ R.fields, ∃ v, e.2.slot.write (e.2.get x) = some v
      ∧ v.kind ≠ .null ∧ v.kind ≠ .object) (target : Json) :
    read (target.mergePatch (write x)) = some x := by
  have hback := (h.readsBack_iff.mp hx).2
  have hextra : R.extra x = .empty := by simp [extra, hothers]
  have hget : ∀ e ∈ R.fields, Entries.get? e.1
      (Json.mergePatchMembers (target.fields?.getD []) (Entries.ofList (R.written x)))
        = e.2.slot.write (e.2.get x) := by
    intro e he
    obtain ⟨v, hv, hnull, hobject⟩ := hfields e he
    have hmember : Entries.get? e.1 (Entries.ofList (R.written x)) = some v := by
      have hwritten := h.member?_write he x
      rw [hextra, hv, h.writes] at hwritten
      exact hwritten
    rw [Json.get?_mergePatchMembers (Entries.ofList_sorted _), hmember, hv]
    exact Json.patched_eq_self hnull hobject
  rw [h.writes]
  refine h.read_iff.mpr ⟨_, ?_, fun e he => (congrArg _ (hget e he)).trans (hback e he), ?_⟩
  · unfold members?
    rw [hothers]
    rfl
  · simp [rest, hothers, hextra]

end RecordFormat.Describes

end BuildFleet
