import BuildFleet.Proofs.Json.Members
import BuildFleet.Proofs.Merge.Frame
import BuildFleet.Proofs.Merge.Overlay

/-!
# What merging keeps

A property is kept by merging if what two values with it merge to has it too (`Rules.Keeps`). Such
properties are put together as the rules are:

> `Rules.keeps_single`: a value that is replaced as a whole keeps all that both values have;
> `Rules.Keeps.keyed`: what the elements of keyed lists keep, the lists keep of all their elements;
> `Rules.keeps_avoids`: free-form objects keep the names that they avoid.

What all layers have is then had by what comes of them (`Rules.Keeps.mergeAll`).
-/

namespace BuildFleet

namespace Rules

variable {α : Type} {r : Rules α} {P Q : α → Prop}

/-- What two values with the property merge to has it. -/
def Keeps (r : Rules α) (P : α → Prop) : Prop :=
  ∀ b l v, P b → P l → r.lay b l = some v → P v

/-- What is kept withstands layers that have it. -/
theorem Keeps.withstands (h : r.Keeps P) : r.Withstands P P := h

/-- What all values have is kept. -/
theorem keeps_of_forall (h : ∀ x, P x) : r.Keeps P := fun _ _ v _ _ _ => h v

/-- Of two values one is taken as it is. -/
theorem keeps_single {m : α → α → Merged α} {leaf : α → Leaf}
    (hmerge : ∀ b l, m b l = .done b ∨ m b l = .done l) : (single m leaf).Keeps P := by
  intro b l v hb hl hv
  have hlay : (m b l).value? = some v := hv
  rcases hmerge b l with h | h
  · rw [h] at hlay
    exact Option.some.inj hlay ▸ hb
  · rw [h] at hlay
    exact Option.some.inj hlay ▸ hl

@[simp] theorem keeps_text {P : String → Prop} : text.Keeps P :=
  keeps_single fun b l =>
    (ite_eq_or_eq (l.isEmpty = true) b l).imp (congrArg Merged.done) (congrArg Merged.done)

@[simp] theorem keeps_flag {P : Bool → Prop} : flag.Keeps P := keeps_single fun _ _ => Or.inr rfl

@[simp] theorem keeps_number {P : Int → Prop} : number.Keeps P := keeps_single fun _ _ => Or.inr rfl

@[simp] theorem keeps_port {P : Int → Prop} : port.Keeps P :=
  keeps_single fun b l =>
    (ite_eq_or_eq (l = 0) b l).imp (congrArg Merged.done) (congrArg Merged.done)

@[simp] theorem keeps_texts {P : List String → Prop} : texts.Keeps P :=
  keeps_single fun b l =>
    (ite_eq_or_eq (l.isEmpty = true) b l).imp (congrArg Merged.done) (congrArg Merged.done)

@[simp] theorem keeps_tolerations {P : List Toleration → Prop} : tolerations.Keeps P :=
  keeps_single fun b l =>
    (ite_eq_or_eq (l.isEmpty = true) b l).imp (congrArg Merged.done) (congrArg Merged.done)

/-- A field that layers do not reach keeps all that it has. -/
@[simp] theorem keeps_fixed {leaf : α → Leaf} : (fixed leaf).Keeps P :=
  fun _ _ _ hb _ hv => Option.some.inj hv ▸ hb

/-- An optional value keeps what its value does. -/
theorem Keeps.optional (h : r.Keeps P) : r.optional.Keeps fun o => ∀ x ∈ o, P x := by
  intro b l v hb hl hv
  rcases lay_optional_cases hv with ⟨-, rfl⟩ | ⟨-, rfl⟩ | ⟨x, y, w, rfl, rfl, rfl, hw⟩
  · exact hl
  · exact hb
  · rintro z hz
    obtain rfl := Option.some.inj hz
    exact h x y w (hb x rfl) (hl y rfl) hw

/-- A keyed list keeps what its elements do. -/
theorem Keeps.keyed {key : α → String} (h : r.Keeps P) :
    (r.keyed key).Keeps fun l => ∀ x ∈ l, P x :=
  fun _ _ _ hb hl hv => forall_keyed h hb hl hv

/-- A free-form object keeps avoiding the names that both objects avoid. -/
theorem keeps_avoids (names : List String) : freeForm.Keeps fun f => f.Avoids names := by
  intro b l v hb hl hv k hk
  have hjson : json.lay b.toJson l.toJson = some v.toJson := by
    rw [← FreeForm.map_toJson_lay, hv, Option.map_some]
  have hmember : json.optional.lay (b.toJson.member? k) (l.toJson.member? k)
      = some (v.toJson.member? k) := Json.member?_lay b.wellFormed l.wellFormed hjson k
  rw [hb k hk, hl k hk, json.lay_optional_none_left] at hmember
  exact (Option.some.inj hmember).symm

/-- What the base and all layers have is had by what they merge to. -/
theorem Keeps.mergeAll (h : r.Keeps P) {layers : List α} {base v : α}
    (hv : letI := r.mergeable; BuildFleet.mergeAll base layers = .ok v) (hbase : P base)
    (hlayers : ∀ l ∈ layers, P l) : P v :=
  h.withstands.mergeAll hv hbase hlayers

end Rules

end BuildFleet
