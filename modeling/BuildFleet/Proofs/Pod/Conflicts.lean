import BuildFleet.Proofs.Merge.Conflicts
import BuildFleet.Proofs.Pod.Layers

/-!
# Layers that a pod does not take

Fields of a pod never stop a merge, whatever they hold: only free-form values do, and of those only
two that are of different kinds, none of them null, at one place. The places are inside of the
members without a field of their own, of the affinity and of label selectors; tolerations are
replaced as a whole.

> `Pod.merge_fails_iff`: there has to be a clash for a merge to fail, and one is enough; the
> mismatch names one, with both kinds.
-/

namespace BuildFleet

/-- A merge fails exactly if pod and layer clash somewhere, and the mismatch is such a clash. -/
theorem Pod.merge_fails_iff {base layer : Pod} (hlayer : layer.DistinctKeys) :
    ((∃ e, (merge base layer).result = .error e)
        ↔ ∃ place expected found, Pod.rules.ClashAt base layer place expected found)
      ∧ ∀ e, (merge base layer).result = .error e →
        ∃ place, Pod.rules.ClashAt base layer place e.expected e.found ∧ e.path = place.path := by
  have hdistinct : Pod.rules.Distinct layer := Pod.distinct_iff.mpr hlayer
  simp only [Merged.result_eq_error_iff]
  exact ⟨Pod.composed.fails_iff trivial hdistinct,
    fun e he => Pod.composed.reports base layer e hdistinct he⟩

/-- A startup probe that the layer turns into a list, in the second of two containers. -/
theorem Pod.merge_fails_iff_startupProbe :
    let base : Pod := {
      spec := {
        containers := [
          { name := "sidecar" },
          { name := "buildkit", extra := .ofMembers [("startupProbe", .obj [])] }] } }
    let layer : Pod := {
      spec := {
        containers := [
          { name := "buildkit", extra := .ofMembers [("startupProbe", .arr [])] }] } }
    let clash : Mismatch := {
      path := [.field "spec", .field "containers", .element "buildkit", .field "startupProbe"]
      expected := .object
      found := .array }
    clash.path.text = "spec.containers[buildkit].startupProbe" ∧ layer.DistinctKeys
      ∧ (merge base layer).result = .error clash
      ∧ (∃ place expected found, Pod.rules.ClashAt base layer place expected found)
      ∧ ∃ place, Pod.rules.ClashAt base layer place .object .array ∧ clash.path = place.path := by
  intro base layer clash
  have htext : clash.path.text = "spec.containers[buildkit].startupProbe" := by
    simp [clash, MergePath.text, Segment.before, Segment.text]
  have hlayer : layer.DistinctKeys := by decide
  have hfails : (merge base layer).result = .error clash := by rfl
  obtain ⟨hiff, hreports⟩ := @Pod.merge_fails_iff base layer hlayer
  exact ⟨htext, hlayer, hfails, hiff.mp ⟨clash, hfails⟩, hreports clash hfails⟩

end BuildFleet
