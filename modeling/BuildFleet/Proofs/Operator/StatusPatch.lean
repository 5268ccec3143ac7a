import BuildFleet.Operator.Wire
import BuildFleet.Proofs.Json.MergePatch
import BuildFleet.Proofs.Status.Forms

/-!
# Statuses as patches

An instance's status is sent as a merge patch of the instance that the API server has stored. A
merge patch keeps what it does not mention, but a status mentions all that it has, so the stored one
is replaced.

> `InstanceStatus.ofJson?_mergePatch`: whatever is stored as a status, with a status laid over it
> that status is read;
> `Call.body_of_patchStatus`: the patch arrives as it was sent;
> `status_replaced`: so the stored instance has the new status and is as it was otherwise.
-/

namespace BuildFleet

/-! ## What arrives -/

namespace Json

/-- A list arrives as it was if its items do. -/
theorem received_arr_eq_self {items : List Json} (h : ∀ v ∈ items, v.received = v) :
    (arr items).received = arr items := by
  have hitems : receivedItems items = items := by
    induction items with
    | nil => rfl
    | cons v rest ih =>
      obtain ⟨hv, hrest⟩ := List.forall_mem_cons.mp h
      rw [receivedItems, hv, ih hrest]
  rw [received, hitems]

/-- An object arrives as it was if its members do. -/
theorem received_obj_eq_self {fields : Members} (h : ∀ e ∈ fields, e.2.received = e.2) :
    (obj fields).received = obj fields := by
  have hfields : receivedFields fields = fields := by
    induction fields with
    | nil => rfl
    | cons e rest ih =>
      obtain ⟨he, hrest⟩ := List.forall_mem_cons.mp h
      rw [receivedFields, he, ih hrest]
  rw [received, hfields]

/-- A record arrives as it was if its members do. -/
theorem received_ofFields_eq_self {members : Members} (h : ∀ e ∈ members, e.2.received = e.2) :
    (ofFields members).received = ofFields members :=
  received_obj_eq_self fun e he => h e (Entries.mem_of_mem_ofList he)

end Json

/-- A condition arrives as it was. -/
theorem Condition.received_toJson (c : Condition) : c.toJson.received = c.toJson := by
  refine Json.received_ofFields_eq_self ?_
  simp [Json.received, Instant.toJson]

/-- A reference arrives as it was. -/
theorem ManagedRef.received_toJson (r : ManagedRef) : r.toJson.received = r.toJson := by
  refine Json.received_ofFields_eq_self ?_
  simp [Json.received]

namespace InstanceStatus

/-- A status has no binary64 number in it. -/
theorem received_toJson (s : InstanceStatus) : s.toJson.received = s.toJson := by
  refine Json.received_ofFields_eq_self ?_
  simp only [List.forall_mem_cons]
  refine ⟨Json.received_arr_eq_self ?_, Json.received_arr_eq_self ?_, rfl, List.forall_mem_nil _⟩
  · simp [Condition.received_toJson]
  · simp [ManagedRef.received_toJson]

/-- The patch of an instance that gives it a status. -/
def patch (s : InstanceStatus) : Json := Json.ofFields (Members.always "status" s.toJson)

/-- A status is read from whatever it has been laid over. -/
theorem ofJson?_mergePatch {s : InstanceStatus} (hs : s.IsKept) (stored : Json) :
    ofJson? (stored.mergePatch s.toJson) = some s := by
  refine describes.read_mergePatch rfl (readsBack_iff.mpr hs) ?_ stored
  have harray : JsonKind.array ≠ .object := by decide
  have hstring : JsonKind.string ≠ .object := by decide
  simp only [format, List.forall_mem_cons]
  exact ⟨Slot.exists_write_always [] harray, Slot.exists_write_always [] harray,
    Slot.exists_write_always "" hstring, List.forall_mem_nil _⟩

/-- What a patched instance has as its status. -/
theorem member?_status_mergePatch (s : InstanceStatus) (stored : Members) :
    ((Json.obj stored).mergePatch s.patch).member? "status"
      = some (((Entries.get? "status" stored).getD .null).mergePatch s.toJson) := by
  rw [patch, Json.member?_mergePatch, Members.member?_always_self]
  exact if_neg nofun

/-- A patch of the status leaves all other members alone. -/
theorem member?_mergePatch_of_ne (s : InstanceStatus) (stored : Members) {k : String}
    (hk : k ≠ "status") :
    ((Json.obj stored).mergePatch s.patch).member? k = (Json.obj stored).member? k := by
  rw [patch, Json.member?_mergePatch, Members.member?_always_of_ne (Ne.symm hk)]

end InstanceStatus

/-- What is sent to store a status. -/
theorem Call.body_of_patchStatus {manager ns name : String} {s : InstanceStatus} {r : HttpRequest}
    (h : (Call.patchStatus ns name s).request? manager = some r) :
    r.method = "PATCH" ∧ r.contentType = some "application/merge-patch+json"
      ∧ r.body = some s.patch := by
  obtain ⟨object, -, h⟩ := Option.bind_eq_some_iff.mp h
  obtain ⟨parameter, -, h⟩ := Option.bind_eq_some_iff.mp h
  obtain ⟨target, -, h⟩ := Option.bind_eq_some_iff.mp h
  obtain rfl := Option.some.inj h
  refine ⟨rfl, rfl, ?_⟩
  show some (Json.ofFields [("status", s.toJson.received)]) = _
  rw [s.received_toJson]
  rfl

/-! ## What is stored -/

/-- An instance is read exactly if its three members are. -/
theorem Instance.ofJson?_obj_iff {m : Members} {i : Instance} : ofJson? (.obj m) = some i
    ↔ m.required? "metadata" ObjectMeta.ofJson? = some i.metadata
      ∧ m.required? "spec" InstanceSpec.ofJson? = some i.spec
      ∧ m.optional? "status" InstanceStatus.ofJson? = some i.status := by
  obtain ⟨metadata, spec, status⟩ := i
  simp [ofJson?, Members.ofClosed?, Option.bind_eq_some_iff]

/-- A status replaces the stored one, whatever that is. -/
theorem status_replaced {new : InstanceStatus} (hnew : new.IsKept) (stored : Members) :
    ((∃ status, ((Json.obj stored).mergePatch new.patch).member? "status" = some status
        ∧ InstanceStatus.ofJson? status = some new)
      ∧ ∀ k, k ≠ "status" → ((Json.obj stored).mergePatch new.patch).member? k
        = (Json.obj stored).member? k)
    ∧ (∀ i, Instance.ofJson? (.obj stored) = some i →
      Instance.ofJson? ((Json.obj stored).mergePatch new.patch)
        = some { i with status := some new })
    ∧ ∀ manager ns name r, (Call.patchStatus ns name new).request? manager = some r →
      r.method = "PATCH" ∧ r.contentType = some "application/merge-patch+json"
        ∧ r.body = some new.patch := by
  have hstatus := new.member?_status_mergePatch stored
  have hothers : ∀ k, k ≠ "status" → ((Json.obj stored).mergePatch new.patch).member? k
      = (Json.obj stored).member? k := fun k hk => new.member?_mergePatch_of_ne stored hk
  have hread := InstanceStatus.ofJson?_mergePatch hnew ((Entries.get? "status" stored).getD .null)
  have hkind : (((Entries.get? "status" stored).getD .null).mergePatch new.toJson).kind ≠ .null :=
    nofun
  refine ⟨⟨⟨_, hstatus, hread⟩, hothers⟩, fun i hi => ?_, fun _ _ _ _ => Call.body_of_patchStatus⟩
  obtain ⟨hmetadata, hspec, -⟩ := Instance.ofJson?_obj_iff.mp hi
  refine Instance.ofJson?_obj_iff.mpr ⟨?_, ?_, ?_⟩
  · exact (congrArg (Option.bind · _) (hothers "metadata" (by decide))).trans hmetadata
  · exact (congrArg (Option.bind · _) (hothers "spec" (by decide))).trans hspec
  · refine (congrArg (Slot.optional InstanceStatus.form).read hstatus).trans ?_
    rw [Slot.read_optional_of_ne_null _ hkind]
    exact congrArg (Option.map some) hread

/-- A daemon that served is gone, and with it its endpoint, its reference and its only condition. -/
theorem status_replaced_cleared :
    let new : InstanceStatus := {
      conditions := [⟨"Ready", .no, "PodCreating", "", ⟨1767225600, 0⟩⟩] }
    let stored : Members := [
      ("metadata", .obj [("name", .str "build-abc"), ("namespace", .str "ci")]),
      ("spec", .obj [("template", .str "default")]),
      ("status", .obj [
        ("conditions", .arr [.obj [
          ("lastTransitionTime", .str "2025-12-31T23:59:60.5Z"),
          ("message", .str "serving"), ("reason", .str "PodReady"), ("status", .str "True"),
          ("type", .str "Deployed")]]),
        ("endpoint", .str "tcp://10.0.0.1:1234"),
        ("resourceRefs", .arr [.obj [
          ("kind", .str "Pod"), ("name", .str "build-abc"), ("namespace", .str "ci")]])])]
    new.IsKept
      ∧ (∃ i, Instance.ofJson? (.obj stored) = some i
        ∧ Instance.ofJson? ((Json.obj stored).mergePatch new.patch)
          = some { i with status := some new })
      ∧ ∃ r, (Call.patchStatus "ci" "build-abc" new).request? "buildkit-operator" = some r
        ∧ r.body = some new.patch := by
  intro new stored
  have hnew : new.IsKept := by decide
  obtain ⟨i, hi⟩ : ∃ i, Instance.ofJson? (.obj stored) = some i :=
    Option.isSome_iff_exists.mp (by decide)
  have hsent : ((Call.patchStatus "ci" "build-abc" new).request? "buildkit-operator").isSome := by
    decide +kernel
  obtain ⟨r, hr⟩ := Option.isSome_iff_exists.mp hsent
  obtain ⟨-, hinstance, hrequest⟩ := status_replaced hnew stored
  exact ⟨hnew, ⟨i, hi, hinstance i hi⟩, r, hr, (hrequest _ _ _ r hr).2.2⟩

end BuildFleet
