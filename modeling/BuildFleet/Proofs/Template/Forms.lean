import BuildFleet.Proofs.Pod.Forms
import BuildFleet.Template.Json

/-!
# The forms of templates and instances

What templates and instances say, as JSON. These records ignore members that they have no field for;
a partial pod inside a template keeps them.
-/

namespace BuildFleet

namespace TemplateResources

def format : RecordFormat TemplateResources where
  fields := [
    ("default", ⟨(·.default), .always Requirements.form .empty⟩),
    ("maximum", ⟨(·.maximum), .dict .quantity⟩)]
  others := .ignored 0

theorem describes : format.Describes ofJson? toJson where
  nodup := by simp [RecordFormat.names, format]
  reads := by
    refine ⟨_, rfl, fun m => ?_⟩
    iterate 2 refine .field rfl fun _ => ?_
    exact .pure (by and_intros <;> rfl)
  ext := by
    rintro ⟨⟩ ⟨⟩ h _
    simpa [format] using h
  writes x := by
    simp [format, toJson, RecordFormat.written, RecordFormat.extra, FreeForm.empty]
    rfl

def form : Form TemplateResources := format.form ofJson? toJson fun _ => rfl

end TemplateResources

namespace TemplateScheduling

def format : RecordFormat TemplateScheduling where
  fields := [
    ("nodeSelector", ⟨(·.nodeSelector), .dict .text⟩),
    ("tolerations", ⟨(·.tolerations), .list Toleration.form⟩),
    ("affinity", ⟨(·.affinity), .optional .freeForm⟩),
    ("priorityClassName", ⟨(·.priorityClassName), .text⟩),
    ("topologySpreadConstraints",
      ⟨(·.topologySpreadConstraints), .list TopologySpreadConstraint.form⟩)]
  others := .ignored 0

theorem describes : format.Describes ofJson? toJson where
  nodup := by simp [RecordFormat.names, format]
  reads := by
    refine ⟨_, rfl, fun m => ?_⟩
    iterate 5 refine .field rfl fun _ => ?_
    exact .pure (by and_intros <;> rfl)
  ext := by
    rintro ⟨⟩ ⟨⟩ h _
    simpa [format] using h
  writes x := by
    simp [format, toJson, RecordFormat.written, RecordFormat.extra, FreeForm.empty]
    rfl

def form : Form TemplateScheduling := format.form ofJson? toJson fun _ => rfl

end TemplateScheduling

namespace TemplateLifecycle

def format : RecordFormat TemplateLifecycle where
  fields := [
    ("requireOwner", ⟨(·.requireOwner), .always .flag false⟩),
    ("restartPolicy", ⟨(·.restartPolicy), .text⟩),
    ("terminationGracePeriodSeconds", ⟨(·.terminationGracePeriodSeconds), .optional .int64⟩),
    ("activeDeadlineSeconds", ⟨(·.activeDeadlineSeconds), .optional .int64⟩),
    ("preStopScript", ⟨(·.preStopScript), .always .flag false⟩)]
  others := .ignored 0

theorem describes : format.Describes ofJson? toJson where
  nodup := by simp [RecordFormat.names, format]
  reads := by
    refine ⟨_, rfl, fun m => ?_⟩
    iterate 5 refine .field rfl fun _ => ?_
    exact .pure (by and_intros <;> rfl)
  ext := by
    rintro ⟨⟩ ⟨⟩ h _
    simpa [format] using h
  writes x := by
    simp [format, toJson, RecordFormat.written, RecordFormat.extra, FreeForm.empty]
    rfl

def form : Form TemplateLifecycle := format.form ofJson? toJson fun _ => rfl

end TemplateLifecycle

namespace OtlpSettings

def format : RecordFormat OtlpSettings where
  fields := [
    ("serviceName", ⟨(·.serviceName), .required .text⟩),
    ("resourceAttributes", ⟨(·.resourceAttributes), .dict .text⟩)]
  others := .ignored 1

theorem describes : format.Describes ofJson? toJson where
  nodup := by simp [RecordFormat.names, format]
  reads := by
    refine ⟨_, rfl, fun m => ?_⟩
    iterate 2 refine .field rfl fun _ => ?_
    exact .pure (by and_intros <;> rfl)
  ext := by
    rintro ⟨⟩ ⟨⟩ h _
    simpa [format] using h
  writes x := by
    simp [format, toJson, RecordFormat.written, RecordFormat.extra, FreeForm.empty]
    rfl

def form : Form OtlpSettings := format.form ofJson? toJson fun _ => rfl

end OtlpSettings

namespace TemplateObservability

def format : RecordFormat TemplateObservability where
  fields := [
    ("debugLogging", ⟨(·.debugLogging), .always .flag false⟩),
    ("otlp", ⟨(·.otlp), .optional OtlpSettings.form⟩)]
  others := .ignored 0

theorem describes : format.Describes ofJson? toJson where
  nodup := by simp [RecordFormat.names, format]
  reads := by
    refine ⟨_, rfl, fun m => ?_⟩
    iterate 2 refine .field rfl fun _ => ?_
    exact .pure (by and_intros <;> rfl)
  ext := by
    rintro ⟨⟩ ⟨⟩ h _
    simpa [format] using h
  writes x := by
    simp [format, toJson, RecordFormat.written, RecordFormat.extra, FreeForm.empty]
    rfl

def form : Form TemplateObservability := format.form ofJson? toJson fun _ => rfl

end TemplateObservability

namespace TemplateSpec

def format : RecordFormat TemplateSpec where
  fields := [
    ("podLabels", ⟨(·.podLabels), .dict .text⟩),
    ("podAnnotations", ⟨(·.podAnnotations), .dict .text⟩),
    ("rootless", ⟨(·.rootless), .always .flag false⟩),
    ("port", ⟨(·.port), .always .int32 defaultPort⟩),
    ("buildkitdToml", ⟨(·.buildkitdToml), .text⟩),
    ("image", ⟨(·.image), .text⟩),
    ("imagePullPolicy", ⟨(·.imagePullPolicy), .text⟩),
    ("resources", ⟨(·.resources), .always TemplateResources.form {}⟩),
    ("command", ⟨(·.command), .list .text⟩),
    ("serviceAccountName", ⟨(·.serviceAccountName), .text⟩),
    ("scheduling", ⟨(·.scheduling), .always TemplateScheduling.form {}⟩),
    ("lifecycle", ⟨(·.lifecycle), .always TemplateLifecycle.form {}⟩),
    ("observability", ⟨(·.observability), .always TemplateObservability.form {}⟩),
    ("hostUsers", ⟨(·.hostUsers), .optional .flag⟩),
    ("podTemplate", ⟨(·.podTemplate), .optional Pod.form⟩)]
  others := .ignored 0

theorem describes : format.Describes ofJson? toJson where
  nodup := by simp [RecordFormat.names, format]
  reads := by
    refine ⟨_, rfl, fun m => ?_⟩
    iterate 15 refine .field rfl fun _ => ?_
    exact .pure (by and_intros <;> rfl)
  ext := by
    rintro ⟨⟩ ⟨⟩ h _
    simpa [format] using h
  writes x := by
    simp [format, toJson, RecordFormat.written, RecordFormat.extra, FreeForm.empty]
    rfl

def form : Form TemplateSpec := format.form ofJson? toJson fun _ => rfl

end TemplateSpec

namespace InstanceSpec

def format : RecordFormat InstanceSpec where
  fields := [
    ("template", ⟨(·.template), .required .text⟩),
    ("resources", ⟨(·.resources), .optional Requirements.form⟩),
    ("maximum", ⟨(·.maximum), .dict .quantity⟩),
    ("labels", ⟨(·.labels), .dict .text⟩),
    ("annotations", ⟨(·.annotations), .dict .text⟩)]
  others := .ignored 1

theorem describes : format.Describes ofJson? toJson where
  nodup := by simp [RecordFormat.names, format]
  reads := by
    refine ⟨_, rfl, fun m => ?_⟩
    iterate 5 refine .field rfl fun _ => ?_
    exact .pure (by and_intros <;> rfl)
  ext := by
    rintro ⟨⟩ ⟨⟩ h _
    simpa [format] using h
  writes x := by
    simp [format, toJson, RecordFormat.written, RecordFormat.extra, FreeForm.empty]
    rfl

def form : Form InstanceSpec := format.form ofJson? toJson fun _ => rfl

end InstanceSpec

end BuildFleet
