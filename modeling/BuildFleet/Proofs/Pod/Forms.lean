import BuildFleet.Pod.Json
import BuildFleet.Proofs.Json.Forms

/-!
# The forms of a pod's records

For each record of a pod its fields, each under the name it has in JSON, and how the field is kept
there. A record has two more facts to it.

* `describes`: it is read and written field by field, as its fields are listed, and no field is
  missing from the list;
* `form`: the form that this makes.

The fields are listed in the order in which they are read.
-/

namespace BuildFleet

/-! ## Parts of containers -/

namespace Requirements

def format : RecordFormat Requirements where
  fields := [
    ("limits", ⟨(·.limits), .dict .quantity⟩),
    ("requests", ⟨(·.requests), .dict .quantity⟩)]
  others := .ignored 0

theorem describes : format.Describes ofJson? toJson where
  nodup := by simp [RecordFormat.names, format]
  reads := by
    refine ⟨_, rfl, fun m => ?_⟩
    iterate 2 refine .field rfl fun _ => ?_
    exact .pure (by and_intros <;> rfl)
  ext := by
    rintro ⟨⟩ ⟨⟩ h _
    simpa [format] using h
  writes x := by
    simp [format, toJson, RecordFormat.written, RecordFormat.extra, FreeForm.empty]
    rfl

def form : Form Requirements := format.form ofJson? toJson fun _ => rfl

end Requirements

namespace EnvVar

def format : RecordFormat EnvVar where
  fields := [
    ("name", ⟨(·.name), .required .text⟩),
    ("value", ⟨(·.value), .text⟩)]
  others := .kept (·.extra)

theorem describes : format.Describes ofJson? toJson where
  nodup := by simp [RecordFormat.names, format]
  reads := by
    refine ⟨_, rfl, fun m => ?_⟩
    iterate 2 refine .field rfl fun _ => ?_
    exact .pure (by and_intros <;> rfl)
  ext := by
    rintro ⟨⟩ ⟨⟩ h hextra
    simpa [format, RecordFormat.extra, and_assoc] using And.intro h hextra
  writes x := by
    simp [format, toJson, RecordFormat.written, RecordFormat.extra]
    rfl

def form : Form EnvVar := format.form ofJson? toJson fun _ => rfl

end EnvVar

namespace ContainerPort

def format : RecordFormat ContainerPort where
  fields := [
    ("name", ⟨(·.name), .text⟩),
    ("containerPort", ⟨(·.containerPort), .required .int32⟩),
    ("protocol", ⟨(·.protocol), .text⟩)]
  others := .kept (·.extra)

theorem describes : format.Describes ofJson? toJson where
  nodup := by simp [RecordFormat.names, format]
  reads := by
    refine ⟨_, rfl, fun m => ?_⟩
    iterate 3 refine .field rfl fun _ => ?_
    exact .pure (by and_intros <;> rfl)
  ext := by
    rintro ⟨⟩ ⟨⟩ h hextra
    simpa [format, RecordFormat.extra, and_assoc] using And.intro h hextra
  writes x := by
    simp [format, toJson, RecordFormat.written, RecordFormat.extra]
    rfl

def form : Form ContainerPort := format.form ofJson? toJson fun _ => rfl

end ContainerPort

namespace VolumeMount

def format : RecordFormat VolumeMount where
  fields := [
    ("name", ⟨(·.name), .required .text⟩),
    ("mountPath", ⟨(·.mountPath), .required .text⟩),
    ("readOnly", ⟨(·.readOnly), .optional .flag⟩),
    ("subPath", ⟨(·.subPath), .text⟩)]
  others := .kept (·.extra)

theorem describes : format.Describes ofJson? toJson where
  nodup := by simp [RecordFormat.names, format]
  reads := by
    refine ⟨_, rfl, fun m => ?_⟩
    iterate 4 refine .field rfl fun _ => ?_
    exact .pure (by and_intros <;> rfl)
  ext := by
    rintro ⟨⟩ ⟨⟩ h hextra
    simpa [format, RecordFormat.extra, and_assoc] using And.intro h hextra
  writes x := by
    simp [format, toJson, RecordFormat.written, RecordFormat.extra]
    rfl

def form : Form VolumeMount := format.form ofJson? toJson fun _ => rfl

end VolumeMount

/-! ## Probes and hooks -/

namespace GrpcAction

def format : RecordFormat GrpcAction where
  fields := [
    ("port", ⟨(·.port), .required .int32⟩),
    ("service", ⟨(·.service), .text⟩)]
  others := .kept (·.extra)

theorem describes : format.Describes ofJson? toJson where
  nodup := by simp [RecordFormat.names, format]
  reads := by
    refine ⟨_, rfl, fun m => ?_⟩
    iterate 2 refine .field rfl fun _ => ?_
    exact .pure (by and_intros <;> rfl)
  ext := by
    rintro ⟨⟩ ⟨⟩ h hextra
    simpa [format, RecordFormat.extra, and_assoc] using And.intro h hextra
  writes x := by
    simp [format, toJson, RecordFormat.written, RecordFormat.extra]
    rfl

def form : Form GrpcAction := format.form ofJson? toJson fun _ => rfl

end GrpcAction

namespace ExecAction

def format : RecordFormat ExecAction where
  fields := [
    ("command", ⟨(·.command), .list .text⟩)]
  others := .kept (·.extra)

theorem describes : format.Describes ofJson? toJson where
  nodup := by simp [RecordFormat.names, format]
  reads := by
    refine ⟨_, rfl, fun m => ?_⟩
    refine .field rfl fun _ => ?_
    exact .pure (by and_intros <;> rfl)
  ext := by
    rintro ⟨⟩ ⟨⟩ h hextra
    simpa [format, RecordFormat.extra, and_assoc] using And.intro h hextra
  writes x := by
    simp [format, toJson, RecordFormat.written, RecordFormat.extra]
    rfl

def form : Form ExecAction := format.form ofJson? toJson fun _ => rfl

end ExecAction

namespace Probe

def format : RecordFormat Probe where
  fields := [
    ("grpc", ⟨(·.grpc), .optional GrpcAction.form⟩),
    ("exec", ⟨(·.exec), .optional ExecAction.form⟩),
    ("initialDelaySeconds", ⟨(·.initialDelaySeconds), .optional .int32⟩),
    ("periodSeconds", ⟨(·.periodSeconds), .optional .int32⟩),
    ("timeoutSeconds", ⟨(·.timeoutSeconds), .optional .int32⟩),
    ("failureThreshold", ⟨(·.failureThreshold), .optional .int32⟩)]
  others := .kept (·.extra)

theorem describes : format.Describes ofJson? toJson where
  nodup := by simp [RecordFormat.names, format]
  reads := by
    refine ⟨_, rfl, fun m => ?_⟩
    iterate 6 refine .field rfl fun _ => ?_
    exact .pure (by and_intros <;> rfl)
  ext := by
    rintro ⟨⟩ ⟨⟩ h hextra
    simpa [format, RecordFormat.extra, and_assoc] using And.intro h hextra
  writes x := by
    simp [format, toJson, RecordFormat.written, RecordFormat.extra]
    rfl

def form : Form Probe := format.form ofJson? toJson fun _ => rfl

end Probe

namespace LifecycleHandler

def format : RecordFormat LifecycleHandler where
  fields := [
    ("exec", ⟨(·.exec), .optional ExecAction.form⟩)]
  others := .kept (·.extra)

theorem describes : format.Describes ofJson? toJson where
  nodup := by simp [RecordFormat.names, format]
  reads := by
    refine ⟨_, rfl, fun m => ?_⟩
    refine .field rfl fun _ => ?_
    exact .pure (by and_intros <;> rfl)
  ext := by
    rintro ⟨⟩ ⟨⟩ h hextra
    simpa [format, RecordFormat.extra, and_assoc] using And.intro h hextra
  writes x := by
    simp [format, toJson, RecordFormat.written, RecordFormat.extra]
    rfl

def form : Form LifecycleHandler := format.form ofJson? toJson fun _ => rfl

end LifecycleHandler

namespace Lifecycle

def format : RecordFormat Lifecycle where
  fields := [
    ("preStop", ⟨(·.preStop), .optional LifecycleHandler.form⟩)]
  others := .kept (·.extra)

theorem describes : format.Describes ofJson? toJson where
  nodup := by simp [RecordFormat.names, format]
  reads := by
    refine ⟨_, rfl, fun m => ?_⟩
    refine .field rfl fun _ => ?_
    exact .pure (by and_intros <;> rfl)
  ext := by
    rintro ⟨⟩ ⟨⟩ h hextra
    simpa [format, RecordFormat.extra, and_assoc] using And.intro h hextra
  writes x := by
    simp [format, toJson, RecordFormat.written, RecordFormat.extra]
    rfl

def form : Form Lifecycle := format.form ofJson? toJson fun _ => rfl

end Lifecycle

/-! ## Security -/

namespace SecurityProfile

def format : RecordFormat SecurityProfile where
  fields := [
    ("type", ⟨(·.type), .required .text⟩),
    ("localhostProfile", ⟨(·.localhostProfile), .text⟩)]
  others := .kept (·.extra)

theorem describes : format.Describes ofJson? toJson where
  nodup := by simp [RecordFormat.names, format]
  reads := by
    refine ⟨_, rfl, fun m => ?_⟩
    iterate 2 refine .field rfl fun _ => ?_
    exact .pure (by and_intros <;> rfl)
  ext := by
    rintro ⟨⟩ ⟨⟩ h hextra
    simpa [format, RecordFormat.extra, and_assoc] using And.intro h hextra
  writes x := by
    simp [format, toJson, RecordFormat.written, RecordFormat.extra]
    rfl

def form : Form SecurityProfile := format.form ofJson? toJson fun _ => rfl

end SecurityProfile

namespace SecurityContext

def format : RecordFormat SecurityContext where
  fields := [
    ("privileged", ⟨(·.privileged), .optional .flag⟩),
    ("runAsUser", ⟨(·.runAsUser), .optional .int64⟩),
    ("runAsGroup", ⟨(·.runAsGroup), .optional .int64⟩),
    ("runAsNonRoot", ⟨(·.runAsNonRoot), .optional .flag⟩),
    ("seccompProfile", ⟨(·.seccompProfile), .optional SecurityProfile.form⟩),
    ("appArmorProfile", ⟨(·.appArmorProfile), .optional SecurityProfile.form⟩)]
  others := .kept (·.extra)

theorem describes : format.Describes ofJson? toJson where
  nodup := by simp [RecordFormat.names, format]
  reads := by
    refine ⟨_, rfl, fun m => ?_⟩
    iterate 6 refine .field rfl fun _ => ?_
    exact .pure (by and_intros <;> rfl)
  ext := by
    rintro ⟨⟩ ⟨⟩ h hextra
    simpa [format, RecordFormat.extra, and_assoc] using And.intro h hextra
  writes x := by
    simp [format, toJson, RecordFormat.written, RecordFormat.extra]
    rfl

def form : Form SecurityContext := format.form ofJson? toJson fun _ => rfl

end SecurityContext

/-! ## Containers -/

namespace Container

def format : RecordFormat Container where
  fields := [
    ("name", ⟨(·.name), .required .text⟩),
    ("image", ⟨(·.image), .text⟩),
    ("imagePullPolicy", ⟨(·.imagePullPolicy), .text⟩),
    ("command", ⟨(·.command), .list .text⟩),
    ("args", ⟨(·.args), .list .text⟩),
    ("env", ⟨(·.env), .list EnvVar.form⟩),
    ("ports", ⟨(·.ports), .list ContainerPort.form⟩),
    ("volumeMounts", ⟨(·.volumeMounts), .list VolumeMount.form⟩),
    ("resources", ⟨(·.resources), .optional Requirements.form⟩),
    ("readinessProbe", ⟨(·.readinessProbe), .optional Probe.form⟩),
    ("livenessProbe", ⟨(·.livenessProbe), .optional Probe.form⟩),
    ("lifecycle", ⟨(·.lifecycle), .optional Lifecycle.form⟩),
    ("securityContext", ⟨(·.securityContext), .optional SecurityContext.form⟩)]
  others := .kept (·.extra)

theorem describes : format.Describes ofJson? toJson where
  nodup := by simp [RecordFormat.names, format]
  reads := by
    refine ⟨_, rfl, fun m => ?_⟩
    iterate 13 refine .field rfl fun _ => ?_
    exact .pure (by and_intros <;> rfl)
  ext := by
    rintro ⟨⟩ ⟨⟩ h hextra
    simpa [format, RecordFormat.extra, and_assoc] using And.intro h hextra
  writes x := by
    simp [format, toJson, RecordFormat.written, RecordFormat.extra]
    rfl

def form : Form Container := format.form ofJson? toJson fun _ => rfl

end Container

/-! ## Volumes -/

namespace EmptyDirSource

def format : RecordFormat EmptyDirSource where
  fields := [
    ("medium", ⟨(·.medium), .text⟩),
    ("sizeLimit", ⟨(·.sizeLimit), .optional .quantity⟩)]
  others := .kept (·.extra)

theorem describes : format.Describes ofJson? toJson where
  nodup := by simp [RecordFormat.names, format]
  reads := by
    refine ⟨_, rfl, fun m => ?_⟩
    iterate 2 refine .field rfl fun _ => ?_
    exact .pure (by and_intros <;> rfl)
  ext := by
    rintro ⟨⟩ ⟨⟩ h hextra
    simpa [format, RecordFormat.extra, and_assoc] using And.intro h hextra
  writes x := by
    simp [format, toJson, RecordFormat.written, RecordFormat.extra]
    rfl

def form : Form EmptyDirSource := format.form ofJson? toJson fun _ => rfl

end EmptyDirSource

namespace ConfigMapSource

def format : RecordFormat ConfigMapSource where
  fields := [
    ("name", ⟨(·.name), .required .text⟩),
    ("defaultMode", ⟨(·.defaultMode), .optional .int32⟩),
    ("optional", ⟨(·.optional), .optional .flag⟩)]
  others := .kept (·.extra)

theorem describes : format.Describes ofJson? toJson where
  nodup := by simp [RecordFormat.names, format]
  reads := by
    refine ⟨_, rfl, fun m => ?_⟩
    iterate 3 refine .field rfl fun _ => ?_
    exact .pure (by and_intros <;> rfl)
  ext := by
    rintro ⟨⟩ ⟨⟩ h hextra
    simpa [format, RecordFormat.extra, and_assoc] using And.intro h hextra
  writes x := by
    simp [format, toJson, RecordFormat.written, RecordFormat.extra]
    rfl

def form : Form ConfigMapSource := format.form ofJson? toJson fun _ => rfl

end ConfigMapSource

namespace SecretSource

def format : RecordFormat SecretSource where
  fields := [
    ("secretName", ⟨(·.secretName), .required .text⟩),
    ("defaultMode", ⟨(·.defaultMode), .optional .int32⟩)]
  others := .kept (·.extra)

theorem describes : format.Describes ofJson? toJson where
  nodup := by simp [RecordFormat.names, format]
  reads := by
    refine ⟨_, rfl, fun m => ?_⟩
    iterate 2 refine .field rfl fun _ => ?_
    exact .pure (by and_intros <;> rfl)
  ext := by
    rintro ⟨⟩ ⟨⟩ h hextra
    simpa [format, RecordFormat.extra, and_assoc] using And.intro h hextra
  writes x := by
    simp [format, toJson, RecordFormat.written, RecordFormat.extra]
    rfl

def form : Form SecretSource := format.form ofJson? toJson fun _ => rfl

end SecretSource

namespace Volume

def format : RecordFormat Volume where
  fields := [
    ("name", ⟨(·.name), .required .text⟩),
    ("emptyDir", ⟨(·.emptyDir), .optional EmptyDirSource.form⟩),
    ("configMap", ⟨(·.configMap), .optional ConfigMapSource.form⟩),
    ("secret", ⟨(·.secret), .optional SecretSource.form⟩)]
  others := .kept (·.extra)

theorem describes : format.Describes ofJson? toJson where
  nodup := by simp [RecordFormat.names, format]
  reads := by
    refine ⟨_, rfl, fun m => ?_⟩
    iterate 4 refine .field rfl fun _ => ?_
    exact .pure (by and_intros <;> rfl)
  ext := by
    rintro ⟨⟩ ⟨⟩ h hextra
    simpa [format, RecordFormat.extra, and_assoc] using And.intro h hextra
  writes x := by
    simp [format, toJson, RecordFormat.written, RecordFormat.extra]
    rfl

def form : Form Volume := format.form ofJson? toJson fun _ => rfl

end Volume

/-! ## Pods -/

namespace Toleration

def format : RecordFormat Toleration where
  fields := [
    ("key", ⟨(·.key), .text⟩),
    ("operator", ⟨(·.operator), .text⟩),
    ("value", ⟨(·.value), .text⟩),
    ("effect", ⟨(·.effect), .text⟩),
    ("tolerationSeconds", ⟨(·.tolerationSeconds), .optional .int64⟩)]
  others := .kept (·.extra)

theorem describes : format.Describes ofJson? toJson where
  nodup := by simp [RecordFormat.names, format]
  reads := by
    refine ⟨_, rfl, fun m => ?_⟩
    iterate 5 refine .field rfl fun _ => ?_
    exact .pure (by and_intros <;> rfl)
  ext := by
    rintro ⟨⟩ ⟨⟩ h hextra
    simpa [format, RecordFormat.extra, and_assoc] using And.intro h hextra
  writes x := by
    simp [format, toJson, RecordFormat.written, RecordFormat.extra]
    rfl

def form : Form Toleration := format.form ofJson? toJson fun _ => rfl

end Toleration

namespace TopologySpreadConstraint

def format : RecordFormat TopologySpreadConstraint where
  fields := [
    ("topologyKey", ⟨(·.topologyKey), .required .text⟩),
    ("maxSkew", ⟨(·.maxSkew), .optional .int32⟩),
    ("whenUnsatisfiable", ⟨(·.whenUnsatisfiable), .text⟩),
    ("labelSelector", ⟨(·.labelSelector), .optional .freeForm⟩)]
  others := .kept (·.extra)

theorem describes : format.Describes ofJson? toJson where
  nodup := by simp [RecordFormat.names, format]
  reads := by
    refine ⟨_, rfl, fun m => ?_⟩
    iterate 4 refine .field rfl fun _ => ?_
    exact .pure (by and_intros <;> rfl)
  ext := by
    rintro ⟨⟩ ⟨⟩ h hextra
    simpa [format, RecordFormat.extra, and_assoc] using And.intro h hextra
  writes x := by
    simp [format, toJson, RecordFormat.written, RecordFormat.extra]
    rfl

def form : Form TopologySpreadConstraint := format.form ofJson? toJson fun _ => rfl

end TopologySpreadConstraint

namespace LocalReference

def format : RecordFormat LocalReference where
  fields := [
    ("name", ⟨(·.name), .required .text⟩)]
  others := .kept (·.extra)

theorem describes : format.Describes ofJson? toJson where
  nodup := by simp [RecordFormat.names, format]
  reads := by
    refine ⟨_, rfl, fun m => ?_⟩
    refine .field rfl fun _ => ?_
    exact .pure (by and_intros <;> rfl)
  ext := by
    rintro ⟨⟩ ⟨⟩ h hextra
    simpa [format, RecordFormat.extra, and_assoc] using And.intro h hextra
  writes x := by
    simp [format, toJson, RecordFormat.written, RecordFormat.extra]
    rfl

def form : Form LocalReference := format.form ofJson? toJson fun _ => rfl

end LocalReference

namespace PodMeta

def format : RecordFormat PodMeta where
  fields := [
    ("name", ⟨(·.name), .text⟩),
    ("generateName", ⟨(·.generateName), .text⟩),
    ("namespace", ⟨(·.ns), .text⟩),
    ("labels", ⟨(·.labels), .dict .text⟩),
    ("annotations", ⟨(·.annotations), .dict .text⟩)]
  others := .kept (·.extra)

theorem describes : format.Describes ofJson? toJson where
  nodup := by simp [RecordFormat.names, format]
  reads := by
    refine ⟨_, rfl, fun m => ?_⟩
    iterate 5 refine .field rfl fun _ => ?_
    exact .pure (by and_intros <;> rfl)
  ext := by
    rintro ⟨⟩ ⟨⟩ h hextra
    simpa [format, RecordFormat.extra, and_assoc] using And.intro h hextra
  writes x := by
    simp [format, toJson, RecordFormat.written, RecordFormat.extra]
    rfl

def form : Form PodMeta := format.form ofJson? toJson fun _ => rfl

end PodMeta

namespace PodSpec

def format : RecordFormat PodSpec where
  fields := [
    ("containers", ⟨(·.containers), .list Container.form⟩),
    ("initContainers", ⟨(·.initContainers), .list Container.form⟩),
    ("volumes", ⟨(·.volumes), .list Volume.form⟩),
    ("restartPolicy", ⟨(·.restartPolicy), .text⟩),
    ("terminationGracePeriodSeconds", ⟨(·.terminationGracePeriodSeconds), .optional .int64⟩),
    ("activeDeadlineSeconds", ⟨(·.activeDeadlineSeconds), .optional .int64⟩),
    ("serviceAccountName", ⟨(·.serviceAccountName), .text⟩),
    ("nodeSelector", ⟨(·.nodeSelector), .dict .text⟩),
    ("tolerations", ⟨(·.tolerations), .list Toleration.form⟩),
    ("affinity", ⟨(·.affinity), .optional .freeForm⟩),
    ("priorityClassName", ⟨(·.priorityClassName), .text⟩),
    ("topologySpreadConstraints",
      ⟨(·.topologySpreadConstraints), .list TopologySpreadConstraint.form⟩),
    ("hostUsers", ⟨(·.hostUsers), .optional .flag⟩),
    ("imagePullSecrets", ⟨(·.imagePullSecrets), .list LocalReference.form⟩)]
  others := .kept (·.extra)

theorem describes : format.Describes ofJson? toJson where
  nodup := by simp [RecordFormat.names, format]
  reads := by
    refine ⟨_, rfl, fun m => ?_⟩
    iterate 14 refine .field rfl fun _ => ?_
    exact .pure (by and_intros <;> rfl)
  ext := by
    rintro ⟨⟩ ⟨⟩ h hextra
    simpa [format, RecordFormat.extra, and_assoc] using And.intro h hextra
  writes x := by
    simp [format, toJson, RecordFormat.written, RecordFormat.extra]
    rfl

def form : Form PodSpec := format.form ofJson? toJson fun _ => rfl

end PodSpec

namespace Pod

def format : RecordFormat Pod where
  fields := [
    ("metadata", ⟨(·.metadata), .always PodMeta.form {}⟩),
    ("spec", ⟨(·.spec), .always PodSpec.form {}⟩)]
  others := .ignored 0

theorem describes : format.Describes ofJson? toJson where
  nodup := by simp [RecordFormat.names, format]
  reads := by
    refine ⟨_, rfl, fun m => ?_⟩
    iterate 2 refine .field rfl fun _ => ?_
    exact .pure (by and_intros <;> rfl)
  ext := by
    rintro ⟨⟩ ⟨⟩ h _
    simpa [format] using h
  writes x := by
    simp [format, toJson, RecordFormat.written, RecordFormat.extra, FreeForm.empty]
    rfl

def form : Form Pod := format.form ofJson? toJson fun _ => rfl

end Pod

end BuildFleet
