import BuildFleet.Pod.Basic

/-!
# Pods in JSON

How pods and their parts are read and written. A part that says nothing is not written, and
reading a pod without it gives that part back, so what is written reads as the pod it came
from. Members without a field are kept in `extra` and written beside the others.
-/

namespace BuildFleet

namespace EnvVar

/-- The members with a field of their own. -/
def names : List String :=
  ["name", "value"]

/-- Reads an environment variable. -/
def ofJson? (j : Json) : Option EnvVar := do
  let m ← Members.ofOpen? j
  return {
    name := ← m.required? "name" Json.text?
    value := ← m.getD? "value" Json.text? ""
    extra := FreeForm.ofMembers (m.without names) }

/-- Writes an environment variable. -/
def toJson (v : EnvVar) : Json :=
  Json.ofFields (Members.always "name" (.str v.name)
    ++ Members.text "value" v.value
    ++ v.extra.fields)

end EnvVar

namespace ContainerPort

/-- The members with a field of their own. -/
def names : List String :=
  ["name", "containerPort", "protocol"]

/-- Reads a port. -/
def ofJson? (j : Json) : Option ContainerPort := do
  let m ← Members.ofOpen? j
  return {
    name := ← m.getD? "name" Json.text? ""
    containerPort := ← m.required? "containerPort" Json.int32?
    protocol := ← m.getD? "protocol" Json.text? ""
    extra := FreeForm.ofMembers (m.without names) }

/-- Writes a port. -/
def toJson (v : ContainerPort) : Json :=
  Json.ofFields (Members.text "name" v.name
    ++ Members.always "containerPort" (.int v.containerPort)
    ++ Members.text "protocol" v.protocol
    ++ v.extra.fields)

end ContainerPort

namespace VolumeMount

/-- The members with a field of their own. -/
def names : List String :=
  ["name", "mountPath", "readOnly", "subPath"]

/-- Reads a mount. -/
def ofJson? (j : Json) : Option VolumeMount := do
  let m ← Members.ofOpen? j
  return {
    name := ← m.required? "name" Json.text?
    mountPath := ← m.required? "mountPath" Json.text?
    readOnly := ← m.optional? "readOnly" Json.bool?
    subPath := ← m.getD? "subPath" Json.text? ""
    extra := FreeForm.ofMembers (m.without names) }

/-- Writes a mount. -/
def toJson (v : VolumeMount) : Json :=
  Json.ofFields (Members.always "name" (.str v.name)
    ++ Members.always "mountPath" (.str v.mountPath)
    ++ Members.option "readOnly" Json.bool v.readOnly
    ++ Members.text "subPath" v.subPath
    ++ v.extra.fields)

end VolumeMount

namespace GrpcAction

/-- The members with a field of their own. -/
def names : List String :=
  ["port", "service"]

/-- Reads a gRPC check. -/
def ofJson? (j : Json) : Option GrpcAction := do
  let m ← Members.ofOpen? j
  return {
    port := ← m.required? "port" Json.int32?
    service := ← m.getD? "service" Json.text? ""
    extra := FreeForm.ofMembers (m.without names) }

/-- Writes a gRPC check. -/
def toJson (v : GrpcAction) : Json :=
  Json.ofFields (Members.always "port" (.int v.port)
    ++ Members.text "service" v.service
    ++ v.extra.fields)

end GrpcAction

namespace ExecAction

/-- The members with a field of their own. -/
def names : List String :=
  ["command"]

/-- Reads a command. -/
def ofJson? (j : Json) : Option ExecAction := do
  let m ← Members.ofOpen? j
  return {
    command := ← m.getD? "command" (Json.listOf? Json.text?) []
    extra := FreeForm.ofMembers (m.without names) }

/-- Writes a command. -/
def toJson (v : ExecAction) : Json :=
  Json.ofFields (Members.list "command" Json.str v.command
    ++ v.extra.fields)

end ExecAction

namespace Probe

/-- The members with a field of their own. -/
def names : List String :=
  ["grpc", "exec", "initialDelaySeconds", "periodSeconds", "timeoutSeconds", "failureThreshold"]

/-- Reads a probe. -/
def ofJson? (j : Json) : Option Probe := do
  let m ← Members.ofOpen? j
  return {
    grpc := ← m.optional? "grpc" GrpcAction.ofJson?
    exec := ← m.optional? "exec" ExecAction.ofJson?
    initialDelaySeconds := ← m.optional? "initialDelaySeconds" Json.int32?
    periodSeconds := ← m.optional? "periodSeconds" Json.int32?
    timeoutSeconds := ← m.optional? "timeoutSeconds" Json.int32?
    failureThreshold := ← m.optional? "failureThreshold" Json.int32?
    extra := FreeForm.ofMembers (m.without names) }

/-- Writes a probe. -/
def toJson (v : Probe) : Json :=
  Json.ofFields (Members.option "grpc" GrpcAction.toJson v.grpc
    ++ Members.option "exec" ExecAction.toJson v.exec
    ++ Members.option "initialDelaySeconds" Json.int v.initialDelaySeconds
    ++ Members.option "periodSeconds" Json.int v.periodSeconds
    ++ Members.option "timeoutSeconds" Json.int v.timeoutSeconds
    ++ Members.option "failureThreshold" Json.int v.failureThreshold
    ++ v.extra.fields)

end Probe

namespace LifecycleHandler

/-- The members with a field of their own. -/
def names : List String :=
  ["exec"]

/-- Reads the action of a hook. -/
def ofJson? (j : Json) : Option LifecycleHandler := do
  let m ← Members.ofOpen? j
  return {
    exec := ← m.optional? "exec" ExecAction.ofJson?
    extra := FreeForm.ofMembers (m.without names) }

/-- Writes the action of a hook. -/
def toJson (v : LifecycleHandler) : Json :=
  Json.ofFields (Members.option "exec" ExecAction.toJson v.exec
    ++ v.extra.fields)

end LifecycleHandler

namespace Lifecycle

/-- The members with a field of their own. -/
def names : List String :=
  ["preStop"]

/-- Reads the hooks of a container. -/
def ofJson? (j : Json) : Option Lifecycle := do
  let m ← Members.ofOpen? j
  return {
    preStop := ← m.optional? "preStop" LifecycleHandler.ofJson?
    extra := FreeForm.ofMembers (m.without names) }

/-- Writes the hooks of a container. -/
def toJson (v : Lifecycle) : Json :=
  Json.ofFields (Members.option "preStop" LifecycleHandler.toJson v.preStop
    ++ v.extra.fields)

end Lifecycle

namespace SecurityProfile

/-- The members with a field of their own. -/
def names : List String :=
  ["type", "localhostProfile"]

/-- Reads a profile. -/
def ofJson? (j : Json) : Option SecurityProfile := do
  let m ← Members.ofOpen? j
  return {
    type := ← m.required? "type" Json.text?
    localhostProfile := ← m.getD? "localhostProfile" Json.text? ""
    extra := FreeForm.ofMembers (m.without names) }

/-- Writes a profile. -/
def toJson (v : SecurityProfile) : Json :=
  Json.ofFields (Members.always "type" (.str v.type)
    ++ Members.text "localhostProfile" v.localhostProfile
    ++ v.extra.fields)

end SecurityProfile

namespace SecurityContext

/-- The members with a field of their own. -/
def names : List String :=
  ["privileged", "runAsUser", "runAsGroup", "runAsNonRoot", "seccompProfile", "appArmorProfile"]

/-- Reads the rights of a container. -/
def ofJson? (j : Json) : Option SecurityContext := do
  let m ← Members.ofOpen? j
  return {
    privileged := ← m.optional? "privileged" Json.bool?
    runAsUser := ← m.optional? "runAsUser" Json.int64?
    runAsGroup := ← m.optional? "runAsGroup" Json.int64?
    runAsNonRoot := ← m.optional? "runAsNonRoot" Json.bool?
    seccompProfile := ← m.optional? "seccompProfile" SecurityProfile.ofJson?
    appArmorProfile := ← m.optional? "appArmorProfile" SecurityProfile.ofJson?
    extra := FreeForm.ofMembers (m.without names) }

/-- Writes the rights of a container. -/
def toJson (v : SecurityContext) : Json :=
  Json.ofFields (Members.option "privileged" Json.bool v.privileged
    ++ Members.option "runAsUser" Json.int v.runAsUser
    ++ Members.option "runAsGroup" Json.int v.runAsGroup
    ++ Members.option "runAsNonRoot" Json.bool v.runAsNonRoot
    ++ Members.option "seccompProfile" SecurityProfile.toJson v.seccompProfile
    ++ Members.option "appArmorProfile" SecurityProfile.toJson v.appArmorProfile
    ++ v.extra.fields)

end SecurityContext

namespace Container

/-- The members with a field of their own. -/
def names : List String :=
  ["name", "image", "imagePullPolicy", "command", "args", "env", "ports", "volumeMounts",
    "resources", "readinessProbe", "livenessProbe", "lifecycle", "securityContext"]

/-- Reads a container. -/
def ofJson? (j : Json) : Option Container := do
  let m ← Members.ofOpen? j
  return {
    name := ← m.required? "name" Json.text?
    image := ← m.getD? "image" Json.text? ""
    imagePullPolicy := ← m.getD? "imagePullPolicy" Json.text? ""
    command := ← m.getD? "command" (Json.listOf? Json.text?) []
    args := ← m.getD? "args" (Json.listOf? Json.text?) []
    env := ← m.getD? "env" (Json.listOf? EnvVar.ofJson?) []
    ports := ← m.getD? "ports" (Json.listOf? ContainerPort.ofJson?) []
    volumeMounts := ← m.getD? "volumeMounts" (Json.listOf? VolumeMount.ofJson?) []
    resources := ← m.optional? "resources" Requirements.ofJson?
    readinessProbe := ← m.optional? "readinessProbe" Probe.ofJson?
    livenessProbe := ← m.optional? "livenessProbe" Probe.ofJson?
    lifecycle := ← m.optional? "lifecycle" Lifecycle.ofJson?
    securityContext := ← m.optional? "securityContext" SecurityContext.ofJson?
    extra := FreeForm.ofMembers (m.without names) }

/-- Writes a container. -/
def toJson (v : Container) : Json :=
  Json.ofFields (Members.always "name" (.str v.name)
    ++ Members.text "image" v.image
    ++ Members.text "imagePullPolicy" v.imagePullPolicy
    ++ Members.list "command" Json.str v.command
    ++ Members.list "args" Json.str v.args
    ++ Members.list "env" EnvVar.toJson v.env
    ++ Members.list "ports" ContainerPort.toJson v.ports
    ++ Members.list "volumeMounts" VolumeMount.toJson v.volumeMounts
    ++ Members.option "resources" Requirements.toJson v.resources
    ++ Members.option "readinessProbe" Probe.toJson v.readinessProbe
    ++ Members.option "livenessProbe" Probe.toJson v.livenessProbe
    ++ Members.option "lifecycle" Lifecycle.toJson v.lifecycle
    ++ Members.option "securityContext" SecurityContext.toJson v.securityContext
    ++ v.extra.fields)

end Container

namespace EmptyDirSource

/-- The members with a field of their own. -/
def names : List String :=
  ["medium", "sizeLimit"]

/-- Reads scratch space. -/
def ofJson? (j : Json) : Option EmptyDirSource := do
  let m ← Members.ofOpen? j
  return {
    medium := ← m.getD? "medium" Json.text? ""
    sizeLimit := ← m.optional? "sizeLimit" Quantity.ofJson?
    extra := FreeForm.ofMembers (m.without names) }

/-- Writes scratch space. -/
def toJson (v : EmptyDirSource) : Json :=
  Json.ofFields (Members.text "medium" v.medium
    ++ Members.option "sizeLimit" Quantity.toJson v.sizeLimit
    ++ v.extra.fields)

end EmptyDirSource

namespace ConfigMapSource

/-- The members with a field of their own. -/
def names : List String :=
  ["name", "defaultMode", "optional"]

/-- Reads a ConfigMap source. -/
def ofJson? (j : Json) : Option ConfigMapSource := do
  let m ← Members.ofOpen? j
  return {
    name := ← m.required? "name" Json.text?
    defaultMode := ← m.optional? "defaultMode" Json.int32?
    optional := ← m.optional? "optional" Json.bool?
    extra := FreeForm.ofMembers (m.without names) }

/-- Writes a ConfigMap source. -/
def toJson (v : ConfigMapSource) : Json :=
  Json.ofFields (Members.always "name" (.str v.name)
    ++ Members.option "defaultMode" Json.int v.defaultMode
    ++ Members.option "optional" Json.bool v.optional
    ++ v.extra.fields)

end ConfigMapSource

namespace SecretSource

/-- The members with a field of their own. -/
def names : List String :=
  ["secretName", "defaultMode"]

/-- Reads a Secret source. -/
def ofJson? (j : Json) : Option SecretSource := do
  let m ← Members.ofOpen? j
  return {
    secretName := ← m.required? "secretName" Json.text?
    defaultMode := ← m.optional? "defaultMode" Json.int32?
    extra := FreeForm.ofMembers (m.without names) }

/-- Writes a Secret source. -/
def toJson (v : SecretSource) : Json :=
  Json.ofFields (Members.always "secretName" (.str v.secretName)
    ++ Members.option "defaultMode" Json.int v.defaultMode
    ++ v.extra.fields)

end SecretSource

namespace Volume

/-- The members with a field of their own. -/
def names : List String :=
  ["name", "emptyDir", "configMap", "secret"]

/-- Reads a volume. -/
def ofJson? (j : Json) : Option Volume := do
  let m ← Members.ofOpen? j
  return {
    name := ← m.required? "name" Json.text?
    emptyDir := ← m.optional? "emptyDir" EmptyDirSource.ofJson?
    configMap := ← m.optional? "configMap" ConfigMapSource.ofJson?
    secret := ← m.optional? "secret" SecretSource.ofJson?
    extra := FreeForm.ofMembers (m.without names) }

/-- Writes a volume. -/
def toJson (v : Volume) : Json :=
  Json.ofFields (Members.always "name" (.str v.name)
    ++ Members.option "emptyDir" EmptyDirSource.toJson v.emptyDir
    ++ Members.option "configMap" ConfigMapSource.toJson v.configMap
    ++ Members.option "secret" SecretSource.toJson v.secret
    ++ v.extra.fields)

end Volume

namespace Toleration

/-- The members with a field of their own. -/
def names : List String :=
  ["key", "operator", "value", "effect", "tolerationSeconds"]

/-- Reads a toleration. -/
def ofJson? (j : Json) : Option Toleration := do
  let m ← Members.ofOpen? j
  return {
    key := ← m.getD? "key" Json.text? ""
    operator := ← m.getD? "operator" Json.text? ""
    value := ← m.getD? "value" Json.text? ""
    effect := ← m.getD? "effect" Json.text? ""
    tolerationSeconds := ← m.optional? "tolerationSeconds" Json.int64?
    extra := FreeForm.ofMembers (m.without names) }

/-- Writes a toleration. -/
def toJson (v : Toleration) : Json :=
  Json.ofFields (Members.text "key" v.key
    ++ Members.text "operator" v.operator
    ++ Members.text "value" v.value
    ++ Members.text "effect" v.effect
    ++ Members.option "tolerationSeconds" Json.int v.tolerationSeconds
    ++ v.extra.fields)

end Toleration

namespace TopologySpreadConstraint

/-- The members with a field of their own. -/
def names : List String :=
  ["topologyKey", "maxSkew", "whenUnsatisfiable", "labelSelector"]

/-- Reads a spread constraint. -/
def ofJson? (j : Json) : Option TopologySpreadConstraint := do
  let m ← Members.ofOpen? j
  return {
    topologyKey := ← m.required? "topologyKey" Json.text?
    maxSkew := ← m.optional? "maxSkew" Json.int32?
    whenUnsatisfiable := ← m.getD? "whenUnsatisfiable" Json.text? ""
    labelSelector := ← m.optional? "labelSelector" FreeForm.ofJson?
    extra := FreeForm.ofMembers (m.without names) }

/-- Writes a spread constraint. -/
def toJson (v : TopologySpreadConstraint) : Json :=
  Json.ofFields (Members.always "topologyKey" (.str v.topologyKey)
    ++ Members.option "maxSkew" Json.int v.maxSkew
    ++ Members.text "whenUnsatisfiable" v.whenUnsatisfiable
    ++ Members.option "labelSelector" FreeForm.toJson v.labelSelector
    ++ v.extra.fields)

end TopologySpreadConstraint

namespace LocalReference

/-- The members with a field of their own. -/
def names : List String :=
  ["name"]

/-- Reads a reference. -/
def ofJson? (j : Json) : Option LocalReference := do
  let m ← Members.ofOpen? j
  return {
    name := ← m.required? "name" Json.text?
    extra := FreeForm.ofMembers (m.without names) }

/-- Writes a reference. -/
def toJson (v : LocalReference) : Json :=
  Json.ofFields (Members.always "name" (.str v.name)
    ++ v.extra.fields)

end LocalReference

namespace PodMeta

/-- The members with a field of their own. -/
def names : List String :=
  ["name", "generateName", "namespace", "labels", "annotations"]

/-- Reads the metadata of a pod. -/
def ofJson? (j : Json) : Option PodMeta := do
  let m ← Members.ofOpen? j
  return {
    name := ← m.getD? "name" Json.text? ""
    generateName := ← m.getD? "generateName" Json.text? ""
    ns := ← m.getD? "namespace" Json.text? ""
    labels := ← m.getD? "labels" (Json.dictOf? Json.text?) .empty
    annotations := ← m.getD? "annotations" (Json.dictOf? Json.text?) .empty
    extra := FreeForm.ofMembers (m.without names) }

/-- Writes the metadata of a pod. -/
def toJson (v : PodMeta) : Json :=
  Json.ofFields (Members.text "name" v.name
    ++ Members.text "generateName" v.generateName
    ++ Members.text "namespace" v.ns
    ++ Members.dict "labels" Json.str v.labels
    ++ Members.dict "annotations" Json.str v.annotations
    ++ v.extra.fields)

end PodMeta

namespace PodSpec

/-- The members with a field of their own. -/
def names : List String :=
  ["containers", "initContainers", "volumes", "restartPolicy", "terminationGracePeriodSeconds",
    "activeDeadlineSeconds", "serviceAccountName", "nodeSelector", "tolerations", "affinity",
    "priorityClassName", "topologySpreadConstraints", "hostUsers", "imagePullSecrets"]

/-- Reads the contents of a pod. -/
def ofJson? (j : Json) : Option PodSpec := do
  let m ← Members.ofOpen? j
  return {
    containers := ← m.getD? "containers" (Json.listOf? Container.ofJson?) []
    initContainers := ← m.getD? "initContainers" (Json.listOf? Container.ofJson?) []
    volumes := ← m.getD? "volumes" (Json.listOf? Volume.ofJson?) []
    restartPolicy := ← m.getD? "restartPolicy" Json.text? ""
    terminationGracePeriodSeconds := ← m.optional? "terminationGracePeriodSeconds" Json.int64?
    activeDeadlineSeconds := ← m.optional? "activeDeadlineSeconds" Json.int64?
    serviceAccountName := ← m.getD? "serviceAccountName" Json.text? ""
    nodeSelector := ← m.getD? "nodeSelector" (Json.dictOf? Json.text?) .empty
    tolerations := ← m.getD? "tolerations" (Json.listOf? Toleration.ofJson?) []
    affinity := ← m.optional? "affinity" FreeForm.ofJson?
    priorityClassName := ← m.getD? "priorityClassName" Json.text? ""
    topologySpreadConstraints := ← m.getD? "topologySpreadConstraints"
      (Json.listOf? TopologySpreadConstraint.ofJson?) []
    hostUsers := ← m.optional? "hostUsers" Json.bool?
    imagePullSecrets := ← m.getD? "imagePullSecrets" (Json.listOf? LocalReference.ofJson?) []
    extra := FreeForm.ofMembers (m.without names) }

/-- Writes the contents of a pod. -/
def toJson (v : PodSpec) : Json :=
  Json.ofFields (Members.list "containers" Container.toJson v.containers
    ++ Members.list "initContainers" Container.toJson v.initContainers
    ++ Members.list "volumes" Volume.toJson v.volumes
    ++ Members.text "restartPolicy" v.restartPolicy
    ++ Members.option "terminationGracePeriodSeconds" Json.int v.terminationGracePeriodSeconds
    ++ Members.option "activeDeadlineSeconds" Json.int v.activeDeadlineSeconds
    ++ Members.text "serviceAccountName" v.serviceAccountName
    ++ Members.dict "nodeSelector" Json.str v.nodeSelector
    ++ Members.list "tolerations" Toleration.toJson v.tolerations
    ++ Members.option "affinity" FreeForm.toJson v.affinity
    ++ Members.text "priorityClassName" v.priorityClassName
    ++ Members.list "topologySpreadConstraints" TopologySpreadConstraint.toJson
      v.topologySpreadConstraints
    ++ Members.option "hostUsers" Json.bool v.hostUsers
    ++ Members.list "imagePullSecrets" LocalReference.toJson v.imagePullSecrets
    ++ v.extra.fields)

end PodSpec

namespace Pod

/-- Reads a pod; either part may be left out. -/
def ofJson? (j : Json) : Option Pod := do
  let m ← Members.ofClosed? ["metadata", "spec"] 0 j
  return {
    metadata := ← m.getD? "metadata" PodMeta.ofJson? {}
    spec := ← m.getD? "spec" PodSpec.ofJson? {} }

/-- Writes a pod; both parts are always there. -/
def toJson (v : Pod) : Json :=
  Json.ofFields (Members.always "metadata" v.metadata.toJson ++ Members.always "spec" v.spec.toJson)

end Pod

end BuildFleet
