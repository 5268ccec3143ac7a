import BuildFleet.Merge.FreeForm
import BuildFleet.Pod.Basic

/-!
# Laying pods over one another

Containers, init containers, volumes and image pull secrets are keyed by name, environment
variables by name, ports by number, mounts by path, and spread constraints by topology key.
Commands, arguments and tolerations are replaced as a whole. The members of a record merge
in the order of its fields, and the members without a field come last, under the rules for
free-form JSON.
-/

namespace BuildFleet

/-- A variable is known by its name. -/
def EnvVar.mergeKey (v : EnvVar) : String := v.name

instance : Mergeable EnvVar where
  merge base layer := Layering.run do
    return { base with
      value := ← Layering.field "value" base.value layer.value
      extra := ← Layering.rest base.extra layer.extra }

/-- A port is known by its number. -/
def ContainerPort.mergeKey (v : ContainerPort) : String := toString v.containerPort

instance : Mergeable ContainerPort where
  merge base layer := Layering.run do
    return { base with
      name := ← Layering.field "name" base.name layer.name
      protocol := ← Layering.field "protocol" base.protocol layer.protocol
      extra := ← Layering.rest base.extra layer.extra }

/-- A mount is known by its path. -/
def VolumeMount.mergeKey (v : VolumeMount) : String := v.mountPath

instance : Mergeable VolumeMount where
  merge base layer := Layering.run do
    return { base with
      name := ← Layering.field "name" base.name layer.name
      readOnly := ← Layering.field "readOnly" base.readOnly layer.readOnly
      subPath := ← Layering.field "subPath" base.subPath layer.subPath
      extra := ← Layering.rest base.extra layer.extra }

/-- A port of zero says nothing. -/
instance : Mergeable GrpcAction where
  merge base layer := Layering.run do
    return {
      port := if layer.port = 0 then base.port else layer.port
      service := ← Layering.field "service" base.service layer.service
      extra := ← Layering.rest base.extra layer.extra }

instance : Mergeable ExecAction where
  merge base layer := Layering.run do
    return {
      command := ← Layering.atomicField base.command layer.command
      extra := ← Layering.rest base.extra layer.extra }

instance : Mergeable Probe where
  merge base layer := Layering.run do
    return {
      grpc := ← Layering.field "grpc" base.grpc layer.grpc
      exec := ← Layering.field "exec" base.exec layer.exec
      initialDelaySeconds := ← Layering.field "initialDelaySeconds"
        base.initialDelaySeconds layer.initialDelaySeconds
      periodSeconds := ← Layering.field "periodSeconds" base.periodSeconds layer.periodSeconds
      timeoutSeconds := ← Layering.field "timeoutSeconds" base.timeoutSeconds layer.timeoutSeconds
      failureThreshold := ← Layering.field "failureThreshold"
        base.failureThreshold layer.failureThreshold
      extra := ← Layering.rest base.extra layer.extra }

instance : Mergeable LifecycleHandler where
  merge base layer := Layering.run do
    return {
      exec := ← Layering.field "exec" base.exec layer.exec
      extra := ← Layering.rest base.extra layer.extra }

instance : Mergeable Lifecycle where
  merge base layer := Layering.run do
    return {
      preStop := ← Layering.field "preStop" base.preStop layer.preStop
      extra := ← Layering.rest base.extra layer.extra }

instance : Mergeable SecurityProfile where
  merge base layer := Layering.run do
    return {
      type := ← Layering.field "type" base.type layer.type
      localhostProfile := ← Layering.field "localhostProfile"
        base.localhostProfile layer.localhostProfile
      extra := ← Layering.rest base.extra layer.extra }

instance : Mergeable SecurityContext where
  merge base layer := Layering.run do
    return {
      privileged := ← Layering.field "privileged" base.privileged layer.privileged
      runAsUser := ← Layering.field "runAsUser" base.runAsUser layer.runAsUser
      runAsGroup := ← Layering.field "runAsGroup" base.runAsGroup layer.runAsGroup
      runAsNonRoot := ← Layering.field "runAsNonRoot" base.runAsNonRoot layer.runAsNonRoot
      seccompProfile := ← Layering.field "seccompProfile" base.seccompProfile layer.seccompProfile
      appArmorProfile := ← Layering.field "appArmorProfile"
        base.appArmorProfile layer.appArmorProfile
      extra := ← Layering.rest base.extra layer.extra }

/-- A container is known by its name. -/
def Container.mergeKey (v : Container) : String := v.name

instance : Mergeable Container where
  merge base layer := Layering.run do
    return {
      name := ← Layering.field "name" base.name layer.name
      image := ← Layering.field "image" base.image layer.image
      imagePullPolicy := ← Layering.field "imagePullPolicy"
        base.imagePullPolicy layer.imagePullPolicy
      command := ← Layering.atomicField base.command layer.command
      args := ← Layering.atomicField base.args layer.args
      env := ← Layering.keyedField "env" EnvVar.mergeKey base.env layer.env
      ports := ← Layering.keyedField "ports" ContainerPort.mergeKey base.ports layer.ports
      volumeMounts := ← Layering.keyedField "volumeMounts" VolumeMount.mergeKey
        base.volumeMounts layer.volumeMounts
      resources := ← Layering.field "resources" base.resources layer.resources
      readinessProbe := ← Layering.field "readinessProbe" base.readinessProbe layer.readinessProbe
      livenessProbe := ← Layering.field "livenessProbe" base.livenessProbe layer.livenessProbe
      lifecycle := ← Layering.field "lifecycle" base.lifecycle layer.lifecycle
      securityContext := ← Layering.field "securityContext"
        base.securityContext layer.securityContext
      extra := ← Layering.rest base.extra layer.extra }

instance : Mergeable EmptyDirSource where
  merge base layer := Layering.run do
    return {
      medium := ← Layering.field "medium" base.medium layer.medium
      sizeLimit := ← Layering.field "sizeLimit" base.sizeLimit layer.sizeLimit
      extra := ← Layering.rest base.extra layer.extra }

instance : Mergeable ConfigMapSource where
  merge base layer := Layering.run do
    return {
      name := ← Layering.field "name" base.name layer.name
      defaultMode := ← Layering.field "defaultMode" base.defaultMode layer.defaultMode
      optional := ← Layering.field "optional" base.optional layer.optional
      extra := ← Layering.rest base.extra layer.extra }

instance : Mergeable SecretSource where
  merge base layer := Layering.run do
    return {
      secretName := ← Layering.field "secretName" base.secretName layer.secretName
      defaultMode := ← Layering.field "defaultMode" base.defaultMode layer.defaultMode
      extra := ← Layering.rest base.extra layer.extra }

/-- A volume is known by its name. -/
def Volume.mergeKey (v : Volume) : String := v.name

instance : Mergeable Volume where
  merge base layer := Layering.run do
    return { base with
      emptyDir := ← Layering.field "emptyDir" base.emptyDir layer.emptyDir
      configMap := ← Layering.field "configMap" base.configMap layer.configMap
      secret := ← Layering.field "secret" base.secret layer.secret
      extra := ← Layering.rest base.extra layer.extra }

/-- A spread constraint is known by its topology key. -/
def TopologySpreadConstraint.mergeKey (v : TopologySpreadConstraint) : String := v.topologyKey

instance : Mergeable TopologySpreadConstraint where
  merge base layer := Layering.run do
    return { base with
      maxSkew := ← Layering.field "maxSkew" base.maxSkew layer.maxSkew
      whenUnsatisfiable := ← Layering.field "whenUnsatisfiable"
        base.whenUnsatisfiable layer.whenUnsatisfiable
      labelSelector := ← Layering.field "labelSelector" base.labelSelector layer.labelSelector
      extra := ← Layering.rest base.extra layer.extra }

/-- A reference is known by its name. -/
def LocalReference.mergeKey (v : LocalReference) : String := v.name

instance : Mergeable LocalReference where
  merge base layer := Layering.run do
    return { base with
      extra := ← Layering.rest base.extra layer.extra }

instance : Mergeable PodMeta where
  merge base layer := Layering.run do
    return {
      name := ← Layering.field "name" base.name layer.name
      generateName := ← Layering.field "generateName" base.generateName layer.generateName
      ns := ← Layering.field "namespace" base.ns layer.ns
      labels := ← Layering.field "labels" base.labels layer.labels
      annotations := ← Layering.field "annotations" base.annotations layer.annotations
      extra := ← Layering.rest base.extra layer.extra }

instance : Mergeable PodSpec where
  merge base layer := Layering.run do
    return {
      containers := ← Layering.keyedField "containers" Container.mergeKey
        base.containers layer.containers
      initContainers := ← Layering.keyedField "initContainers" Container.mergeKey
        base.initContainers layer.initContainers
      volumes := ← Layering.keyedField "volumes" Volume.mergeKey base.volumes layer.volumes
      restartPolicy := ← Layering.field "restartPolicy" base.restartPolicy layer.restartPolicy
      terminationGracePeriodSeconds := ← Layering.field "terminationGracePeriodSeconds"
        base.terminationGracePeriodSeconds layer.terminationGracePeriodSeconds
      activeDeadlineSeconds := ← Layering.field "activeDeadlineSeconds"
        base.activeDeadlineSeconds layer.activeDeadlineSeconds
      serviceAccountName := ← Layering.field "serviceAccountName"
        base.serviceAccountName layer.serviceAccountName
      nodeSelector := ← Layering.field "nodeSelector" base.nodeSelector layer.nodeSelector
      tolerations := ← Layering.atomicField base.tolerations layer.tolerations
      affinity := ← Layering.field "affinity" base.affinity layer.affinity
      priorityClassName := ← Layering.field "priorityClassName"
        base.priorityClassName layer.priorityClassName
      topologySpreadConstraints := ← Layering.keyedField "topologySpreadConstraints"
        TopologySpreadConstraint.mergeKey base.topologySpreadConstraints
        layer.topologySpreadConstraints
      hostUsers := ← Layering.field "hostUsers" base.hostUsers layer.hostUsers
      imagePullSecrets := ← Layering.keyedField "imagePullSecrets" LocalReference.mergeKey
        base.imagePullSecrets layer.imagePullSecrets
      extra := ← Layering.rest base.extra layer.extra }

instance : Mergeable Pod where
  merge base layer := Layering.run do
    return {
      metadata := ← Layering.field "metadata" base.metadata layer.metadata
      spec := ← Layering.field "spec" base.spec layer.spec }

end BuildFleet
