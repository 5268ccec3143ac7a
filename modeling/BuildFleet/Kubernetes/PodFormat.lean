import BuildFleet.Kubernetes.Shape

/-!
# The pod format of the API

The fields of pods in version `v1` of the Kubernetes API, release 1.32, as tables. The
tables follow the published schema: a field is `required` where the schema requires it or
gives it a default that is always written, and `optional` elsewhere.
-/

namespace BuildFleet.PodFormat

open Shape

/-- A list of texts. -/
def strings : Shape := .list .string

/-- A map from texts to texts. -/
def stringMap : Shape := .map .string

/-- Quantities by resource name. The API takes them as texts only. -/
def quantities : Shape := .map .string

/-- An owner of an object. -/
def ownerReference : Shape := .object [
  required "apiVersion" .string, optional "blockOwnerDeletion" .boolean,
  optional "controller" .boolean, required "kind" .string, required "name" .string,
  required "uid" .string]

/-- The metadata of an object. -/
def objectMeta : Shape := .object [
  optional "annotations" stringMap, optional "creationTimestamp" .time,
  optional "deletionGracePeriodSeconds" .int64, optional "deletionTimestamp" .time,
  optional "finalizers" strings, optional "generateName" .string, optional "generation" .int64,
  optional "labels" stringMap,
  optional "managedFields" (.list (.object [
    optional "apiVersion" .string, optional "fieldsType" .string, optional "fieldsV1" .any,
    optional "manager" .string, optional "operation" .string, optional "subresource" .string,
    optional "time" .time])),
  optional "name" .string, optional "namespace" .string,
  optional "ownerReferences" (.list ownerReference), optional "resourceVersion" .string,
  optional "selfLink" .string, optional "uid" .string]

/-- A requirement on a label or field. -/
def selectorRequirement : Shape := .object [
  required "key" .string, required "operator" .string, optional "values" strings]

/-- A choice of objects by their labels. -/
def labelSelector : Shape := .object [
  optional "matchExpressions" (.list selectorRequirement), optional "matchLabels" stringMap]

/-- A choice of nodes. -/
def nodeSelectorTerm : Shape := .object [
  optional "matchExpressions" (.list selectorRequirement),
  optional "matchFields" (.list selectorRequirement)]

/-- A choice of pods and a domain of nodes. -/
def podAffinityTerm : Shape := .object [
  optional "labelSelector" labelSelector, optional "matchLabelKeys" strings,
  optional "mismatchLabelKeys" strings, optional "namespaceSelector" labelSelector,
  optional "namespaces" strings, required "topologyKey" .string]

/-- Rules about the pods nearby. -/
def podAffinity : Shape := .object [
  optional "preferredDuringSchedulingIgnoredDuringExecution" (.list (.object [
    required "podAffinityTerm" podAffinityTerm, required "weight" .int32])),
  optional "requiredDuringSchedulingIgnoredDuringExecution" (.list podAffinityTerm)]

/-- Rules for the choice of a node. -/
def affinity : Shape := .object [
  optional "nodeAffinity" (.object [
    optional "preferredDuringSchedulingIgnoredDuringExecution" (.list (.object [
      required "preference" nodeSelectorTerm, required "weight" .int32])),
    optional "requiredDuringSchedulingIgnoredDuringExecution" (.object [
      required "nodeSelectorTerms" (.list nodeSelectorTerm)])]),
  optional "podAffinity" podAffinity, optional "podAntiAffinity" podAffinity]

/-- A reference to an object in the same namespace. -/
def localReference : Shape := .object [required "name" .string]

/-- A reference to a whole map of values. -/
def envSource : Shape := .object [required "name" .string, optional "optional" .boolean]

/-- A reference to one key of a map of values. -/
def keySelector : Shape := .object [
  required "key" .string, required "name" .string, optional "optional" .boolean]

/-- A reference to a field of the pod. -/
def fieldSelector : Shape := .object [optional "apiVersion" .string, required "fieldPath" .string]

/-- A reference to a resource of a container. -/
def resourceFieldSelector : Shape := .object [
  optional "containerName" .string, optional "divisor" .string, required "resource" .string]

/-- A variable of an environment. -/
def envVar : Shape := .object [
  required "name" .string, optional "value" .string,
  optional "valueFrom" (.object [
    optional "configMapKeyRef" keySelector, optional "fieldRef" fieldSelector,
    optional "resourceFieldRef" resourceFieldSelector, optional "secretKeyRef" keySelector])]

/-- Variables taken from a map of values. -/
def envFrom : Shape := .object [
  optional "configMapRef" envSource, optional "prefix" .string, optional "secretRef" envSource]

/-- A command to run. -/
def execAction : Shape := .object [optional "command" strings]

/-- A request to send. -/
def httpGetAction : Shape := .object [
  optional "host" .string,
  optional "httpHeaders" (.list (.object [required "name" .string, required "value" .string])),
  optional "path" .string, required "port" .intOrString, optional "scheme" .string]

/-- A port to connect to. -/
def tcpSocketAction : Shape := .object [optional "host" .string, required "port" .intOrString]

/-- The action of a hook. -/
def lifecycleHandler : Shape := .object [
  optional "exec" execAction, optional "httpGet" httpGetAction,
  optional "sleep" (.object [required "seconds" .int64]), optional "tcpSocket" tcpSocketAction]

/-- The hooks of a container. -/
def lifecycle : Shape := .object [
  optional "postStart" lifecycleHandler, optional "preStop" lifecycleHandler]

/-- A repeated check. -/
def probe : Shape := .object [
  optional "exec" execAction, optional "failureThreshold" .int32,
  optional "grpc" (.object [required "port" .int32, optional "service" .string]),
  optional "httpGet" httpGetAction, optional "initialDelaySeconds" .int32,
  optional "periodSeconds" .int32, optional "successThreshold" .int32,
  optional "tcpSocket" tcpSocketAction, optional "terminationGracePeriodSeconds" .int64,
  optional "timeoutSeconds" .int32]

/-- A port of a container. -/
def containerPort : Shape := .object [
  required "containerPort" .int32, optional "hostIP" .string, optional "hostPort" .int32,
  optional "name" .string, optional "protocol" .string]

/-- Resources asked for. -/
def resourceRequirements : Shape := .object [
  optional "claims" (.list (.object [required "name" .string, optional "request" .string])),
  optional "limits" quantities, optional "requests" quantities]

/-- A seccomp or AppArmor profile. -/
def securityProfile : Shape := .object [
  optional "localhostProfile" .string, required "type" .string]

/-- Labels for SELinux. -/
def seLinuxOptions : Shape := .object [
  optional "level" .string, optional "role" .string, optional "type" .string,
  optional "user" .string]

/-- Settings for containers on Windows. -/
def windowsOptions : Shape := .object [
  optional "gmsaCredentialSpec" .string, optional "gmsaCredentialSpecName" .string,
  optional "hostProcess" .boolean, optional "runAsUserName" .string]

/-- The rights of a container. -/
def securityContext : Shape := .object [
  optional "allowPrivilegeEscalation" .boolean, optional "appArmorProfile" securityProfile,
  optional "capabilities" (.object [optional "add" strings, optional "drop" strings]),
  optional "privileged" .boolean, optional "procMount" .string,
  optional "readOnlyRootFilesystem" .boolean, optional "runAsGroup" .int64,
  optional "runAsNonRoot" .boolean, optional "runAsUser" .int64,
  optional "seLinuxOptions" seLinuxOptions, optional "seccompProfile" securityProfile,
  optional "windowsOptions" windowsOptions]

/-- The rights shared by the containers of a pod. -/
def podSecurityContext : Shape := .object [
  optional "appArmorProfile" securityProfile, optional "fsGroup" .int64,
  optional "fsGroupChangePolicy" .string, optional "runAsGroup" .int64,
  optional "runAsNonRoot" .boolean, optional "runAsUser" .int64,
  optional "seLinuxChangePolicy" .string, optional "seLinuxOptions" seLinuxOptions,
  optional "seccompProfile" securityProfile, optional "supplementalGroups" (.list .int64),
  optional "supplementalGroupsPolicy" .string,
  optional "sysctls" (.list (.object [required "name" .string, required "value" .string])),
  optional "windowsOptions" windowsOptions]

/-- A mount of a volume. -/
def volumeMount : Shape := .object [
  required "mountPath" .string, optional "mountPropagation" .string, required "name" .string,
  optional "readOnly" .boolean, optional "recursiveReadOnly" .string, optional "subPath" .string,
  optional "subPathExpr" .string]

/-- The fields of a container. -/
def containerFields : List (String × Bool × Shape) := [
  optional "args" strings, optional "command" strings, optional "env" (.list envVar),
  optional "envFrom" (.list envFrom), optional "image" .string,
  optional "imagePullPolicy" .string, optional "lifecycle" lifecycle,
  optional "livenessProbe" probe, required "name" .string,
  optional "ports" (.list containerPort), optional "readinessProbe" probe,
  optional "resizePolicy" (.list (.object [
    required "resourceName" .string, required "restartPolicy" .string])),
  optional "resources" resourceRequirements, optional "restartPolicy" .string,
  optional "securityContext" securityContext, optional "startupProbe" probe,
  optional "stdin" .boolean, optional "stdinOnce" .boolean,
  optional "terminationMessagePath" .string, optional "terminationMessagePolicy" .string,
  optional "tty" .boolean,
  optional "volumeDevices" (.list (.object [
    required "devicePath" .string, required "name" .string])),
  optional "volumeMounts" (.list volumeMount), optional "workingDir" .string]

/-- A container. -/
def container : Shape := .object containerFields

/-- A container added to a running pod. -/
def ephemeralContainer : Shape :=
  .object (containerFields ++ [optional "targetContainerName" .string])

/-- A key and the file it appears as. -/
def keyToPath : Shape := .object [
  required "key" .string, optional "mode" .int32, required "path" .string]

/-- A file with something known about the pod. -/
def downwardFile : Shape := .object [
  optional "fieldRef" fieldSelector, optional "mode" .int32, required "path" .string,
  optional "resourceFieldRef" resourceFieldSelector]

/-- A source of files inside a projected volume. -/
def volumeProjection : Shape := .object [
  optional "clusterTrustBundle" (.object [
    optional "labelSelector" labelSelector, optional "name" .string, optional "optional" .boolean,
    required "path" .string, optional "signerName" .string]),
  optional "configMap" (.object [
    optional "items" (.list keyToPath), required "name" .string, optional "optional" .boolean]),
  optional "downwardAPI" (.object [optional "items" (.list downwardFile)]),
  optional "secret" (.object [
    optional "items" (.list keyToPath), required "name" .string, optional "optional" .boolean]),
  optional "serviceAccountToken" (.object [
    optional "audience" .string, optional "expirationSeconds" .int64, required "path" .string])]

/-- A claim for storage. -/
def volumeClaim : Shape := .object [
  optional "accessModes" strings,
  optional "dataSource" (.object [
    optional "apiGroup" .string, required "kind" .string, required "name" .string]),
  optional "dataSourceRef" (.object [
    optional "apiGroup" .string, required "kind" .string, required "name" .string,
    optional "namespace" .string]),
  optional "resources" (.object [optional "limits" quantities, optional "requests" quantities]),
  optional "selector" labelSelector, optional "storageClassName" .string,
  optional "volumeAttributesClassName" .string, optional "volumeMode" .string,
  optional "volumeName" .string]

/-- A volume. -/
def volume : Shape := .object [
  optional "awsElasticBlockStore" (.object [
    optional "fsType" .string, optional "partition" .int32, optional "readOnly" .boolean,
    required "volumeID" .string]),
  optional "azureDisk" (.object [
    optional "cachingMode" .string, required "diskName" .string, required "diskURI" .string,
    optional "fsType" .string, optional "kind" .string, optional "readOnly" .boolean]),
  optional "azureFile" (.object [
    optional "readOnly" .boolean, required "secretName" .string, required "shareName" .string]),
  optional "cephfs" (.object [
    required "monitors" strings, optional "path" .string, optional "readOnly" .boolean,
    optional "secretFile" .string, optional "secretRef" localReference, optional "user" .string]),
  optional "cinder" (.object [
    optional "fsType" .string, optional "readOnly" .boolean, optional "secretRef" localReference,
    required "volumeID" .string]),
  optional "configMap" (.object [
    optional "defaultMode" .int32, optional "items" (.list keyToPath), required "name" .string,
    optional "optional" .boolean]),
  optional "csi" (.object [
    required "driver" .string, optional "fsType" .string,
    optional "nodePublishSecretRef" localReference, optional "readOnly" .boolean,
    optional "volumeAttributes" stringMap]),
  optional "downwardAPI" (.object [
    optional "defaultMode" .int32, optional "items" (.list downwardFile)]),
  optional "emptyDir" (.object [optional "medium" .string, optional "sizeLimit" .string]),
  optional "ephemeral" (.object [
    optional "volumeClaimTemplate" (.object [
      optional "metadata" objectMeta, required "spec" volumeClaim])]),
  optional "fc" (.object [
    optional "fsType" .string, optional "lun" .int32, optional "readOnly" .boolean,
    optional "targetWWNs" strings, optional "wwids" strings]),
  optional "flexVolume" (.object [
    required "driver" .string, optional "fsType" .string, optional "options" stringMap,
    optional "readOnly" .boolean, optional "secretRef" localReference]),
  optional "flocker" (.object [optional "datasetName" .string, optional "datasetUUID" .string]),
  optional "gcePersistentDisk" (.object [
    optional "fsType" .string, optional "partition" .int32, required "pdName" .string,
    optional "readOnly" .boolean]),
  optional "gitRepo" (.object [
    optional "directory" .string, required "repository" .string, optional "revision" .string]),
  optional "glusterfs" (.object [
    required "endpoints" .string, required "path" .string, optional "readOnly" .boolean]),
  optional "hostPath" (.object [required "path" .string, optional "type" .string]),
  optional "image" (.object [optional "pullPolicy" .string, optional "reference" .string]),
  optional "iscsi" (.object [
    optional "chapAuthDiscovery" .boolean, optional "chapAuthSession" .boolean,
    optional "fsType" .string, optional "initiatorName" .string, required "iqn" .string,
    optional "iscsiInterface" .string, required "lun" .int32, optional "portals" strings,
    optional "readOnly" .boolean, optional "secretRef" localReference,
    required "targetPortal" .string]),
  required "name" .string,
  optional "nfs" (.object [
    required "path" .string, optional "readOnly" .boolean, required "server" .string]),
  optional "persistentVolumeClaim" (.object [
    required "claimName" .string, optional "readOnly" .boolean]),
  optional "photonPersistentDisk" (.object [optional "fsType" .string, required "pdID" .string]),
  optional "portworxVolume" (.object [
    optional "fsType" .string, optional "readOnly" .boolean, required "volumeID" .string]),
  optional "projected" (.object [
    optional "defaultMode" .int32, optional "sources" (.list volumeProjection)]),
  optional "quobyte" (.object [
    optional "group" .string, optional "readOnly" .boolean, required "registry" .string,
    optional "tenant" .string, optional "user" .string, required "volume" .string]),
  optional "rbd" (.object [
    optional "fsType" .string, required "image" .string, optional "keyring" .string,
    required "monitors" strings, optional "pool" .string, optional "readOnly" .boolean,
    optional "secretRef" localReference, optional "user" .string]),
  optional "scaleIO" (.object [
    optional "fsType" .string, required "gateway" .string, optional "protectionDomain" .string,
    optional "readOnly" .boolean, required "secretRef" localReference,
    optional "sslEnabled" .boolean, optional "storageMode" .string,
    optional "storagePool" .string, required "system" .string, optional "volumeName" .string]),
  optional "secret" (.object [
    optional "defaultMode" .int32, optional "items" (.list keyToPath),
    optional "optional" .boolean, optional "secretName" .string]),
  optional "storageos" (.object [
    optional "fsType" .string, optional "readOnly" .boolean, optional "secretRef" localReference,
    optional "volumeName" .string, optional "volumeNamespace" .string]),
  optional "vsphereVolume" (.object [
    optional "fsType" .string, optional "storagePolicyID" .string,
    optional "storagePolicyName" .string, required "volumePath" .string])]

/-- A taint that is put up with. -/
def toleration : Shape := .object [
  optional "effect" .string, optional "key" .string, optional "operator" .string,
  optional "tolerationSeconds" .int64, optional "value" .string]

/-- How pods are spread over the nodes. -/
def topologySpreadConstraint : Shape := .object [
  optional "labelSelector" labelSelector, optional "matchLabelKeys" strings,
  required "maxSkew" .int32, optional "minDomains" .int32, optional "nodeAffinityPolicy" .string,
  optional "nodeTaintsPolicy" .string, required "topologyKey" .string,
  required "whenUnsatisfiable" .string]

/-- What a pod consists of. -/
def podSpec : Shape := .object [
  optional "activeDeadlineSeconds" .int64, optional "affinity" affinity,
  optional "automountServiceAccountToken" .boolean, required "containers" (.list container),
  optional "dnsConfig" (.object [
    optional "nameservers" strings,
    optional "options" (.list (.object [optional "name" .string, optional "value" .string])),
    optional "searches" strings]),
  optional "dnsPolicy" .string, optional "enableServiceLinks" .boolean,
  optional "ephemeralContainers" (.list ephemeralContainer),
  optional "hostAliases" (.list (.object [optional "hostnames" strings, required "ip" .string])),
  optional "hostIPC" .boolean, optional "hostNetwork" .boolean, optional "hostPID" .boolean,
  optional "hostUsers" .boolean, optional "hostname" .string,
  optional "imagePullSecrets" (.list localReference),
  optional "initContainers" (.list container), optional "nodeName" .string,
  optional "nodeSelector" stringMap, optional "os" (.object [required "name" .string]),
  optional "overhead" quantities, optional "preemptionPolicy" .string, optional "priority" .int32,
  optional "priorityClassName" .string,
  optional "readinessGates" (.list (.object [required "conditionType" .string])),
  optional "resourceClaims" (.list (.object [
    required "name" .string, optional "resourceClaimName" .string,
    optional "resourceClaimTemplateName" .string])),
  optional "resources" resourceRequirements, optional "restartPolicy" .string,
  optional "runtimeClassName" .string, optional "schedulerName" .string,
  optional "schedulingGates" (.list (.object [required "name" .string])),
  optional "securityContext" podSecurityContext, optional "serviceAccount" .string,
  optional "serviceAccountName" .string, optional "setHostnameAsFQDN" .boolean,
  optional "shareProcessNamespace" .boolean, optional "subdomain" .string,
  optional "terminationGracePeriodSeconds" .int64, optional "tolerations" (.list toleration),
  optional "topologySpreadConstraints" (.list topologySpreadConstraint),
  optional "volumes" (.list volume)]

/-- What a container is doing. -/
def containerState : Shape := .object [
  optional "running" (.object [optional "startedAt" .time]),
  optional "terminated" (.object [
    optional "containerID" .string, required "exitCode" .int32, optional "finishedAt" .time,
    optional "message" .string, optional "reason" .string, optional "signal" .int32,
    optional "startedAt" .time]),
  optional "waiting" (.object [optional "message" .string, optional "reason" .string])]

/-- What is known about a container. -/
def containerStatus : Shape := .object [
  optional "allocatedResources" quantities,
  optional "allocatedResourcesStatus" (.list (.object [
    required "name" .string,
    optional "resources" (.list (.object [
      optional "health" .string, required "resourceID" .string]))])),
  optional "containerID" .string, required "image" .string, required "imageID" .string,
  optional "lastState" containerState, required "name" .string, required "ready" .boolean,
  optional "resources" resourceRequirements, required "restartCount" .int32,
  optional "started" .boolean, optional "state" containerState,
  optional "user" (.object [
    optional "linux" (.object [
      required "gid" .int64, optional "supplementalGroups" (.list .int64),
      required "uid" .int64])]),
  optional "volumeMounts" (.list (.object [
    required "mountPath" .string, required "name" .string, optional "readOnly" .boolean,
    optional "recursiveReadOnly" .string]))]

/-- What is known about a pod. -/
def podStatus : Shape := .object [
  optional "conditions" (.list (.object [
    optional "lastProbeTime" .time, optional "lastTransitionTime" .time,
    optional "message" .string, optional "reason" .string, required "status" .string,
    required "type" .string])),
  optional "containerStatuses" (.list containerStatus),
  optional "ephemeralContainerStatuses" (.list containerStatus), optional "hostIP" .string,
  optional "hostIPs" (.list (.object [required "ip" .string])),
  optional "initContainerStatuses" (.list containerStatus), optional "message" .string,
  optional "nominatedNodeName" .string, optional "phase" .string, optional "podIP" .string,
  optional "podIPs" (.list (.object [required "ip" .string])), optional "qosClass" .string,
  optional "reason" .string, optional "resize" .string,
  optional "resourceClaimStatuses" (.list (.object [
    required "name" .string, optional "resourceClaimName" .string])),
  optional "startTime" .time]

end BuildFleet.PodFormat
