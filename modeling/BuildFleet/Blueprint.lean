import BuildFleet.Admission
import BuildFleet.Pod.Merge
import BuildFleet.Template.Artifact

/-!
# The pod of an instance

The pod is put together from layers, each laid over the ones before:

1. defaults that follow from the template, which everything else may override
   (`daemonDefaults`);
2. the settings of the template (`settingsLayer`);
3. the partial pod of the template, if it has one;
4. the identity of the instance: the start of a name, and a namespace (`identityLayer`).

Resources come last: what the instance asks for is laid over what the layers gave the
daemon's container, and the result is capped by the template's ceiling, lowered by the
instance's own (`effectiveResources`).
-/

namespace BuildFleet

/-- The name of the daemon's container. -/
def daemonContainer : String := "buildkit"

/-- The volume with the daemon's state. -/
def stateVolume : String := "buildkitd"

/-- The volume with the daemon's configuration. -/
def configVolume : String := "config"

/-- The volume with the scripts. -/
def scriptsVolume : String := "scripts"

/-- Where the scripts are mounted. -/
def scriptsPath : String := "/buildkit-scripts"

/-- The mode of scripts, which everyone may run and their owner may change. -/
def scriptsMode : Int := 0o755

/-- The user and group of a daemon without privileges. -/
def rootlessId : Int := 1000

/-- Seconds that builds have to finish when a pod is stopped. -/
def graceSeconds : Int := 900

/-- Where the daemon keeps its state. -/
def statePath (rootless : Bool) : String :=
  if rootless then "/home/user/.local/share/buildkit" else "/var/lib/buildkit"

/-- Where the daemon looks for its configuration. -/
def configPath (rootless : Bool) : String :=
  if rootless then "/home/user/.config/buildkit" else "/etc/buildkit"

/-- A volume with the files of a ConfigMap. -/
def Volume.ofConfigMap (name configMap : String) (mode : Option Int) : Volume :=
  { name, configMap := some { name := configMap, defaultMode := mode } }

/-- A check that asks the daemon on its port. -/
def daemonProbe (port period failures : Int) : Probe where
  grpc := some { port }
  initialDelaySeconds := some 5
  periodSeconds := some period
  failureThreshold := some failures

/-- What the daemon may do: everything, or only what a user without privileges may do. -/
def daemonRights (rootless : Bool) : SecurityContext :=
  if rootless then
    { seccompProfile := some .unconfined
      appArmorProfile := some .unconfined
      runAsUser := some rootlessId
      runAsGroup := some rootlessId }
  else { privileged := some true }

/-- The arguments of the daemon. -/
def daemonArgs (s : TemplateSpec) : List String :=
  ["--addr", "tcp://0.0.0.0:" ++ toString s.port]
    ++ (if s.rootless then ["--oci-worker-no-process-sandbox"] else [])
    ++ (if s.observability.debugLogging then ["--debug"] else [])

/-- The hook that runs the script before the daemon is stopped. -/
def preStopHook : Lifecycle where
  preStop := some {
    exec := some { command := ["/bin/sh", scriptsPath ++ "/" ++ ArtifactKind.scripts.fileName] } }

/-- The volume and mount of an artifact, if the template yields it. -/
def artifactVolume (t : Template) (kind : ArtifactKind) : Option (Volume × VolumeMount) :=
  (Artifact.derive? t kind).map fun a =>
    match kind with
    | .daemonConfig =>
      (.ofConfigMap configVolume a.name none,
        { name := configVolume, mountPath := configPath t.spec.rootless })
    | .scripts =>
      (.ofConfigMap scriptsVolume a.name (some scriptsMode),
        { name := scriptsVolume, mountPath := scriptsPath })

/-- The volumes and mounts of all artifacts of the template. -/
def artifactVolumes (t : Template) : List (Volume × VolumeMount) :=
  ArtifactKind.all.filterMap (artifactVolume t)

/-- The daemon's container before anything overrides it. -/
def daemonDefault (t : Template) : Container :=
  let s := t.spec
  { name := daemonContainer
    image := defaultImage
    args := daemonArgs s
    ports := [{ name := "tcp", containerPort := s.port, protocol := "TCP" }]
    volumeMounts := { name := stateVolume, mountPath := statePath s.rootless }
      :: (artifactVolumes t).map (·.2)
    resources := if s.resources.default.isEmpty then none else some s.resources.default
    readinessProbe := some (daemonProbe s.port 15 2)
    livenessProbe := some (daemonProbe s.port 30 6)
    lifecycle := (Artifact.derive? t .scripts).map fun _ => preStopHook
    securityContext := some (daemonRights s.rootless) }

/-- The label with the name of the application. -/
def appNameLabel : String := "app.kubernetes.io/name"

/-- The first layer, which all others may override. -/
def daemonDefaults (i : Instance) (t : Template) : Pod where
  metadata := {
    labels := (Dict.empty.insert appNameLabel "buildkit").extend i.spec.labels
    annotations := i.spec.annotations }
  spec := {
    containers := [daemonDefault t]
    volumes := { name := stateVolume, emptyDir := some {} } :: (artifactVolumes t).map (·.1)
    restartPolicy := "Never"
    terminationGracePeriodSeconds := some graceSeconds }

/-- The environment for OpenTelemetry. -/
def otlpEnv (o : OtlpSettings) : List EnvVar :=
  { name := "OTEL_SERVICE_NAME", value := o.serviceName }
    :: (if o.resourceAttributes.isEmpty then []
      else [{ name := "OTEL_RESOURCE_ATTRIBUTES", value := o.attributesText }])

/-- The layer with the settings of the template. -/
def settingsLayer (t : Template) : Pod :=
  let s := t.spec
  { metadata := { labels := s.podLabels, annotations := s.podAnnotations }
    spec := {
      containers := [{
        name := daemonContainer
        image := s.image
        imagePullPolicy := s.imagePullPolicy
        command := s.command
        env := match s.observability.otlp with
          | some o => otlpEnv o
          | none => [] }]
      restartPolicy := s.lifecycle.restartPolicy
      terminationGracePeriodSeconds := s.lifecycle.terminationGracePeriodSeconds
      activeDeadlineSeconds := s.lifecycle.activeDeadlineSeconds
      serviceAccountName := s.serviceAccountName
      nodeSelector := s.scheduling.nodeSelector
      tolerations := s.scheduling.tolerations
      affinity := s.scheduling.affinity
      priorityClassName := s.scheduling.priorityClassName
      topologySpreadConstraints := s.scheduling.topologySpreadConstraints
      hostUsers := s.hostUsers } }

/-- The layer that ties the pod to its instance. -/
def identityLayer (i : Instance) : Pod where
  metadata := { generateName := i.name ++ "-", ns := i.ns.getD "" }

/-- The ceiling for an instance of the template. -/
def Instance.ceiling (i : Instance) (t : Template) : ResourceList :=
  ResourceList.tighten t.spec.resources.maximum i.spec.maximum

/-- What the instance asks for laid over what the container has, under the ceiling. -/
def effectiveResources (i : Instance) (t : Template) (current : Requirements) : Requirements :=
  let asked := Requirements.override i.spec.resources current
  if (i.ceiling t).isEmpty then asked else Requirements.withMaximums (i.ceiling t) [asked]

/-- The resources that a container has in the end. -/
def settleResources (i : Instance) (t : Template) (c : Container) : Container :=
  let r := effectiveResources i t (c.resources.getD .empty)
  { c with resources := if r.isEmpty then none else some r }

/-- The layers over the defaults. -/
def podLayers (i : Instance) (t : Template) : List Pod :=
  [settingsLayer t, t.spec.podTemplate.getD .empty, identityLayer i]

/-- The pod of an instance of a template whose defaults are filled in and which breaks no rule. -/
def assemblePod (i : Instance) (t : Template) : Except Failure Pod :=
  match mergeAll (daemonDefaults i t) (podLayers i t) with
  | .error e => .error (.merge e)
  | .ok pod =>
    match pod.container? daemonContainer with
    | none => .error (.internal "buildkit container missing after merge")
    | some _ => .ok (pod.modifyContainer daemonContainer (settleResources i t))

/-- The pod of an instance of a template. The defaults of the template are filled in first,
and one that breaks a rule is refused. -/
def buildPod (i : Instance) (t : Template) : Except Failure Pod :=
  let t := t.withDefaults
  match t.check.result with
  | .error e => .error e
  | .ok _ => assemblePod i t

end BuildFleet
