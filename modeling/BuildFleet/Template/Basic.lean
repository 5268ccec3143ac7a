import BuildFleet.Kubernetes.ObjectMeta
import BuildFleet.Instance.Basic
import BuildFleet.Pod.Basic

/-!
# Daemon templates

A template is the shape that all instances of it share: image, port, daemon configuration,
execution mode, scheduling, lifecycle, and the resource defaults and ceiling. It may carry a
partial pod that is laid over everything else.
-/

namespace BuildFleet

/-- The port a daemon listens on unless the template has another. -/
def defaultPort : Int := 1234

/-- The image of a daemon unless the template has another. -/
def defaultImage : String := "moby/buildkit:latest"

/-- Resource defaults and ceiling for the instances of a template. -/
structure TemplateResources where
  /-- What an instance gets that asks for nothing. -/
  default : Requirements := .empty
  /-- The greatest limits that an instance can get. -/
  maximum : ResourceList := .empty
  deriving Inhabited

/-- Where pods may run. -/
structure TemplateScheduling where
  /-- Labels that the node has to have. -/
  nodeSelector : Dict String := .empty
  /-- Taints that are put up with. -/
  tolerations : List Toleration := []
  /-- Rules for the choice of a node. -/
  affinity : Option FreeForm := none
  /-- The name of the priority class. -/
  priorityClassName : String := ""
  /-- How pods are spread over the nodes. -/
  topologySpreadConstraints : List TopologySpreadConstraint := []
  deriving Inhabited

/-- How pods start and end. -/
structure TemplateLifecycle where
  /-- Whether instances need an owner. -/
  requireOwner : Bool := false
  /-- When containers are started again. -/
  restartPolicy : String := ""
  /-- Seconds a pod may take to stop. -/
  terminationGracePeriodSeconds : Option Int := none
  /-- Seconds a pod may run. -/
  activeDeadlineSeconds : Option Int := none
  /-- Whether a pod waits for its builds before it stops. -/
  preStopScript : Bool := false
  deriving Inhabited

/-- Settings for OpenTelemetry, which the daemon takes from its environment. -/
structure OtlpSettings where
  /-- The name the daemon reports. -/
  serviceName : String
  /-- Attributes that it reports. -/
  resourceAttributes : Dict String := .empty
  deriving Inhabited

/-- The attributes as the environment holds them: key and value with an equals sign between
them, parted by commas, in key order. -/
def OtlpSettings.attributesText (o : OtlpSettings) : String :=
  ",".intercalate (o.resourceAttributes.entries.map fun e => e.1 ++ "=" ++ e.2)

/-- Logs and traces. -/
structure TemplateObservability where
  /-- Whether the daemon logs more than usual. -/
  debugLogging : Bool := false
  /-- Where traces go. -/
  otlp : Option OtlpSettings := none
  deriving Inhabited

/-- What a template says. -/
structure TemplateSpec where
  /-- Labels of every pod. -/
  podLabels : Dict String := .empty
  /-- Annotations of every pod. -/
  podAnnotations : Dict String := .empty
  /-- Whether the daemon runs without privileges. -/
  rootless : Bool := false
  /-- The port the daemon listens on. -/
  port : Int := defaultPort
  /-- The text of the daemon's configuration file. -/
  buildkitdToml : String := ""
  /-- The image of the daemon. -/
  image : String := ""
  /-- When the image is pulled. -/
  imagePullPolicy : String := ""
  /-- Resource defaults and ceiling. -/
  resources : TemplateResources := {}
  /-- The command in place of the image's own. -/
  command : List String := []
  /-- The account pods run as. -/
  serviceAccountName : String := ""
  /-- Where pods may run. -/
  scheduling : TemplateScheduling := {}
  /-- How pods start and end. -/
  lifecycle : TemplateLifecycle := {}
  /-- Logs and traces. -/
  observability : TemplateObservability := {}
  /-- Whether pods share the user namespace of their node. -/
  hostUsers : Option Bool := none
  /-- A partial pod laid over everything else. -/
  podTemplate : Option Pod := none
  deriving Inhabited

/-- How a template is doing. -/
structure TemplateStatus where
  /-- What holds of it. -/
  conditions : List Condition := []
  /-- The objects published for it. -/
  refs : List ManagedRef := []
  /-- The generation of the specification that the status speaks of. -/
  observedGeneration : Option Int := none
  deriving DecidableEq, Inhabited

/-- Sets one condition. -/
def TemplateStatus.withCondition (s : TemplateStatus) (c : Condition) : TemplateStatus :=
  { s with conditions := Condition.set s.conditions c }

/-- The shape that instances are built from. -/
structure Template where
  /-- Its metadata. -/
  metadata : ObjectMeta := {}
  /-- What it says. -/
  spec : TemplateSpec
  /-- How it is doing. -/
  status : Option TemplateStatus := none
  deriving Inhabited

namespace Template

/-- The kind of templates in the API. -/
def kind : String := "BuildkitTemplate"

/-- What the template is called. -/
def name (t : Template) : String := t.metadata.displayName

/-- Its namespace, if it has one. -/
def ns (t : Template) : Option String := t.metadata.ns

/-- The template as the owner of objects; it needs a name and an identifier for that. -/
def owner (t : Template) : Option OwnerReference := do
  return ⟨apiVersion, kind, ← t.metadata.name, ← t.metadata.uid, some true, none⟩

end Template

end BuildFleet
