import BuildFleet.Json.FreeForm
import BuildFleet.Resources.Basic

/-!
# Pods

The part of a pod manifest that daemons are built from. A pod here may be partial: it then
serves as a layer that is laid over another pod. A text, list or map that is empty, and an
optional value that is absent, says nothing.

Every record below the pod itself keeps the members it has no field for in `extra`, so a
manifest may use any part of the pod format.
-/

namespace BuildFleet

/-- A variable in the environment of a container. -/
structure EnvVar where
  /-- Its name. -/
  name : String
  /-- Its value. -/
  value : String := ""
  /-- Other members. -/
  extra : FreeForm := .empty
  deriving Inhabited

/-- A port that a container listens on. -/
structure ContainerPort where
  /-- Its name. -/
  name : String := ""
  /-- Its number. -/
  containerPort : Int
  /-- Its protocol. -/
  protocol : String := ""
  /-- Other members. -/
  extra : FreeForm := .empty
  deriving Inhabited

/-- A volume made visible in a container. -/
structure VolumeMount where
  /-- The volume's name. -/
  name : String
  /-- The path in the container. -/
  mountPath : String
  /-- Whether it cannot be written to. -/
  readOnly : Option Bool := none
  /-- The path within the volume. -/
  subPath : String := ""
  /-- Other members. -/
  extra : FreeForm := .empty
  deriving Inhabited

/-- A health check over gRPC. -/
structure GrpcAction where
  /-- The port asked. -/
  port : Int
  /-- The service asked for. -/
  service : String := ""
  /-- Other members. -/
  extra : FreeForm := .empty
  deriving Inhabited

/-- A command run in a container. -/
structure ExecAction where
  /-- The command line. -/
  command : List String := []
  /-- Other members. -/
  extra : FreeForm := .empty
  deriving Inhabited

/-- A check that is repeated while a container runs. -/
structure Probe where
  /-- Asks over gRPC. -/
  grpc : Option GrpcAction := none
  /-- Runs a command. -/
  exec : Option ExecAction := none
  /-- Seconds before the first check. -/
  initialDelaySeconds : Option Int := none
  /-- Seconds between checks. -/
  periodSeconds : Option Int := none
  /-- Seconds that a check may take. -/
  timeoutSeconds : Option Int := none
  /-- How many checks in a row have to fail. -/
  failureThreshold : Option Int := none
  /-- Other members. -/
  extra : FreeForm := .empty
  deriving Inhabited

/-- What a lifecycle hook does. -/
structure LifecycleHandler where
  /-- Runs a command. -/
  exec : Option ExecAction := none
  /-- Other members. -/
  extra : FreeForm := .empty
  deriving Inhabited

/-- Hooks around the life of a container. -/
structure Lifecycle where
  /-- Run before the container is stopped. -/
  preStop : Option LifecycleHandler := none
  /-- Other members. -/
  extra : FreeForm := .empty
  deriving Inhabited

/-- A seccomp or AppArmor profile. -/
structure SecurityProfile where
  /-- Which kind of profile. -/
  type : String
  /-- The name of a profile of the node. -/
  localhostProfile : String := ""
  /-- Other members. -/
  extra : FreeForm := .empty
  deriving Inhabited

/-- The profile that confines nothing. -/
def SecurityProfile.unconfined : SecurityProfile := ⟨"Unconfined", "", .empty⟩

/-- What a container is allowed to do. -/
structure SecurityContext where
  /-- Whether it has all rights of the node. -/
  privileged : Option Bool := none
  /-- The user it runs as. -/
  runAsUser : Option Int := none
  /-- The group it runs as. -/
  runAsGroup : Option Int := none
  /-- Whether it must not run as root. -/
  runAsNonRoot : Option Bool := none
  /-- Its seccomp profile. -/
  seccompProfile : Option SecurityProfile := none
  /-- Its AppArmor profile. -/
  appArmorProfile : Option SecurityProfile := none
  /-- Other members. -/
  extra : FreeForm := .empty
  deriving Inhabited

/-- A container of a pod. -/
structure Container where
  /-- Its name. -/
  name : String
  /-- Its image. -/
  image : String := ""
  /-- When the image is pulled. -/
  imagePullPolicy : String := ""
  /-- The command in place of the image's own. -/
  command : List String := []
  /-- The arguments of the command. -/
  args : List String := []
  /-- Its environment. -/
  env : List EnvVar := []
  /-- Its ports. -/
  ports : List ContainerPort := []
  /-- Its mounts. -/
  volumeMounts : List VolumeMount := []
  /-- Its resources. -/
  resources : Option Requirements := none
  /-- Tells when it can serve. -/
  readinessProbe : Option Probe := none
  /-- Tells whether it still works. -/
  livenessProbe : Option Probe := none
  /-- Its hooks. -/
  lifecycle : Option Lifecycle := none
  /-- Its rights. -/
  securityContext : Option SecurityContext := none
  /-- Other members. -/
  extra : FreeForm := .empty
  deriving Inhabited

/-- Scratch space that lives as long as the pod. -/
structure EmptyDirSource where
  /-- The medium that backs it. -/
  medium : String := ""
  /-- Its greatest size. -/
  sizeLimit : Option Quantity := none
  /-- Other members. -/
  extra : FreeForm := .empty
  deriving Inhabited

/-- A ConfigMap whose keys appear as files. -/
structure ConfigMapSource where
  /-- The ConfigMap's name. -/
  name : String
  /-- The mode of the files. -/
  defaultMode : Option Int := none
  /-- Whether the ConfigMap may be missing. -/
  optional : Option Bool := none
  /-- Other members. -/
  extra : FreeForm := .empty
  deriving Inhabited

/-- A Secret whose keys appear as files. -/
structure SecretSource where
  /-- The Secret's name. -/
  secretName : String
  /-- The mode of the files. -/
  defaultMode : Option Int := none
  /-- Other members. -/
  extra : FreeForm := .empty
  deriving Inhabited

/-- A volume of a pod. -/
structure Volume where
  /-- Its name. -/
  name : String
  /-- Scratch space. -/
  emptyDir : Option EmptyDirSource := none
  /-- Files from a ConfigMap. -/
  configMap : Option ConfigMapSource := none
  /-- Files from a Secret. -/
  secret : Option SecretSource := none
  /-- Other members. -/
  extra : FreeForm := .empty
  deriving Inhabited

/-- A taint of nodes that a pod puts up with. -/
structure Toleration where
  /-- The taint's key. -/
  key : String := ""
  /-- How key and value are compared. -/
  operator : String := ""
  /-- The taint's value. -/
  value : String := ""
  /-- The taint's effect. -/
  effect : String := ""
  /-- For how many seconds. -/
  tolerationSeconds : Option Int := none
  /-- Other members. -/
  extra : FreeForm := .empty
  deriving Inhabited

/-- How pods are spread over the nodes. -/
structure TopologySpreadConstraint where
  /-- The node label whose values are the domains. -/
  topologyKey : String
  /-- The greatest difference between domains. -/
  maxSkew : Option Int := none
  /-- What happens when the constraint cannot be met. -/
  whenUnsatisfiable : String := ""
  /-- The pods that are counted. -/
  labelSelector : Option FreeForm := none
  /-- Other members. -/
  extra : FreeForm := .empty
  deriving Inhabited

/-- The name of an object in the same namespace. -/
structure LocalReference where
  /-- The name. -/
  name : String
  /-- Other members. -/
  extra : FreeForm := .empty
  deriving Inhabited

/-- What a pod is called and marked with. -/
structure PodMeta where
  /-- Its name. -/
  name : String := ""
  /-- The start of a name that the API server completes. -/
  generateName : String := ""
  /-- Its namespace. -/
  ns : String := ""
  /-- Its labels. -/
  labels : Dict String := .empty
  /-- Its annotations. -/
  annotations : Dict String := .empty
  /-- Other members. -/
  extra : FreeForm := .empty
  deriving Inhabited

/-- What a pod consists of. -/
structure PodSpec where
  /-- Its containers. -/
  containers : List Container := []
  /-- Containers run before the others. -/
  initContainers : List Container := []
  /-- Its volumes. -/
  volumes : List Volume := []
  /-- When containers are started again. -/
  restartPolicy : String := ""
  /-- Seconds it may take to stop. -/
  terminationGracePeriodSeconds : Option Int := none
  /-- Seconds it may run. -/
  activeDeadlineSeconds : Option Int := none
  /-- The account it runs as. -/
  serviceAccountName : String := ""
  /-- Labels that its node has to have. -/
  nodeSelector : Dict String := .empty
  /-- Taints it puts up with. -/
  tolerations : List Toleration := []
  /-- Rules for the choice of its node. -/
  affinity : Option FreeForm := none
  /-- The name of its priority class. -/
  priorityClassName : String := ""
  /-- How it is spread over the nodes. -/
  topologySpreadConstraints : List TopologySpreadConstraint := []
  /-- Whether it shares the user namespace of its node. -/
  hostUsers : Option Bool := none
  /-- Secrets for pulling images. -/
  imagePullSecrets : List LocalReference := []
  /-- Other members. -/
  extra : FreeForm := .empty
  deriving Inhabited

/-- A pod, or a layer of one. -/
structure Pod where
  /-- Its names and marks. -/
  metadata : PodMeta := {}
  /-- Its contents. -/
  spec : PodSpec := {}
  deriving Inhabited

namespace Pod

/-- The pod that says nothing. -/
def empty : Pod := {}

/-- The first container with the name. -/
def container? (p : Pod) (name : String) : Option Container :=
  p.spec.containers.find? fun c => c.name == name

/-- Changes the first container with the name, if there is one. -/
def modifyContainer (p : Pod) (name : String) (f : Container → Container) : Pod :=
  { p with spec := { p.spec with containers := go p.spec.containers } }
where
  /-- The list with its first container of the name changed. -/
  go : List Container → List Container
    | [] => []
    | c :: rest => if c.name = name then f c :: rest else c :: go rest

end Pod

end BuildFleet
