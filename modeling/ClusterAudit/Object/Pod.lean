/-
Pods: containers, volumes and the settings of the pod as a whole, as far as
some check looks at them. Where only the presence of a part matters, presence
is all that is kept.
-/
import ClusterAudit.Metadata

namespace ClusterAudit

/-- Where the value of an environment variable is taken from. -/
structure EnvSource where
  configMap : Option String := none
  secret : Option String := none

/-- A whole config map or secret taken over into the environment. -/
structure EnvBulk where
  configMap : Option String := none
  secret : Option String := none

structure ResourceNeeds where
  requests : StringMap := {}
  limits : StringMap := {}

structure ContainerSecurity where
  privileged : Option Bool := none
  runAsNonRoot : Option Bool := none
  allowPrivilegeEscalation : Option Bool := none

structure Container where
  name : String := ""
  image : Option String := none
  hasLivenessProbe : Bool := false
  hasReadinessProbe : Bool := false
  resources : ResourceNeeds := {}
  security : ContainerSecurity := {}
  /-- The sources of those environment variables that have one. -/
  env : List EnvSource := []
  envFrom : List EnvBulk := []

/-- One source of a projected volume. -/
structure Projection where
  configMap : Option String := none
  secret : Option String := none

structure Volume where
  name : String := ""
  hasHostPath : Bool := false
  configMap : Option String := none
  secret : Option String := none
  claim : Option String := none
  projected : List Projection := []

structure PodSpec where
  containers : List Container := []
  initContainers : List Container := []
  volumes : List Volume := []
  imagePullSecrets : List String := []
  nodeName : Option String := none
  nodeSelector : StringMap := {}
  hostNetwork : Option Bool := none
  hostPID : Option Bool := none
  hostIPC : Option Bool := none
  runAsNonRoot : Option Bool := none

namespace PodSpec

/-- The containers that prepare the pod, then the others. -/
def allContainers (s : PodSpec) : List Container := s.initContainers ++ s.containers

end PodSpec

structure Pod where
  metadata : Metadata := {}
  spec : Option PodSpec := none

namespace Pod

/-- No containers for a pod without a specification. -/
def containers (p : Pod) : List Container :=
  match p.spec with
  | some s => s.allContainers
  | none => []

end Pod

structure PodTemplate where
  metadata : Metadata := {}
  /-- The specification of the pods it makes. -/
  spec : Option PodSpec := none

end ClusterAudit
