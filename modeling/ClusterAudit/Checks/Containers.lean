/-
Rules about single containers: their images, resources, probes and privileges.
Each of them looks at containers one by one, in the light of the pod they are
in.
-/
import ClusterAudit.Check
import ClusterAudit.Image

namespace ClusterAudit.Checks

/-- One fault, worded by `message`, for each of the containers that `atFault`
holds of. -/
def containerFaults (containers : List Container) (atFault : Container → Bool)
    (message : Container → String) : List String :=
  (containers.filter atFault).map message

/-- The faults of all containers of all pods; those that prepare a pod come
first. -/
def containerFindings (s : Snapshot) (atFault : PodSpec → Container → Bool)
    (message : Container → String) : List Finding :=
  s.findings .pod fun p =>
    p.spec.elim [] fun spec => containerFaults spec.allContainers (atFault spec) message

/-! ## Images -/

def fullyQualifiedImage : Rule where
  name := "fully-qualified-image"
  groups := ["basic"]
  description := "Checks for container images without a registry domain"
  severity := .suggestion
  kinds := [.pod]
  findings s := containerFindings s
    (fun _ c => c.image.any fun i => !(Image.parse i).isFullyQualified)
    (fun c => "Use fully qualified image for container '" ++ c.name ++ "'")

def latestTag : Rule where
  name := "latest-tag"
  groups := ["basic"]
  description := "Checks for container images using the latest tag"
  severity := .warning
  kinds := [.pod]
  findings s := containerFindings s
    (fun _ c => c.image.any fun i => (Image.parse i).isLatest)
    (fun c => "Avoid latest tag for container '" ++ c.name ++ "'")

/-! ## Resources and probes -/

def resourceRequirements : Rule where
  name := "resource-requirements"
  groups := ["basic"]
  description := "Checks for containers without resource requests or limits"
  severity := .warning
  kinds := [.pod]
  findings s := containerFindings s
    (fun _ c => c.resources.requests.isEmpty && c.resources.limits.isEmpty)
    (fun c =>
      "Set resource requests and limits for container '" ++ c.name ++
        "' to prevent resource contention")

/-- Containers that prepare a pod are not probed, and nor are pods that nothing
would replace. -/
def missingProbes : Rule where
  name := "missing-probes"
  groups := ["basic"]
  description := "Checks for containers with neither a liveness nor a readiness probe"
  severity := .suggestion
  kinds := [.pod]
  findings s := s.findings .pod fun p =>
    if p.metadata.owners.isEmpty then []
    else p.spec.elim [] fun spec => containerFaults spec.containers
      (fun c => !c.hasLivenessProbe && !c.hasReadinessProbe)
      (fun c => "Container '" ++ c.name ++ "' has no liveness or readiness probe")

/-! ## Privileges -/

def privilegedContainers : Rule where
  name := "privileged-containers"
  groups := ["security"]
  description := "Checks for containers running in privileged mode"
  severity := .warning
  kinds := [.pod]
  findings s := containerFindings s
    (fun _ c => c.security.privileged == some true)
    (fun c => "Privileged container '" ++ c.name ++ "' found")

/-- Whether a container must not run as root: what it says itself counts, and
else what its pod says. -/
def runsAsNonRoot (spec : PodSpec) (c : Container) : Bool :=
  (c.security.runAsNonRoot <|> spec.runAsNonRoot) == some true

def nonRootUser : Rule where
  name := "non-root-user"
  groups := ["security"]
  description := "Checks for containers that do not enforce a non-root user"
  severity := .warning
  kinds := [.pod]
  findings s := containerFindings s
    (fun spec c => !runsAsNonRoot spec c)
    (fun c => "Container '" ++ c.name ++ "' can run as root user")

def privilegeEscalation : Rule where
  name := "privilege-escalation"
  groups := ["security"]
  description := "Checks for containers that allow privilege escalation"
  severity := .suggestion
  kinds := [.pod]
  findings s := containerFindings s
    (fun _ c => c.security.allowPrivilegeEscalation != some false)
    (fun c => "Set allowPrivilegeEscalation to false for container '" ++ c.name ++ "'")

end ClusterAudit.Checks
