/-
Rules about pods as a whole: who owns them, where they run, and what they
share with their host.
-/
import ClusterAudit.Check

namespace ClusterAudit.Checks

/-- Whether a node runs the pod of its own accord. Such a pod carries an
annotation, or ends its name with a hyphen and the name of its node. -/
def isStatic (nodes : List Node) (p : Pod) : Bool :=
  p.metadata.annotations.contains "kubernetes.io/config.mirror" ||
  match p.spec.bind (·.nodeName) with
  | some node =>
    ("-" ++ node).toList.isSuffixOf p.metadata.name.toList &&
      nodes.any fun n => n.metadata.name? == some node
  | none => false

def barePods : Rule where
  name := "bare-pods"
  groups := ["basic"]
  description := "Checks for pods without an owning controller"
  severity := .warning
  kinds := [.pod]
  findings s := s.findings .pod fun p =>
    if p.metadata.owners.isEmpty && !isStatic s.nodes p then
      ["Avoid using bare pods in clusters"]
    else []

/-- The faults of the pods that have a specification. -/
def podFindings (s : Snapshot) (faults : PodSpec → List String) : List Finding :=
  s.findings .pod fun p => p.spec.elim [] faults

def nodeNameSelector : Rule where
  name := "node-name-pod-selector"
  groups := ["basic"]
  description := "Checks for pods that select a node by its host name"
  severity := .suggestion
  kinds := [.pod]
  findings s := podFindings s fun spec =>
    if spec.nodeSelector.contains "kubernetes.io/hostname" then
      ["Avoid node name label for node selector"]
    else []

def hostPathVolume : Rule where
  name := "hostpath-volume"
  groups := ["basic", "security"]
  description := "Checks for pods with hostPath volumes"
  severity := .warning
  kinds := [.pod]
  findings s := podFindings s fun spec =>
    (spec.volumes.filter (·.hasHostPath)).map fun v =>
      "Avoid using hostPath for volume '" ++ v.name ++ "'"

/-- The namespaces of its host that a pod shares, as messages name them. -/
def sharedNamespaces (spec : PodSpec) : List String :=
  [(spec.hostNetwork, "network"), (spec.hostPID, "PID"), (spec.hostIPC, "IPC")].filterMap
    fun (shared, name) => if shared == some true then some name else none

def hostNamespaces : Rule where
  name := "host-namespaces"
  groups := ["security"]
  description := "Checks for pods using host namespaces"
  severity := .warning
  kinds := [.pod]
  findings s := podFindings s fun spec =>
    (sharedNamespaces spec).map fun name =>
      "Pod is configured to use the host's " ++ name ++ " namespace"

end ClusterAudit.Checks
