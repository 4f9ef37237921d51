/-
Rules about objects that nothing uses. What is used is first listed, as pairs
of a namespace and a name, and then every object is looked up in the list.
-/
import ClusterAudit.Check

namespace ClusterAudit

/-! ## What a pod refers to by name, in its own namespace -/

namespace PodSpec

def configMapNames (spec : PodSpec) : List String :=
  spec.volumes.filterMap (·.configMap) ++
  spec.volumes.flatMap (·.projected.filterMap (·.configMap)) ++
  spec.allContainers.flatMap fun c => c.env.filterMap (·.configMap) ++ c.envFrom.filterMap (·.configMap)

def secretNames (spec : PodSpec) : List String :=
  spec.volumes.filterMap (·.secret) ++
  spec.volumes.flatMap (·.projected.filterMap (·.secret)) ++
  spec.imagePullSecrets ++
  spec.allContainers.flatMap fun c => c.env.filterMap (·.secret) ++ c.envFrom.filterMap (·.secret)

def claimNames (spec : PodSpec) : List String := spec.volumes.filterMap (·.claim)

end PodSpec

namespace ServiceAccount

/-- The secrets an account refers to. Some of its references may name a
namespace other than its own. -/
def secretKeys (a : ServiceAccount) : List (String × String) :=
  a.secrets.filterMap (fun link => link.name.map (link.ns.getD a.metadata.home, ·)) ++
  a.imagePullSecrets.map (a.metadata.home, ·)

end ServiceAccount

namespace Snapshot

/-- The specifications of all pods that are there or may be made from a
template, each with the namespace that its references are in. -/
def podSpecs (s : Snapshot) : List (String × PodSpec) :=
  s.pods.filterMap (fun p => p.spec.map (p.metadata.home, ·)) ++
  s.podTemplates.filterMap (fun t => t.spec.map (t.metadata.home, ·))

/-- All that the names in pod specifications refer to. -/
def podReferences (s : Snapshot) (names : PodSpec → List String) : List (String × String) :=
  s.podSpecs.flatMap fun (ns, spec) => (names spec).map (ns, ·)

def usedConfigMaps (s : Snapshot) : List (String × String) := s.podReferences (·.configMapNames)

def usedSecrets (s : Snapshot) : List (String × String) :=
  s.podReferences (·.secretNames) ++ s.serviceAccounts.flatMap (·.secretKeys)

def usedClaims (s : Snapshot) : List (String × String) := s.podReferences (·.claimNames)

end Snapshot

namespace Checks

def unusedConfigMap : Rule where
  name := "unused-config-map"
  groups := ["basic", "unused"]
  description := "Checks for config maps not referenced by any pod"
  severity := .warning
  kinds := [.configMap]
  findings s :=
    let used := s.usedConfigMaps
    s.findings .configMap fun c =>
      if c.metadata.name == "kube-root-ca.crt" || used.contains c.metadata.key then []
      else ["Unused config map '" ++ c.metadata.name ++ "'"]

def unusedSecret : Rule where
  name := "unused-secret"
  groups := ["basic", "unused"]
  description := "Checks for secrets not referenced by any pod or service account"
  severity := .warning
  kinds := [.secret]
  findings s :=
    let used := s.usedSecrets
    s.findings .secret fun x =>
      if x.type == some "kubernetes.io/service-account-token" || used.contains x.metadata.key then []
      else ["Unused secret '" ++ x.metadata.name ++ "'"]

def unusedVolume : Rule where
  name := "unused-pv"
  groups := ["basic", "unused"]
  description := "Checks for persistent volumes without a claim"
  severity := .warning
  kinds := [.persistentVolume]
  findings s := s.findings .persistentVolume fun v =>
    if v.isClaimed then [] else ["Unused persistent volume '" ++ v.metadata.name ++ "'"]

def unusedClaim : Rule where
  name := "unused-pvc"
  groups := ["basic", "unused"]
  description := "Checks for persistent volume claims not mounted by any pod"
  severity := .warning
  kinds := [.persistentVolumeClaim]
  findings s :=
    let used := s.usedClaims
    s.findings .persistentVolumeClaim fun c =>
      if used.contains c.metadata.key then []
      else ["Unused persistent volume claim '" ++ c.metadata.name ++ "'"]

end Checks

end ClusterAudit
