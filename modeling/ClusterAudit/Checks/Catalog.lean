/-
All rules that this program brings with it, in the order of the catalog.
-/
import ClusterAudit.Checks.Containers
import ClusterAudit.Checks.Namespaces
import ClusterAudit.Checks.Pods
import ClusterAudit.Checks.Storage
import ClusterAudit.Checks.Usage
import ClusterAudit.Checks.Webhooks
import ClusterAudit.Checks.Workloads
import ClusterAudit.Registry

namespace ClusterAudit.Checks

def rules : List Rule :=
  [barePods, fullyQualifiedImage, latestTag, defaultNamespace, nodeNameSelector,
   resourceRequirements, missingProbes, cronJobConcurrency, danglingService, hostPathVolume,
   unusedConfigMap, unusedSecret, unusedVolume, unusedClaim,
   privilegedContainers, nonRootUser, hostNamespaces, privilegeEscalation,
   webhookTarget, webhookTimeout, webhookReplacement,
   defaultStorageClass, missingStorageClass, volumeSnapshotValidity,
   nodeNotReady]

def catalog : List Check := rules.map Rule.check

theorem name_catalog : catalog.map (·.name) = rules.map (·.name) := by
  simp [catalog, Function.comp_def]

/-- No two rules share a name. -/
theorem nodup_name_rules : (rules.map (·.name)).Nodup := by decide

theorem name_ne_empty {r : Rule} (h : r ∈ rules) : r.name ≠ "" := by
  revert r; decide

end ClusterAudit.Checks
