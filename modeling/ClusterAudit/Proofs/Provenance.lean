/-
What is written on the diagnostics of each check of the catalog, and where it comes
from.

`entries` lists for each check the severity and the kinds that its diagnostics have.
A check never fails, and all of its diagnostics have its name and what is listed for it.
Each carries the data of an object that is in the snapshot, in the collection of the
kind it names (`diagnostics_sourced`): so it is found by whatever goes by these data,
as suppression and sorting do.
-/
import ClusterAudit.Proofs.Passes

namespace ClusterAudit

/-- What a diagnostic says about its object are the data of an object with the metadata
`m`. -/
structure Diagnostic.Carries (d : Diagnostic) (m : Metadata) : Prop where
  /-- Empty if the object has no name. -/
  name : d.subject.name = m.name?.getD ""
  ns : d.subject.ns = m.ns
  annotations : d.subject.annotations = m.annotations
  owners : d.owners = m.owners

theorem Diagnostic.carries_about (check : String) (severity : Severity) (kind : Kind) (m : Metadata)
    (message : String) : (about check severity kind m message).Carries m :=
  ⟨rfl, rfl, rfl, rfl⟩

theorem Rule.MadeOf.mem_diagnostics {r : Rule} {ps : List Pass} (h : r.MadeOf ps) {s : Snapshot}
    {d : Diagnostic} :
    d ∈ r.diagnostics s ↔ ∃ p ∈ ps, ∃ o ∈ s.items p.kind, ∃ message ∈ p.faults s o,
      d = .about r.name r.severity p.kind (p.kind.metadata o) message := by
  rw [Rule.diagnostics, h.findings, List.mem_map]
  constructor
  · rintro ⟨f, hf, rfl⟩
    obtain ⟨p, hp, hf⟩ := List.mem_flatMap.1 hf
    obtain ⟨o, ho, message, hmessage, rfl⟩ := Snapshot.mem_findings.1 hf
    exact ⟨p, hp, o, ho, message, hmessage, rfl⟩
  · rintro ⟨p, hp, o, ho, message, hmessage, rfl⟩
    refine ⟨⟨p.kind, p.kind.metadata o, message⟩, List.mem_flatMap.2 ⟨p, hp, ?_⟩, rfl⟩
    exact Snapshot.mem_findings.2 ⟨o, ho, message, hmessage, rfl⟩

namespace Checks

/-- What is to be expected of the diagnostics of a check. -/
structure Entry where
  name : String
  severity : Severity
  kinds : List Kind
  deriving DecidableEq

def entries : List Entry :=
  [⟨"bare-pods", .warning, [.pod]⟩,
   ⟨"fully-qualified-image", .suggestion, [.pod]⟩,
   ⟨"latest-tag", .warning, [.pod]⟩,
   ⟨"default-namespace", .warning,
     [.pod, .podTemplate, .persistentVolumeClaim, .configMap, .service, .secret, .serviceAccount]⟩,
   ⟨"node-name-pod-selector", .suggestion, [.pod]⟩,
   ⟨"resource-requirements", .warning, [.pod]⟩,
   ⟨"missing-probes", .suggestion, [.pod]⟩,
   ⟨"cronjob-concurrency", .suggestion, [.cronJob]⟩,
   ⟨"hostpath-volume", .warning, [.pod]⟩,
   ⟨"unused-config-map", .warning, [.configMap]⟩,
   ⟨"unused-secret", .warning, [.secret]⟩,
   ⟨"unused-pv", .warning, [.persistentVolume]⟩,
   ⟨"unused-pvc", .warning, [.persistentVolumeClaim]⟩,
   ⟨"privileged-containers", .warning, [.pod]⟩,
   ⟨"non-root-user", .warning, [.pod]⟩,
   ⟨"host-namespaces", .warning, [.pod]⟩,
   ⟨"privilege-escalation", .suggestion, [.pod]⟩,
   ⟨"admission-controller-webhook", .error,
     [.validatingWebhookConfiguration, .mutatingWebhookConfiguration]⟩,
   ⟨"admission-controller-webhook-timeout", .warning,
     [.validatingWebhookConfiguration, .mutatingWebhookConfiguration]⟩,
   ⟨"admission-controller-webhook-replacement", .error,
     [.validatingWebhookConfiguration, .mutatingWebhookConfiguration]⟩,
   ⟨"default-storage-class", .warning, [.storageClass]⟩,
   ⟨"missing-storage-class", .error, [.persistentVolumeClaim]⟩,
   ⟨"volume-snapshot-validity", .error, [.volumeSnapshot]⟩,
   ⟨"node-not-ready", .warning, [.node]⟩,
   ⟨"dangling-service", .warning, [.service]⟩]

def entry? (name : String) : Option Entry := entries.find? (·.name == name)

theorem entry?_name : ∀ r ∈ rules, entry? r.name = some ⟨r.name, r.severity, r.kinds⟩ := by decide

/-- **Where diagnostics come from.** -/
theorem diagnostics_sourced (s : Snapshot) {c : Check} (hc : c ∈ catalog) :
    ∃ e ∈ entry? c.name, ∃ ds, c.run s = .reported ds ∧
      ∀ d ∈ ds, d.check = c.name ∧ d.severity = e.severity ∧ d.kind ∈ e.kinds ∧
        ∃ o ∈ s.items d.kind, d.Carries (d.kind.metadata o) := by
  obtain ⟨r, hr, rfl⟩ := List.mem_map.1 hc
  obtain ⟨ps, hps⟩ := objectwise_of_mem r hr
  refine ⟨_, entry?_name r hr, r.diagnostics s, rfl, fun d hd => ?_⟩
  obtain ⟨p, hp, o, ho, message, -, rfl⟩ := hps.mem_diagnostics.1 hd
  have hkind : p.kind ∈ r.kinds := hps.kinds ▸ List.mem_map_of_mem hp
  exact ⟨rfl, rfl, hkind, o, ho, Diagnostic.carries_about _ _ _ _ _⟩

/-- Two configurations with one slow webhook each. One of them has no name, the other an
owner. -/
def slow : Snapshot where
  validatingWebhooks := [{ webhooks := [{ name := "a", timeoutSeconds := some 30 }] }]
  mutatingWebhooks := [{
    metadata := {
      name? := some "sidecars"
      annotations := .ofList [("team", "mesh")]
      owners := [{ kind := "Operator", name := "mesh" }] }
    webhooks := [{ name := "b", timeoutSeconds := some 29 }, { name := "c", timeoutSeconds := some 31 }] }]

theorem diagnostics_sourced_slow :
    webhookTimeout.check ∈ catalog ∧
      (∃ e ∈ entry? webhookTimeout.name, ∃ ds, webhookTimeout.check.run slow = .reported ds ∧
        ∀ d ∈ ds, d.check = webhookTimeout.name ∧ d.severity = e.severity ∧ d.kind ∈ e.kinds ∧
          ∃ o ∈ slow.items d.kind, d.Carries (d.kind.metadata o)) ∧
      (webhookTimeout.diagnostics slow).map (fun d => (d.kind, d.subject.name, d.owners.length)) =
        [(.validatingWebhookConfiguration, "", 0), (.mutatingWebhookConfiguration, "sidecars", 1)] := by
  have hmem : webhookTimeout.check ∈ catalog := List.mem_map_of_mem (by simp [rules])
  exact ⟨hmem, diagnostics_sourced slow hmem, by decide⟩

end Checks

end ClusterAudit
