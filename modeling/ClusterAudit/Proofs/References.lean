/-
What pods, pod templates and service accounts refer to by name, as a relation, and
what narrowing leaves of it.

Pods refer to names in their own namespace only, so within a scope their references
are all left (`Housed.mem_podReferences_narrow`). Service accounts may name a secret
of another namespace: those references go with the account.
-/
import ClusterAudit.Checks.Usage
import ClusterAudit.Proofs.Narrowing

namespace ClusterAudit

namespace ServiceAccount

/-- An account's references to secrets: the ones that may name a namespace, and
those to image pull secrets, which are in its own. -/
theorem mem_secretKeys {a : ServiceAccount} {ns name : String} :
    (ns, name) ∈ a.secretKeys ↔
      (∃ link ∈ a.secrets, link.name = some name ∧ link.ns.getD a.metadata.home = ns) ∨
        name ∈ a.imagePullSecrets ∧ a.metadata.home = ns := by
  simp [secretKeys]

/-- A reference from one namespace to another one names it. -/
theorem exists_link_of_home_ne {a : ServiceAccount} {ns name : String}
    (h : (ns, name) ∈ a.secretKeys) (hne : a.metadata.home ≠ ns) :
    ∃ link ∈ a.secrets, link.name = some name ∧ link.ns = some ns := by
  rcases mem_secretKeys.1 h with ⟨link, hlink, hname, hns⟩ | ⟨-, hhome⟩
  · refine ⟨link, hlink, hname, ?_⟩
    cases hn : link.ns with
    | none => exact absurd (by simpa [hn] using hns) hne
    | some ns' => simpa [hn] using hns
  · exact absurd hhome hne

end ServiceAccount

namespace Snapshot

variable {s : Snapshot} {sc : Scope} {ns name : String} {names : PodSpec → List String}

theorem mem_podSpecs {spec : PodSpec} :
    (ns, spec) ∈ s.podSpecs ↔
      (∃ p ∈ s.pods, p.spec = some spec ∧ p.metadata.home = ns) ∨
        ∃ t ∈ s.podTemplates, t.spec = some spec ∧ t.metadata.home = ns := by
  simp [podSpecs]

theorem mem_podReferences :
    (ns, name) ∈ s.podReferences names ↔ ∃ spec, (ns, spec) ∈ s.podSpecs ∧ name ∈ names spec := by
  simp only [podReferences, List.mem_flatMap, List.mem_map, Prod.mk.injEq, Prod.exists]
  constructor
  · rintro ⟨_, spec, hspec, _, hname, rfl, rfl⟩
    exact ⟨spec, hspec, hname⟩
  · rintro ⟨spec, hspec, hname⟩
    exact ⟨ns, spec, hspec, name, hname, rfl, rfl⟩

/-- The pods and templates of a namespace in the scope are all left. -/
theorem Housed.mem_podSpecs_narrow (hs : s.Housed) (hc : sc.covers (some ns) = true)
    {spec : PodSpec} : (ns, spec) ∈ (s.narrow sc).podSpecs ↔ (ns, spec) ∈ s.podSpecs := by
  rw [mem_podSpecs, mem_podSpecs]
  exact or_congr (hs.exists_mem_items_narrow_iff (k := .pod) rfl hc)
    (hs.exists_mem_items_narrow_iff (k := .podTemplate) rfl hc)

/-- **Within the scope, what pods refer to does not change.** -/
theorem Housed.mem_podReferences_narrow (hs : s.Housed) (hc : sc.covers (some ns) = true) :
    (ns, name) ∈ (s.narrow sc).podReferences names ↔ (ns, name) ∈ s.podReferences names := by
  simp only [mem_podReferences, hs.mem_podSpecs_narrow hc]

theorem mem_usedSecrets {key : String × String} :
    key ∈ s.usedSecrets ↔
      key ∈ s.podReferences (·.secretNames) ∨ ∃ a ∈ s.serviceAccounts, key ∈ a.secretKeys := by
  simp [usedSecrets]

theorem mem_serviceAccounts_narrow {a : ServiceAccount} :
    a ∈ (s.narrow sc).serviceAccounts ↔
      a ∈ s.serviceAccounts ∧ sc.covers a.metadata.ns = true :=
  mem_items_narrow (k := .serviceAccount) rfl

end Snapshot

end ClusterAudit
