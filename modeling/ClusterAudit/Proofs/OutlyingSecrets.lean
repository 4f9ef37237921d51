/-
Which secrets look unused in a narrowed snapshot, though they are used.

A service account may name a secret of another namespace. A scope that leaves out the
account but not the secret hides that use, and the rule about unused secrets does not
ask for the scope. So it reports a secret that is used (`UsedOnlyFromOutside`). Nothing
else can make it do so, since pods and pull secrets refer to their own namespace only
(`Housed.mem_usedSecrets_narrow`, `Housed.exists_link`).
-/
import ClusterAudit.Proofs.References

namespace ClusterAudit

open Checks (unusedSecret)

namespace Secret

/-- The token of a service account. It need not be referred to. -/
def IsToken (x : Secret) : Prop := x.type = some "kubernetes.io/service-account-token"

instance : DecidablePred IsToken := fun x => inferInstanceAs (Decidable (x.type = _))

/-- What is said of an unused secret. -/
def unusedDiagnostic (x : Secret) : Diagnostic :=
  .about "unused-secret" .warning .secret x.metadata ("Unused secret '" ++ x.metadata.name ++ "'")

end Secret

namespace Snapshot

variable {s : Snapshot} {sc : Scope} {x : Secret}

/-- The secrets that are reported as unused. -/
def unusedSecrets (s : Snapshot) : List Secret :=
  s.secrets.filter fun x => decide (¬ x.IsToken ∧ x.metadata.key ∉ s.usedSecrets)

theorem diagnostics_unusedSecret (s : Snapshot) :
    unusedSecret.diagnostics s = s.unusedSecrets.map (·.unusedDiagnostic) := by
  have hfine : ∀ x : Secret,
      (!(x.type == some "kubernetes.io/service-account-token" || s.usedSecrets.contains x.metadata.key)) =
        decide (¬ x.IsToken ∧ x.metadata.key ∉ s.usedSecrets) := by
    intro x
    rw [Bool.eq_iff_iff, decide_eq_true_iff]
    simp [Secret.IsToken]
  simp only [Rule.diagnostics, unusedSecret, findings_ite, List.map_map]
  simp only [items, hfine]
  rfl

theorem mem_unusedSecrets :
    x ∈ s.unusedSecrets ↔ x ∈ s.secrets ∧ ¬ x.IsToken ∧ x.metadata.key ∉ s.usedSecrets := by
  simp [unusedSecrets]

/-- `x` is used, but only by accounts outside of the scope, which name its namespace. -/
structure UsedOnlyFromOutside (s : Snapshot) (sc : Scope) (x : Secret) : Prop where
  notToken : ¬ x.IsToken
  notByPods : x.metadata.key ∉ s.podReferences (·.secretNames)
  byAccount : ∃ a ∈ s.serviceAccounts, x.metadata.key ∈ a.secretKeys
  outside : ∀ a ∈ s.serviceAccounts, x.metadata.key ∈ a.secretKeys →
    sc.covers a.metadata.ns = false ∧
      ∃ link ∈ a.secrets, link.name = some x.metadata.name ∧ link.ns = some x.metadata.home

/-- What a use is worth that is left after narrowing. -/
theorem Housed.mem_usedSecrets_narrow (hs : s.Housed) (hx : x ∈ s.secrets)
    (hc : sc.covers x.metadata.ns = true) :
    x.metadata.key ∈ (s.narrow sc).usedSecrets ↔
      x.metadata.key ∈ s.podReferences (·.secretNames) ∨
        ∃ a ∈ s.serviceAccounts, sc.covers a.metadata.ns = true ∧ x.metadata.key ∈ a.secretKeys := by
  have hhome : sc.covers (some x.metadata.home) = true := by
    rw [← hc]
    exact congrArg sc.covers (hs.ns_eq (k := .secret) rfl hx).symm
  have hpods : x.metadata.key ∈ (s.narrow sc).podReferences (·.secretNames) ↔
      x.metadata.key ∈ s.podReferences (·.secretNames) := hs.mem_podReferences_narrow hhome
  simp only [mem_usedSecrets, hpods, mem_serviceAccounts_narrow, and_assoc]

/-- An account outside of the scope can only use a secret in it by naming its
namespace. -/
theorem Housed.exists_link (hs : s.Housed) (hx : x ∈ s.secrets) (hc : sc.covers x.metadata.ns = true)
    {a : ServiceAccount} (ha : a ∈ s.serviceAccounts) (hca : sc.covers a.metadata.ns = false)
    (hkey : x.metadata.key ∈ a.secretKeys) :
    ∃ link ∈ a.secrets, link.name = some x.metadata.name ∧ link.ns = some x.metadata.home := by
  refine ServiceAccount.exists_link_of_home_ne hkey fun heq => ?_
  have hns : x.metadata.ns = some x.metadata.home := hs.ns_eq (k := .secret) rfl hx
  have hnsa : a.metadata.ns = some a.metadata.home := hs.ns_eq (k := .serviceAccount) rfl ha
  rw [hns] at hc
  rw [hnsa, heq, hc] at hca
  cases hca

/-- **Which secrets of the scope look unused in it.** Those that are unused, and those that
are used only by accounts outside of it. -/
theorem unused_in_scope_iff (hs : s.Housed) (sc : Scope) :
    (∀ t : Snapshot, unusedSecret.diagnostics t = t.unusedSecrets.map (·.unusedDiagnostic)) ∧
      ∀ x ∈ s.secrets, sc.covers x.metadata.ns = true →
        (x ∈ (s.narrow sc).unusedSecrets ↔ x ∈ s.unusedSecrets ∨ s.UsedOnlyFromOutside sc x) := by
  refine ⟨diagnostics_unusedSecret, fun x hx hc => ?_⟩
  have hleft : x ∈ (s.narrow sc).secrets := (mem_items_narrow (k := .secret) rfl).2 ⟨hx, hc⟩
  rw [mem_unusedSecrets, mem_unusedSecrets, hs.mem_usedSecrets_narrow hx hc]
  simp only [hx, hleft, true_and]
  constructor
  · rintro ⟨htoken, hunused⟩
    rw [not_or] at hunused
    obtain ⟨hpods, haccounts⟩ := hunused
    by_cases hused : ∃ a ∈ s.serviceAccounts, x.metadata.key ∈ a.secretKeys
    · refine .inr ⟨htoken, hpods, hused, fun a ha hkey => ?_⟩
      have hca : sc.covers a.metadata.ns = false := by
        rw [Bool.eq_false_iff]
        exact fun hca => haccounts ⟨a, ha, hca, hkey⟩
      exact ⟨hca, hs.exists_link hx hc ha hca hkey⟩
    · exact .inl ⟨htoken, fun h => (mem_usedSecrets.1 h).elim hpods hused⟩
  · rintro (⟨htoken, hunused⟩ | h)
    · refine ⟨htoken, ?_⟩
      rintro (hpods | ⟨a, ha, -, hkey⟩)
      · exact hunused (mem_usedSecrets.2 (.inl hpods))
      · exact hunused (mem_usedSecrets.2 (.inr ⟨a, ha, hkey⟩))
    · refine ⟨h.notToken, ?_⟩
      rintro (hpods | ⟨a, ha, hca, hkey⟩)
      · exact h.notByPods hpods
      · rw [(h.outside a ha hkey).1] at hca
        cases hca

/-! ## An account that uses a secret of another namespace -/

def certificate : Secret where
  metadata := { name? := some "certificate", ns := some "prod" }

/-- The account that renews the certificate has a namespace of its own. -/
def renewal : Snapshot where
  secrets := [certificate]
  serviceAccounts := [{
    metadata := { name? := some "renewer", ns := some "ops" }
    secrets := [{ name := some "certificate", ns := some "prod" }] }]

theorem housed_renewal : renewal.Housed := by
  intro k _ o ho
  cases k <;> simp [items, renewal] at ho
  case secret | serviceAccount => simp [ho, Kind.metadata, certificate]

theorem unused_in_scope_iff_renewal :
    renewal.Housed ∧ certificate ∈ renewal.secrets ∧
      (Scope.only "prod").covers certificate.metadata.ns = true ∧
      (certificate ∈ (renewal.narrow (.only "prod")).unusedSecrets ↔
        certificate ∈ renewal.unusedSecrets ∨ renewal.UsedOnlyFromOutside (.only "prod") certificate) :=
  ⟨housed_renewal, List.mem_singleton_self _, rfl,
    (unused_in_scope_iff housed_renewal (.only "prod")).2 certificate (List.mem_singleton_self _) rfl⟩

/-- A secret that is used, in the scope, and reported as unused there. -/
theorem reported_though_used :
    renewal.Housed ∧ certificate ∈ renewal.secrets ∧
      (Scope.only "prod").covers certificate.metadata.ns = true ∧
      unusedSecret.diagnostics renewal = [] ∧
      unusedSecret.diagnostics (renewal.narrow (.only "prod")) = [certificate.unusedDiagnostic] :=
  ⟨housed_renewal, List.mem_singleton_self _, rfl, by decide, by decide⟩

end Snapshot

end ClusterAudit
