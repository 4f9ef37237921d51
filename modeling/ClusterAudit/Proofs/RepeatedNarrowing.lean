/-
Narrowing a snapshot to one scope after the other.

What is left is what all of the scopes cover (`Snapshot.items_foldl_narrow`), but only
the last one is on record (`scope_foldl_narrow`). So the record may cover a namespace the
services of which an earlier scope took away, and a webhook that calls one of them is
reported for a missing service. That is the only way to such a report
(`lacks_ofService_foldl_narrow_iff`), and there is none if the last scope covers no
more than the others (`lacks_ofService_notMem`).
-/
import ClusterAudit.Proofs.WebhookTargets

namespace ClusterAudit

open Checks (webhookTarget)

namespace Snapshot

variable {s : Snapshot} {sc : Scope} {w : Webhook} {target : WebhookService}

theorem hasService_foldl_narrow (scopes : List Scope) :
    (scopes.foldl narrow s).HasService target ↔
      ∃ x ∈ s.services, x.metadata.key = (target.ns, target.name) ∧
        ∀ sc ∈ scopes, sc.covers x.metadata.ns = true := by
  have hmem : ∀ x : Service, x ∈ (scopes.foldl narrow s).services ↔
      x ∈ s.services ∧ ∀ sc ∈ scopes, sc.covers x.metadata.ns = true := by
    intro x
    have hitems := items_foldl_narrow (s := s) (k := .service) rfl scopes
    rw [show (scopes.foldl narrow s).services = _ from hitems, List.mem_filter, List.all_eq_true]
    rfl
  simp only [HasService, hmem]
  constructor
  · rintro ⟨x, ⟨hx, hall⟩, hkey⟩
    exact ⟨x, hx, hkey, hall⟩
  · rintro ⟨x, hx, hkey, hall⟩
    exact ⟨x, ⟨hx, hall⟩, hkey⟩

theorem hasNamespace_foldl_narrow {ns : String} (scopes : List Scope) :
    (scopes.foldl narrow s).HasNamespace ns ↔ s.HasNamespace ns := by
  have hitems := items_foldl_narrow_of_clusterWide (s := s) (k := .namespaces) rfl scopes
  rw [HasNamespace, show (scopes.foldl narrow s).namespaces = s.namespaces from hitems, HasNamespace]

theorem webhookSites_foldl_narrow (scopes : List Scope) :
    (scopes.foldl narrow s).webhookSites = s.webhookSites := by
  induction scopes generalizing s with
  | nil => rfl
  | cons sc scopes ih => rw [List.foldl_cons, ih, webhookSites_narrow]

/-- The last scope is the one on record. -/
theorem scope_foldl_narrow (scopes : List Scope) :
    (scopes.foldl narrow s).scope = scopes.getLastD s.scope := by
  induction scopes generalizing s with
  | nil => rfl
  | cons sc scopes ih =>
    rw [List.foldl_cons, ih, scope_narrow, List.getLastD_cons]

/-- **When a service is reported as missing** by a webhook that calls it. -/
theorem lacks_ofService_foldl_narrow_iff (scopes : List Scope) (hw : w ∈ s.webhookSites)
    (htarget : w.service = some target) :
    (w, .ofService) ∈ (scopes.foldl narrow s).lacks ↔
      s.HasNamespace target.ns ∧ (scopes.getLastD s.scope).covers (some target.ns) = true ∧
        ∀ x ∈ s.services, x.metadata.key = (target.ns, target.name) →
          ∃ sc ∈ scopes, sc.covers x.metadata.ns = false := by
  rw [mem_lacks, webhookSites_foldl_narrow]
  simp only [hw, htarget, true_and, Option.mem_def, Option.some_inj, exists_eq_left',
    lack?_eq_ofService_iff, hasNamespace_foldl_narrow, scope_foldl_narrow, hasService_foldl_narrow,
    not_exists, not_and, Classical.not_forall, exists_prop, Bool.not_eq_true]

/-- If the last scope covers no more than any other, the services it covers are all
left. -/
theorem lacks_ofService_notMem (scopes : List Scope) (hw : w ∈ s.webhookSites)
    (htarget : w.service = some target) (hservice : s.HasService target)
    (hlast : ∀ sc ∈ scopes, ∀ ns, (scopes.getLastD s.scope).covers (some ns) = true →
      sc.covers (some ns) = true) :
    (w, .ofService) ∉ (scopes.foldl narrow s).lacks := by
  rw [lacks_ofService_foldl_narrow_iff scopes hw htarget]
  rintro ⟨-, hc, hgone⟩
  obtain ⟨x, hx, hkey⟩ := hservice
  obtain ⟨sc, hsc, hout⟩ := hgone x hx hkey
  have hhome : x.metadata.home = target.ns := congrArg Prod.fst hkey
  have hin : sc.covers x.metadata.ns = true :=
    Scope.covers_of_home (by rw [hhome]; exact hlast sc hsc target.ns hc)
  rw [hin] at hout
  cases hout

/-- **What becomes of a service that is there.** A webhook that calls it is reported for a
missing service just if the last scope covers the namespace and some scope took the
service away. That cannot be if the last scope covers no more than the others, and so
not after one scope alone. -/
theorem present_service_reported_iff (s : Snapshot) (scopes : List Scope) :
    (∀ t : Snapshot, webhookTarget.diagnostics t = t.lacks.map fun (w, lack) => w.report lack) ∧
      ∀ w ∈ s.webhookSites, ∀ target ∈ w.service, s.HasService target →
        ((w, .ofService) ∈ (scopes.foldl narrow s).lacks ↔
          s.HasNamespace target.ns ∧ (scopes.getLastD s.scope).covers (some target.ns) = true ∧
            ∀ x ∈ s.services, x.metadata.key = (target.ns, target.name) →
              ∃ sc ∈ scopes, sc.covers x.metadata.ns = false) ∧
        ((∀ sc ∈ scopes, ∀ ns, (scopes.getLastD s.scope).covers (some ns) = true →
            sc.covers (some ns) = true) →
          (w, .ofService) ∉ (scopes.foldl narrow s).lacks) :=
  ⟨diagnostics_webhookTarget, fun _ hw _ htarget hservice =>
    ⟨lacks_ofService_foldl_narrow_iff scopes hw htarget,
      lacks_ofService_notMem scopes hw htarget hservice⟩⟩

/-! ## A scope that is forgotten -/

def gatekeeper : WebhookService := { ns := "policy", name := "gatekeeper" }

/-- A webhook and the service it calls. -/
def guarded : Snapshot where
  namespaces := ["policy", "prod"].map fun ns => { metadata := { name? := some ns } }
  services := [{ metadata := { name? := some "gatekeeper", ns := some "policy" } }]
  validatingWebhooks := [{
    metadata := { name? := some "gatekeeper" }
    webhooks := [{ name := "check.gatekeeper.sh", service := some gatekeeper }] }]

/-- The one webhook of `guarded`. -/
def gatekeeping : Webhook where
  kind := .validatingWebhookConfiguration
  configuration := { name? := some "gatekeeper" }
  name := "check.gatekeeper.sh"
  service := some gatekeeper
  failurePolicy := none
  timeoutSeconds := none
  namespaceSelector := none
  objectSelector := none
  rules := []

theorem gatekeeping_mem : gatekeeping ∈ guarded.webhookSites := List.mem_singleton_self _

/-- All but one namespace, and of these only one. -/
def closingIn : List Scope := [.allBut "prod", .only "policy"]

theorem covers_closingIn : ∀ sc ∈ closingIn, ∀ ns, (closingIn.getLastD .all).covers (some ns) = true →
    sc.covers (some ns) = true := by
  intro sc hsc ns hns
  have hpolicy : ns = "policy" := by simpa [closingIn, Scope.only, Scope.covers, Choice.admits] using hns
  subst hpolicy
  have hsc : sc = .allBut "prod" ∨ sc = .only "policy" := by simpa [closingIn] using hsc
  rcases hsc with rfl | rfl <;> decide

theorem present_service_reported_iff_closingIn :
    gatekeeping ∈ guarded.webhookSites ∧ gatekeeper ∈ gatekeeping.service ∧
      guarded.HasService gatekeeper ∧
      (∀ sc ∈ closingIn, ∀ ns, (closingIn.getLastD guarded.scope).covers (some ns) = true →
        sc.covers (some ns) = true) ∧
      (closingIn.getLastD guarded.scope).covers (some gatekeeper.ns) = true ∧
      (gatekeeping, .ofService) ∉ (closingIn.foldl narrow guarded).lacks := by
  have hservice : guarded.HasService gatekeeper := by decide
  exact ⟨gatekeeping_mem, rfl, hservice, covers_closingIn, by decide,
    ((present_service_reported_iff guarded closingIn).2 gatekeeping gatekeeping_mem gatekeeper rfl
      hservice).2 covers_closingIn⟩

/-- A service that is there, and is reported as missing once the snapshot was narrowed to
all namespaces but its own and then, in vain, to all of them. -/
theorem reported_though_present :
    guarded.HasService gatekeeper ∧ webhookTarget.diagnostics guarded = [] ∧
      webhookTarget.diagnostics ([.allBut "policy", .all].foldl narrow guarded) =
        [gatekeeping.report .ofService] :=
  ⟨by decide, by decide, by decide⟩

end Snapshot

end ClusterAudit
