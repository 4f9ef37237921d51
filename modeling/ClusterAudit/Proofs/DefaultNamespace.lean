/-
Which objects the rule about the default namespace reports, and which it passes over.

The cluster itself puts objects of four kinds there, and each kind has a mark of its own for
them (`Kind.MadeByCluster`). All other objects are their users' (`Snapshot.strays`), but not
all of these are reported. A token is taken for one of the default service account by its
name alone, whichever account it says it is for, so that the tokens of an account with an
unlucky name are passed over as well (`Secret.IsLookalike`). The rule misses them and nothing
else (`reports_strays`).
-/
import Mathlib.Data.List.Basic
import ClusterAudit.Checks.Namespaces
import ClusterAudit.Proofs.OutlyingSecrets

namespace ClusterAudit

open Checks (defaultNamespace inDefault isDefaultToken)

/-! ## Tokens -/

namespace Secret

/-- The service account that a token says it is for. -/
def account? (x : Secret) : Option String :=
  x.metadata.annotations.get? "kubernetes.io/service-account.name"

/-- Named as the tokens of the default service account are. -/
def NamedAsDefault (x : Secret) : Prop := "default-token-".toList <+: x.metadata.name.toList

/-- A token of the default service account. One that does not say whose it is is told by its
name. -/
def IsDefaultToken (x : Secret) : Prop :=
  x.IsToken ∧ (x.account? = some "default" ∨ x.account? = none ∧ x.NamedAsDefault)

/-- A token of another account that only has the name of one. -/
def IsLookalike (x : Secret) : Prop :=
  x.IsToken ∧ x.account? ≠ none ∧ x.account? ≠ some "default" ∧ x.NamedAsDefault

instance : DecidablePred NamedAsDefault := fun _ => inferInstanceAs (Decidable (_ <+: _))

instance : DecidablePred IsDefaultToken := fun _ => inferInstanceAs (Decidable (_ ∧ _))

instance : DecidablePred IsLookalike := fun _ => inferInstanceAs (Decidable (_ ∧ _))

theorem isDefaultToken_iff {x : Secret} :
    isDefaultToken x = true ↔ x.IsDefaultToken ∨ x.IsLookalike := by
  have htest : isDefaultToken x = true ↔
      x.IsToken ∧ (x.account? = some "default" ∨ x.NamedAsDefault) := by
    simp only [isDefaultToken, Bool.and_eq_true, Bool.or_eq_true, beq_iff_eq, List.isPrefixOf_iff_prefix]
    rfl
  rw [htest, IsDefaultToken, IsLookalike, ← and_or_left]
  refine and_congr_right fun _ => ?_
  by_cases hdefault : x.account? = some "default"
  · simp [hdefault]
  · by_cases hnone : x.account? = none
    · simp [hnone]
    · simp [hdefault, hnone]

theorem IsLookalike.not_isDefaultToken {x : Secret} (h : x.IsLookalike) : ¬ x.IsDefaultToken := by
  obtain ⟨-, hnone, hdefault, -⟩ := h
  rintro ⟨-, haccount | ⟨haccount, -⟩⟩
  · exact hdefault haccount
  · exact hnone haccount

end Secret

/-! ## Objects of users -/

namespace Kind

/-- The kinds that the rule looks at, in the order of its report. -/
def ofUsers : List Kind :=
  [.pod, .podTemplate, .persistentVolumeClaim, .configMap, .service, .secret, .serviceAccount]

/-- What the cluster puts into the default namespace on its own. -/
@[simp] def MadeByCluster : (k : Kind) → k.Item → Prop
  | .configMap, (c : ConfigMap) => c.metadata.name = "kube-root-ca.crt"
  | .service, (x : Service) => x.metadata.name = "kubernetes"
  | .secret, (x : Secret) => x.IsDefaultToken
  | .serviceAccount, (a : ServiceAccount) => a.metadata.name = "default"
  | _, _ => False

/-- What is passed over though it is not of these. -/
@[simp] def IsLookalike : (k : Kind) → k.Item → Prop
  | .secret, (x : Secret) => x.IsLookalike
  | _, _ => False

instance (k : Kind) : DecidablePred k.MadeByCluster := fun o =>
  match k, o with
  | .configMap, (c : ConfigMap) => inferInstanceAs (Decidable (c.metadata.name = _))
  | .service, (x : Service) => inferInstanceAs (Decidable (x.metadata.name = _))
  | .secret, (x : Secret) => inferInstanceAs (Decidable x.IsDefaultToken)
  | .serviceAccount, (a : ServiceAccount) => inferInstanceAs (Decidable (a.metadata.name = _))
  | .pod, _ | .podTemplate, _ | .persistentVolumeClaim, _ | .persistentVolume, _ | .node, _
  | .namespaces, _ | .resourceQuota, _ | .limitRange, _ | .storageClass, _ | .cronJob, _
  | .volumeSnapshot, _ | .validatingWebhookConfiguration, _
  | .mutatingWebhookConfiguration, _ => inferInstanceAs (Decidable False)

instance (k : Kind) : DecidablePred k.IsLookalike := fun o =>
  match k, o with
  | .secret, (x : Secret) => inferInstanceAs (Decidable x.IsLookalike)
  | .configMap, _ | .service, _ | .serviceAccount, _ | .pod, _ | .podTemplate, _
  | .persistentVolumeClaim, _ | .persistentVolume, _ | .node, _ | .namespaces, _
  | .resourceQuota, _ | .limitRange, _ | .storageClass, _ | .cronJob, _ | .volumeSnapshot, _
  | .validatingWebhookConfiguration, _ | .mutatingWebhookConfiguration, _ =>
    inferInstanceAs (Decidable False)

/-- What is said of an object in the default namespace. -/
def strayReport (k : Kind) (o : k.Item) : Diagnostic :=
  .about "default-namespace" .warning k (k.metadata o) "Avoid using the default namespace"

end Kind

/-! ## What is reported -/

theorem map_filter_eq_map_iff {α β : Type} {l : List α} {test : α → Bool} {f : α → β} :
    (l.filter test).map f = l.map f ↔ ∀ a ∈ l, test a = true := by
  constructor
  · intro h
    have hlength : (l.filter test).length = l.length := by
      simpa using congrArg List.length h
    exact List.length_filter_eq_length_iff.1 hlength
  · intro h
    rw [List.filter_eq_self.2 h]

namespace Snapshot

variable {k : Kind}

/-- The objects of users in the default namespace. -/
def strays (s : Snapshot) (k : Kind) : List k.Item :=
  (s.items k).filter fun o => decide ((k.metadata o).ns = some "default" ∧ ¬ k.MadeByCluster o)

/-- Those of them that the rule does not pass over. -/
def strikingStrays (s : Snapshot) (k : Kind) : List k.Item :=
  (s.strays k).filter fun o => decide (¬ k.IsLookalike o)

theorem map_inDefault (s : Snapshot) (isExempt : k.Item → Bool)
    (hexempt : ∀ o, isExempt o = true ↔ k.MadeByCluster o ∨ k.IsLookalike o) :
    (inDefault s k isExempt).map (fun f =>
        .about "default-namespace" .warning f.kind f.about f.message) =
      (s.strikingStrays k).map k.strayReport := by
  have htest : ∀ o : k.Item, ((k.metadata o).ns == some "default" && !isExempt o) =
      (decide (¬ k.IsLookalike o) &&
        decide ((k.metadata o).ns = some "default" ∧ ¬ k.MadeByCluster o)) := by
    intro o
    rw [Bool.eq_iff_iff, Bool.and_eq_true, Bool.and_eq_true, Bool.not_eq_true', ← Bool.not_eq_true,
      hexempt, beq_iff_eq, decide_eq_true_iff, decide_eq_true_iff, not_or]
    constructor
    · rintro ⟨hns, hmade, hlookalike⟩
      exact ⟨hlookalike, hns, hmade⟩
    · rintro ⟨hlookalike, hns, hmade⟩
      exact ⟨hns, hmade, hlookalike⟩
  have hfindings : inDefault s k isExempt =
      (s.strikingStrays k).map fun o => ⟨k, k.metadata o, "Avoid using the default namespace"⟩ := by
    rw [strikingStrays, strays, List.filter_filter, inDefault]
    simp only [htest]
    exact flatMap_eq_map_filter fun o _ => apply_ite _ _ _ _
  rw [hfindings, List.map_map]
  rfl

theorem diagnostics_defaultNamespace (s : Snapshot) :
    defaultNamespace.diagnostics s =
      Kind.ofUsers.flatMap fun k => (s.strikingStrays k).map k.strayReport := by
  simp only [Rule.diagnostics, defaultNamespace, List.map_append, Kind.ofUsers, List.flatMap_cons,
    List.flatMap_nil, List.append_nil, List.append_assoc]
  rw [s.map_inDefault (k := .pod) _ fun _ => by simp,
    s.map_inDefault (k := .podTemplate) _ fun _ => by simp,
    s.map_inDefault (k := .persistentVolumeClaim) _ fun _ => by simp,
    s.map_inDefault (k := .configMap) _ fun _ => by simp,
    s.map_inDefault (k := .service) _ fun _ => by simp,
    s.map_inDefault (k := .secret) _ fun _ => Secret.isDefaultToken_iff,
    s.map_inDefault (k := .serviceAccount) _ fun _ => by simp]

/-- Only among secrets is anything missed. -/
theorem strikingStrays_of_ne (s : Snapshot) (hk : k ≠ .secret) : s.strikingStrays k = s.strays k := by
  refine List.filter_eq_self.2 fun o _ => ?_
  rw [decide_eq_true_iff]
  cases k with
  | secret => exact absurd rfl hk
  | _ => exact not_false

/-- Every lookalike in the default namespace is missed. -/
theorem strikingStrays_secret_eq_iff (s : Snapshot) :
    (s.strikingStrays .secret).map (Kind.strayReport .secret) =
        (s.strays .secret).map (Kind.strayReport .secret) ↔
      ∀ x ∈ s.secrets, x.metadata.ns = some "default" → ¬ x.IsLookalike := by
  rw [strikingStrays, map_filter_eq_map_iff]
  constructor
  · intro h x hx hns hlookalike
    have hstray : x ∈ s.strays .secret := by
      refine List.mem_filter.2 ⟨hx, ?_⟩
      rw [decide_eq_true_iff]
      exact ⟨hns, hlookalike.not_isDefaultToken⟩
    exact of_decide_eq_true (h x hstray) hlookalike
  · intro h x hx
    obtain ⟨hx, hstray⟩ := List.mem_filter.1 hx
    rw [decide_eq_true_iff] at hstray ⊢
    exact h x hx hstray.1

/-- **Objects in the default namespace.** Those of users are reported one by one, all but the
lookalikes; so the report is complete just if there are none of these. -/
theorem reports_strays (s : Snapshot) :
    defaultNamespace.diagnostics s =
        (Kind.ofUsers.flatMap fun k => (s.strikingStrays k).map k.strayReport) ∧
      (defaultNamespace.diagnostics s =
          (Kind.ofUsers.flatMap fun k => (s.strays k).map k.strayReport) ↔
        ∀ x ∈ s.secrets, x.metadata.ns = some "default" → ¬ x.IsLookalike) := by
  refine ⟨diagnostics_defaultNamespace s, ?_⟩
  rw [diagnostics_defaultNamespace, ← strikingStrays_secret_eq_iff]
  simp [Kind.ofUsers, strikingStrays_of_ne]

/-! ## A token of another account -/

/-- What the cluster makes for a service account of the name `default-token-reader`. -/
def readerToken : Secret where
  metadata := {
    name? := some "default-token-reader-token-7hx4q"
    ns := some "default"
    annotations := .ofList [("kubernetes.io/service-account.name", "default-token-reader")] }
  type := some "kubernetes.io/service-account-token"

theorem readerToken_unreported :
    readerToken.IsToken ∧ readerToken.metadata.ns = some "default" ∧
      readerToken.account? = some "default-token-reader" ∧ ¬ readerToken.IsDefaultToken ∧
      (Kind.ofUsers.flatMap fun k => (strays { secrets := [readerToken] } k).map k.strayReport) =
        [Kind.strayReport .secret readerToken] ∧
      defaultNamespace.diagnostics { secrets := [readerToken] } = [] := by
  decide

end Snapshot

end ClusterAudit
