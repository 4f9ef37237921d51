/-
Which webhooks are reported for keeping the pods of the system namespace from being
replaced, and that narrowing a webhook never brings it into the report.

`Webhook.Blocks` says of a webhook what makes it dangerous, the selectors by what they ask
for: the one of the namespace is held against the labels of the system namespace, and that
of objects has to let pass what has no labels. Each part can only become harder to meet if
selectors ask for more and rules cover less (`Webhook.Narrows`).
-/
import ClusterAudit.Proofs.Correspondence
import ClusterAudit.Proofs.SelectorLaws
import ClusterAudit.Proofs.WebhookTargets

namespace ClusterAudit

open Checks (webhookReplacement)

/-! ## Narrower selectors, rules and webhooks -/

/-- `s'` asks for all that `s` asks for. -/
structure LabelSelector.Narrows (s s' : LabelSelector) : Prop where
  matchLabels : s.matchLabels.Within s'.matchLabels
  matchExpressions : s.matchExpressions ⊆ s'.matchExpressions

instance (s s' : LabelSelector) : Decidable (s.Narrows s') :=
  decidable_of_iff (s.matchLabels.Within s'.matchLabels ∧ s.matchExpressions ⊆ s'.matchExpressions)
    ⟨fun h => ⟨h.1, h.2⟩, fun h => ⟨h.matchLabels, h.matchExpressions⟩⟩

/-- `r'` covers nothing that `r` does not. -/
structure WebhookRule.Narrows (r r' : WebhookRule) : Prop where
  apiGroups : r'.apiGroups ⊆ r.apiGroups
  resources : r'.resources ⊆ r.resources

instance (r r' : WebhookRule) : Decidable (r.Narrows r') :=
  decidable_of_iff (r'.apiGroups ⊆ r.apiGroups ∧ r'.resources ⊆ r.resources)
    ⟨fun h => ⟨h.1, h.2⟩, fun h => ⟨h.apiGroups, h.resources⟩⟩

/-- `w'` may have selectors that `w` does not have or that ask for more, and fewer rules or
rules that cover less. What it calls and how long that may take plays no part. -/
structure Webhook.Narrows (w w' : Webhook) : Prop where
  kind : w'.kind = w.kind
  configuration : w'.configuration = w.configuration
  name : w'.name = w.name
  failurePolicy : w'.failurePolicy = w.failurePolicy
  namespaceSelector : ∀ s ∈ w.namespaceSelector, ∃ s' ∈ w'.namespaceSelector, s.Narrows s'
  objectSelector : ∀ s ∈ w.objectSelector, ∃ s' ∈ w'.objectSelector, s.Narrows s'
  rules : ∀ r' ∈ w'.rules, ∃ r ∈ w.rules, r.Narrows r'

theorem Webhook.Narrows.refl (w : Webhook) : w.Narrows w where
  kind := rfl
  configuration := rfl
  name := rfl
  failurePolicy := rfl
  namespaceSelector := fun s hs => ⟨s, hs, .refl _, List.Subset.refl _⟩
  objectSelector := fun s hs => ⟨s, hs, .refl _, List.Subset.refl _⟩
  rules := fun r hr => ⟨r, hr, List.Subset.refl _, List.Subset.refl _⟩

/-! ## Webhooks that block -/

/-- The rule takes in pods, in the group that they are in. -/
structure WebhookRule.CoversPods (r : WebhookRule) : Prop where
  apiGroup : ∃ g ∈ r.apiGroups, g = "" ∨ g = "*"
  resource : ∃ x ∈ r.resources, x = "*" ∨ x = "*/*" ∨ x = "pods" ∨ x = "pods/*"

/-- While the webhook cannot be reached, no pod without labels is let into a namespace with
the labels `home`. -/
structure Webhook.Blocks (w : Webhook) (home : StringMap) : Prop where
  failurePolicy : w.failurePolicy = none ∨ w.failurePolicy = some "Fail"
  rule : ∃ r ∈ w.rules, r.CoversPods
  namespaceSelector : ∀ s ∈ w.namespaceSelector,
    s.matchLabels.Within home ∧ ∀ r ∈ s.matchExpressions, r.MetBy home
  objectSelector : ∀ s ∈ w.objectSelector,
    s.matchLabels = ∅ ∧ ∀ r ∈ s.matchExpressions, r.operator = .notIn ∨ r.operator = .absent

namespace WebhookRule

variable {r r' : WebhookRule}

theorem coversPods_iff : r.CoversPods ↔ r.coversPods = true := by
  simp only [coversPods, Bool.and_eq_true, List.any_eq_true, Bool.or_eq_true, beq_iff_eq,
    List.contains_iff_mem, List.mem_cons, List.not_mem_nil, or_false]
  exact ⟨fun h => ⟨h.apiGroup, h.resource⟩, fun h => ⟨h.1, h.2⟩⟩

theorem CoversPods.of_narrows (h : r'.CoversPods) (hr : r.Narrows r') : r.CoversPods := by
  obtain ⟨⟨g, hg, hcore⟩, x, hx, hpods⟩ := h
  exact ⟨⟨g, hr.apiGroups hg, hcore⟩, x, hr.resources hx, hpods⟩

end WebhookRule

namespace Webhook

variable {w w' : Webhook} {home : StringMap}

theorem failsClosed_iff :
    w.failsClosed = true ↔ w.failurePolicy = none ∨ w.failurePolicy = some "Fail" := by
  rw [failsClosed, beq_iff_eq]
  cases w.failurePolicy <;> simp

/-- The conditions as they are computed, in one go. -/
theorem blocks_iff :
    w.Blocks home ↔ (w.failsClosed && w.rules.any (·.coversPods) && w.admits home) = true := by
  simp only [admits, Bool.and_eq_true, failsClosed_iff, List.any_eq_true, ← WebhookRule.coversPods_iff,
    Option.all_eq_true, LabelSelector.selects_iff, StringMap.within_empty_iff,
    LabelRequirement.metBy_empty_iff]
  constructor
  · intro h
    exact ⟨⟨h.failurePolicy, h.rule⟩, h.namespaceSelector, h.objectSelector⟩
  · rintro ⟨⟨hpolicy, hrule⟩, hnamespace, hobject⟩
    exact ⟨hpolicy, hrule, hnamespace, hobject⟩

instance (w : Webhook) (home : StringMap) : Decidable (w.Blocks home) :=
  decidable_of_iff _ blocks_iff.symm

/-- What a narrower webhook blocks, the wider one blocks as well. -/
theorem Blocks.of_narrows (h : w'.Blocks home) (hw : w.Narrows w') : w.Blocks home where
  failurePolicy := hw.failurePolicy ▸ h.failurePolicy
  rule := by
    obtain ⟨r', hr', hpods⟩ := h.rule
    obtain ⟨r, hr, hnarrows⟩ := hw.rules r' hr'
    exact ⟨r, hr, hpods.of_narrows hnarrows⟩
  namespaceSelector := by
    intro s hs
    obtain ⟨s', hs', hnarrows⟩ := hw.namespaceSelector s hs
    obtain ⟨hlabels, hmet⟩ := h.namespaceSelector s' hs'
    exact ⟨hnarrows.matchLabels.trans hlabels, fun r hr => hmet r (hnarrows.matchExpressions hr)⟩
  objectSelector := by
    intro s hs
    obtain ⟨s', hs', hnarrows⟩ := hw.objectSelector s hs
    obtain ⟨hlabels, hmet⟩ := h.objectSelector s' hs'
    have hempty : s.matchLabels.Within ∅ := hlabels ▸ hnarrows.matchLabels
    exact ⟨StringMap.within_empty_iff.1 hempty, fun r hr => hmet r (hnarrows.matchExpressions hr)⟩

end Webhook

/-! ## What is reported -/

/-- What is said of a webhook that blocks. -/
def Webhook.blockReport (w : Webhook) : Diagnostic :=
  .about "admission-controller-webhook-replacement" .error w.kind w.configuration
    (w.wording "blocks pods in kube-system when its backend is unavailable")

theorem Webhook.Narrows.blockReport_eq {w w' : Webhook} (h : w.Narrows w') :
    w'.blockReport = w.blockReport := by
  simp only [Webhook.blockReport, Webhook.wording, h.kind, h.configuration, h.name]

namespace Snapshot

/-- What is said of the webhooks that block pods of a namespace with the labels `home`. -/
def blockReports (s : Snapshot) (home : StringMap) : List Diagnostic :=
  (s.webhookSites.filter fun w => w.Blocks home).map Webhook.blockReport

theorem diagnostics_webhookReplacement (s : Snapshot) :
    webhookReplacement.diagnostics s = s.blockReports s.systemLabels := by
  have hfindings : webhookReplacement.findings s =
      (s.webhookSites.filter fun w => w.Blocks s.systemLabels).map fun w =>
        w.finding "blocks pods in kube-system when its backend is unavailable" := by
    refine flatMap_eq_map_filter fun w _ => ?_
    simp only [decide_eq_true_iff, Webhook.blocks_iff]
    split
    · rfl
    · rfl
  rw [Rule.diagnostics, hfindings, List.map_map, blockReports]
  refine List.map_congr_left fun w _ => ?_
  rw [Function.comp_apply, Webhook.finding, Webhook.message_eq_wording]
  rfl

/-- Narrower webhooks are said of no more, in front of the same labels. -/
theorem blockReports_sublist {s s' : Snapshot} (home : StringMap)
    (h : List.Forall₂ Webhook.Narrows s.webhookSites s'.webhookSites) :
    (s'.blockReports home).Sublist (s.blockReports home) := by
  refine map_filter_sublist_of_forall₂ h.flip (fun w' w hw hblocks => ?_) fun w' w hw => ?_
  · exact decide_eq_true ((of_decide_eq_true hblocks).of_narrows hw)
  · exact hw.blockReport_eq.symm

/-- **Webhooks in the way of replacement.** Reported are the webhooks that block pods of the
system namespace, each once, the validating ones first. What selectors of namespaces are held
against are the labels that are on record for it, or the one that every namespace has if
there are none on record. No webhook is added to the report by narrowing webhooks. -/
theorem blocking_exact (s : Snapshot) :
    (∀ ns ∈ s.systemNamespace, ∀ labels ∈ ns.metadata.labels,
      webhookReplacement.diagnostics s = s.blockReports labels) ∧
    ((∀ ns ∈ s.systemNamespace, ns.metadata.labels = none) →
      webhookReplacement.diagnostics s =
        s.blockReports (.ofList [("kubernetes.io/metadata.name", "kube-system")])) ∧
    ∀ s' : Snapshot, s'.systemNamespace = s.systemNamespace →
      List.Forall₂ Webhook.Narrows s.webhookSites s'.webhookSites →
      (webhookReplacement.diagnostics s').Sublist (webhookReplacement.diagnostics s) := by
  simp only [diagnostics_webhookReplacement]
  refine ⟨fun ns hns labels hlabels => ?_, fun hunknown => ?_, fun s' hsystem hwebhooks => ?_⟩
  · rw [Option.mem_def] at hns hlabels
    rw [systemLabels, hns, Option.bind_some, hlabels, Option.getD_some]
  · rw [systemLabels, Option.bind_eq_none_iff.2 hunknown]
    rfl
  · have hlabels : s'.systemLabels = s.systemLabels := by rw [systemLabels, systemLabels, hsystem]
    rw [hlabels]
    exact blockReports_sublist _ hwebhooks

/-- Rules of which one half is met now and then without the other. -/
def halfRules : List WebhookRule :=
  [{ apiGroups := ["apps"], resources := ["pods"] }, { apiGroups := [""], resources := ["nodes"] }]

/-- A webhook that lets nothing pass but what is marked. -/
def gate : ValidatingWebhook where
  name := "gate"
  namespaceSelector := some { matchExpressions := [.named "team" "DoesNotExist" []] }
  objectSelector := some { matchExpressions := [.named "pass" "NotIn" ["yes"]] }
  rules := halfRules ++ [{ apiGroups := ["batch", "*"], resources := ["jobs", "pods/*"] }]

/-- The gate, with one rule less, one group and one resource less in another, and one more
expression in a selector. -/
def narrowGate : ValidatingWebhook where
  name := "gate"
  namespaceSelector := gate.namespaceSelector
  objectSelector := some
    { matchExpressions := [.named "app" "Exists" [], .named "pass" "NotIn" ["yes"]] }
  rules := [{ apiGroups := ["apps"], resources := ["pods"] }, { apiGroups := ["*"], resources := ["pods/*"] }]

/-- A webhook about the pods of the system namespace itself. -/
def sidecar : MutatingWebhook where
  name := "sidecar"
  failurePolicy := some "Fail"
  namespaceSelector := some { matchLabels := .ofList [("kubernetes.io/metadata.name", "kube-system")] }
  rules := [{ apiGroups := [""], resources := ["*"] }]

/-- A webhook about the pods of namespaces that are marked in some way. -/
def tiered : MutatingWebhook where
  name := "tiered"
  namespaceSelector := some { matchExpressions := [.named "tier" "In" ["system"]] }
  rules := [{ apiGroups := ["*"], resources := ["*/*"] }]

/-- The system namespace is marked. -/
def watchful : Snapshot where
  systemNamespace := some { metadata := {
    name? := some "kube-system"
    labels := some (.ofList [("kubernetes.io/metadata.name", "kube-system"), ("tier", "system")]) } }
  validatingWebhooks :=
    [{ metadata := { name? := some "policy" }, webhooks := [{ name := "split", rules := halfRules }, gate] }]
  mutatingWebhooks := [{
    metadata := { name? := some "mesh" }
    webhooks := [sidecar, { sidecar with name := "lenient", failurePolicy := some "Ignore" }, tiered] }]

/-- The gate is narrower, and the sidecar has a selector of objects. -/
def narrowWatchful : Snapshot where
  systemNamespace := watchful.systemNamespace
  validatingWebhooks :=
    [{ metadata := { name? := some "policy" },
       webhooks := [{ name := "split", rules := halfRules }, narrowGate] }]
  mutatingWebhooks := [{
    metadata := { name? := some "mesh" }
    webhooks := [{ sidecar with objectSelector := some {} },
      { sidecar with name := "lenient", failurePolicy := some "Ignore" }, tiered] }]

/-- The labels of the system namespace are not known. -/
def unlabelled : Snapshot :=
  { watchful with systemNamespace := some { metadata := { name? := some "kube-system" } } }

theorem narrows_watchful :
    List.Forall₂ Webhook.Narrows watchful.webhookSites narrowWatchful.webhookSites :=
  .cons (.refl _) <| .cons ⟨rfl, rfl, rfl, rfl, by decide, by decide, by decide⟩ <|
    .cons ⟨rfl, rfl, rfl, rfl, by decide, by decide, by decide⟩ <|
    .cons (.refl _) <| .cons (.refl _) .nil

theorem blocking_exact_watchful :
    (∃ ns ∈ watchful.systemNamespace, ∃ labels ∈ ns.metadata.labels,
      webhookReplacement.diagnostics watchful = watchful.blockReports labels) ∧
    webhookReplacement.diagnostics unlabelled =
      unlabelled.blockReports (.ofList [("kubernetes.io/metadata.name", "kube-system")]) ∧
    (webhookReplacement.diagnostics narrowWatchful).Sublist (webhookReplacement.diagnostics watchful) ∧
    (webhookReplacement.diagnostics watchful).map (·.message) =
      ["Validating webhook 'gate' blocks pods in kube-system when its backend is unavailable",
        "Mutating webhook 'sidecar' blocks pods in kube-system when its backend is unavailable",
        "Mutating webhook 'tiered' blocks pods in kube-system when its backend is unavailable"] ∧
    (webhookReplacement.diagnostics narrowWatchful).map (·.message) =
      ["Mutating webhook 'sidecar' blocks pods in kube-system when its backend is unavailable",
        "Mutating webhook 'tiered' blocks pods in kube-system when its backend is unavailable"] ∧
    (webhookReplacement.diagnostics unlabelled).map (·.message) =
      ["Validating webhook 'gate' blocks pods in kube-system when its backend is unavailable",
        "Mutating webhook 'sidecar' blocks pods in kube-system when its backend is unavailable"] := by
  have hunknown : ∀ ns ∈ unlabelled.systemNamespace, ns.metadata.labels = none := by
    rintro _ ⟨⟩
    rfl
  exact ⟨⟨_, rfl, _, rfl, (blocking_exact watchful).1 _ rfl _ rfl⟩,
    (blocking_exact unlabelled).2.1 hunknown,
    (blocking_exact watchful).2.2 narrowWatchful rfl narrows_watchful, by decide, by decide, by decide⟩

end Snapshot

end ClusterAudit
