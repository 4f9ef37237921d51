/-
Rules about admission webhooks. Those of validating and of mutating
configurations have all in common that these rules look at, so both are looked
at as `Webhook`s, and only the messages tell them apart.
-/
import ClusterAudit.Check

namespace ClusterAudit

namespace WebhookRule

/-- Whether the rule takes in pods. -/
def coversPods (r : WebhookRule) : Bool :=
  r.apiGroups.any (fun g => g == "" || g == "*") &&
  r.resources.any fun x => ["*", "*/*", "pods", "pods/*"].contains x

end WebhookRule

/-- What the rules look at of a webhook, and of the configuration that it is in. -/
structure Webhook where
  kind : Kind
  configuration : Metadata
  name : String
  service : Option WebhookService
  failurePolicy : Option String
  timeoutSeconds : Option Int
  namespaceSelector : Option LabelSelector
  objectSelector : Option LabelSelector
  rules : List WebhookRule

namespace Webhook

/-- What messages begin with. -/
def label (w : Webhook) : String :=
  match w.kind with
  | .mutatingWebhookConfiguration => "Mutating"
  | _ => "Validating"

def message (w : Webhook) (fault : String) : String :=
  w.label ++ " webhook '" ++ w.name ++ "' " ++ fault

def finding (w : Webhook) (fault : String) : Finding := ⟨w.kind, w.configuration, w.message fault⟩

/-- Whether requests are refused while the webhook cannot be reached. -/
def failsClosed (w : Webhook) : Bool := w.failurePolicy.getD "Fail" == "Fail"

/-- Whether objects without labels, in a namespace with the labels `home`, are
shown to the webhook. -/
def admits (w : Webhook) (home : StringMap) : Bool :=
  w.namespaceSelector.all (·.selects home) && w.objectSelector.all (·.selects {})

end Webhook

def ValidatingConfiguration.views (c : ValidatingConfiguration) : List Webhook :=
  c.webhooks.map fun w => {
    kind := .validatingWebhookConfiguration
    configuration := c.metadata
    name := w.name
    service := w.service
    failurePolicy := w.failurePolicy
    timeoutSeconds := w.timeoutSeconds
    namespaceSelector := w.namespaceSelector
    objectSelector := w.objectSelector
    rules := w.rules }

def MutatingConfiguration.views (c : MutatingConfiguration) : List Webhook :=
  c.webhooks.map fun w => {
    kind := .mutatingWebhookConfiguration
    configuration := c.metadata
    name := w.name
    service := w.service
    failurePolicy := w.failurePolicy
    timeoutSeconds := w.timeoutSeconds
    namespaceSelector := w.namespaceSelector
    objectSelector := w.objectSelector
    rules := w.rules }

/-- The metadata of a configuration are in the view of each of its webhooks. -/
theorem ValidatingConfiguration.views_withMetadata (c : ValidatingConfiguration) (m : Metadata) :
    { c with metadata := m }.views = c.views.map fun w => { w with configuration := m } := by
  rw [views, views, List.map_map]
  rfl

theorem MutatingConfiguration.views_withMetadata (c : MutatingConfiguration) (m : Metadata) :
    { c with metadata := m }.views = c.views.map fun w => { w with configuration := m } := by
  rw [views, views, List.map_map]
  rfl

namespace Snapshot

/-- All webhooks, those of validating configurations first. -/
def webhooks (s : Snapshot) : List Webhook :=
  s.validatingWebhooks.flatMap (·.views) ++ s.mutatingWebhooks.flatMap (·.views)

/-- The labels of the system namespace. If they are not known, the one that the
API server puts on every namespace is taken for granted. -/
def systemLabels (s : Snapshot) : StringMap :=
  (s.systemNamespace.bind (·.metadata.labels)).getD
    (.ofList [("kubernetes.io/metadata.name", systemNamespaceName)])

end Snapshot

namespace Checks

def webhookFindings (s : Snapshot) (faults : Webhook → List String) : List Finding :=
  s.webhooks.flatMap fun w => (faults w).map w.finding

/-- Each finding is about the configuration that its webhook is in. -/
theorem webhookFindings_eq (s : Snapshot) (faults : Webhook → List String) :
    webhookFindings s faults =
      (s.findings .validatingWebhookConfiguration fun (c : ValidatingConfiguration) =>
        c.views.flatMap fun w => (faults w).map w.message) ++
      s.findings .mutatingWebhookConfiguration fun (c : MutatingConfiguration) =>
        c.views.flatMap fun w => (faults w).map w.message := by
  simp only [webhookFindings, Snapshot.webhooks, Snapshot.findings, ValidatingConfiguration.views,
    MutatingConfiguration.views, List.flatMap_append, List.flatMap_assoc, List.flatMap_map,
    List.map_flatMap, List.map_map]
  rfl

/-- A service outside of the snapshot's scope may well exist, so only its
namespace is looked for. -/
def webhookTarget : Rule where
  name := "admission-controller-webhook"
  groups := ["admission"]
  description := "Checks that admission webhooks point at an existing service"
  severity := .error
  kinds := [.validatingWebhookConfiguration, .mutatingWebhookConfiguration]
  findings s :=
    let namespaces := s.namespaces.map (·.metadata.name)
    let services := s.services.map (·.metadata.key)
    webhookFindings s fun w =>
      match w.service with
      | none => []
      | some target =>
        if !namespaces.contains target.ns then
          ["is configured against a service in a namespace that does not exist"]
        else if s.scope.covers (some target.ns) && !services.contains (target.ns, target.name) then
          ["is configured against a service that does not exist"]
        else []

/-- The longest timeout, in seconds, that ends before the API server gives up
by itself. -/
def longestTimeout : Int := 29

def webhookTimeout : Rule where
  name := "admission-controller-webhook-timeout"
  groups := ["admission"]
  description := "Checks for admission webhooks with a timeout above 29 seconds"
  severity := .warning
  kinds := [.validatingWebhookConfiguration, .mutatingWebhookConfiguration]
  findings s := webhookFindings s fun w =>
    match w.timeoutSeconds with
    | none => []
    | some t =>
      if longestTimeout < t then
        ["timeout of " ++ toString t ++ "s exceeds " ++ toString longestTimeout ++ "s"]
      else []

/-- While the service behind such a webhook is down, the pods of the system
namespace cannot be replaced, and so may be what the service waits for. -/
def webhookReplacement : Rule where
  name := "admission-controller-webhook-replacement"
  groups := ["admission"]
  description := "Checks for fail-closed pod webhooks that apply to the kube-system namespace"
  severity := .error
  kinds := [.validatingWebhookConfiguration, .mutatingWebhookConfiguration]
  findings s :=
    let labels := s.systemLabels
    webhookFindings s fun w =>
      if w.failsClosed && w.rules.any (·.coversPods) && w.admits labels then
        ["blocks pods in " ++ Snapshot.systemNamespaceName ++ " when its backend is unavailable"]
      else []

end Checks

end ClusterAudit
