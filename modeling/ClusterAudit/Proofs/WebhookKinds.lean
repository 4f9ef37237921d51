/-
Validating and mutating webhooks are judged alike.

Either kind of configuration can be turned into one of the other kind, field by field, and its
webhooks look the same to the rules then, but for the kind (`views_toMutating`). If all the
configurations of a snapshot are turned (`Snapshot.mirrored`), what is said of the one kind
becomes what is said of the other, in the same order and with no more difference than the kind
and the first word (`Diagnostic.Mirrors`): a rule about webhooks finds faults in them that do
not depend on the kind (`Rule.JudgesAlike`).
-/
import Mathlib.Data.List.Forall2
import ClusterAudit.Checks.Webhooks

namespace ClusterAudit

open Checks (webhookFindings webhookTarget webhookTimeout webhookReplacement)

/-! ## Turning webhooks into ones of the other kind -/

def ValidatingWebhook.toMutating (w : ValidatingWebhook) : MutatingWebhook where
  name := w.name
  service := w.service
  failurePolicy := w.failurePolicy
  timeoutSeconds := w.timeoutSeconds
  namespaceSelector := w.namespaceSelector
  objectSelector := w.objectSelector
  rules := w.rules

def MutatingWebhook.toValidating (w : MutatingWebhook) : ValidatingWebhook where
  name := w.name
  service := w.service
  failurePolicy := w.failurePolicy
  timeoutSeconds := w.timeoutSeconds
  namespaceSelector := w.namespaceSelector
  objectSelector := w.objectSelector
  rules := w.rules

def ValidatingConfiguration.toMutating (c : ValidatingConfiguration) : MutatingConfiguration where
  metadata := c.metadata
  webhooks := c.webhooks.map (·.toMutating)

def MutatingConfiguration.toValidating (c : MutatingConfiguration) : ValidatingConfiguration where
  metadata := c.metadata
  webhooks := c.webhooks.map (·.toValidating)

theorem ValidatingConfiguration.toValidating_toMutating (c : ValidatingConfiguration) :
    c.toMutating.toValidating = c := by
  rw [toMutating, MutatingConfiguration.toValidating, List.map_map]
  exact congrArg (ValidatingConfiguration.mk c.metadata) (List.map_id _)

theorem MutatingConfiguration.toMutating_toValidating (c : MutatingConfiguration) :
    c.toValidating.toMutating = c := by
  rw [toValidating, ValidatingConfiguration.toMutating, List.map_map]
  exact congrArg (MutatingConfiguration.mk c.metadata) (List.map_id _)

/-- A webhook that is looked at as if it were a mutating one. -/
def Webhook.asMutating (w : Webhook) : Webhook := { w with kind := .mutatingWebhookConfiguration }

/-- The rules see the same in a webhook of either kind. -/
theorem ValidatingConfiguration.views_toMutating (c : ValidatingConfiguration) :
    c.toMutating.views = c.views.map Webhook.asMutating := by
  rw [toMutating, MutatingConfiguration.views, views, List.map_map, List.map_map]
  rfl

theorem ValidatingConfiguration.kind_of_mem_views (cs : List ValidatingConfiguration) :
    ∀ w ∈ cs.flatMap (·.views), w.kind = .validatingWebhookConfiguration :=
  List.forall_mem_flatMap.2 fun _ _ => List.forall_mem_map.2 fun _ _ => rfl

theorem MutatingConfiguration.kind_of_mem_views (cs : List MutatingConfiguration) :
    ∀ w ∈ cs.flatMap (·.views), w.kind = .mutatingWebhookConfiguration :=
  List.forall_mem_flatMap.2 fun _ _ => List.forall_mem_map.2 fun _ _ => rfl

/-- Every configuration turned into one of the other kind. -/
def Snapshot.mirrored (s : Snapshot) : Snapshot :=
  { s with
    validatingWebhooks := s.mutatingWebhooks.map (·.toValidating)
    mutatingWebhooks := s.validatingWebhooks.map (·.toMutating) }

theorem Snapshot.mirrored_mirrored (s : Snapshot) : s.mirrored.mirrored = s := by
  have hvalidating : (s.validatingWebhooks.map (·.toMutating)).map (·.toValidating) =
      s.validatingWebhooks := by
    rw [List.map_map]
    exact List.map_id'' ValidatingConfiguration.toValidating_toMutating _
  have hmutating : (s.mutatingWebhooks.map (·.toValidating)).map (·.toMutating) =
      s.mutatingWebhooks := by
    rw [List.map_map]
    exact List.map_id'' MutatingConfiguration.toMutating_toValidating _
  simp only [mirrored, hvalidating, hmutating]

/-! ## What is said of them -/

/-- `m` says of a configuration of mutating webhooks what `v` says of one of validating
webhooks. -/
structure Diagnostic.Mirrors (v m : Diagnostic) : Prop where
  check : m.check = v.check
  severity : m.severity = v.severity
  validating : v.kind = .validatingWebhookConfiguration
  mutating : m.kind = .mutatingWebhookConfiguration
  message : ∃ text, v.message = "Validating" ++ text ∧ m.message = "Mutating" ++ text
  subject : m.subject = v.subject
  owners : m.owners = v.owners

namespace Rule

variable {r : Rule} {s : Snapshot}

/-- The rule finds faults in webhooks that it would find as well if all of them were of the
other kind. -/
def JudgesAlike (r : Rule) : Prop :=
  ∃ faults : Snapshot → Webhook → List String,
    (∀ s : Snapshot, r.findings s = webhookFindings s (faults s)) ∧
      ∀ (s : Snapshot) (w : Webhook) (k : Kind), faults s.mirrored { w with kind := k } = faults s w

/-- What the rule says of objects of the kind. -/
def diagnosticsOf (r : Rule) (k : Kind) (s : Snapshot) : List Diagnostic :=
  (r.diagnostics s).filter fun d => d.kind = k

/-- What the rule says of a webhook with some fault. -/
def charge (r : Rule) (w : Webhook) (fault : String) : Diagnostic :=
  .about r.name r.severity w.kind w.configuration (w.message fault)

def charges (r : Rule) (faults : Webhook → List String) (ws : List Webhook) : List Diagnostic :=
  ws.flatMap fun w => (faults w).map (r.charge w)

theorem mirrors_charge (r : Rule) {w : Webhook} (hw : w.kind = .validatingWebhookConfiguration)
    (fault : String) : (r.charge w fault).Mirrors (r.charge w.asMutating fault) where
  check := rfl
  severity := rfl
  validating := hw
  mutating := rfl
  message := by
    refine ⟨" webhook '" ++ w.name ++ "' " ++ fault, ?_, ?_⟩
    · simp only [charge, Diagnostic.about, Webhook.message, Webhook.label, hw, String.append_assoc]
    · simp only [charge, Diagnostic.about, Webhook.message, Webhook.label, Webhook.asMutating,
        String.append_assoc]
  subject := rfl
  owners := rfl

/-- Webhook by webhook, each with the faults that it would have as a mutating one. -/
theorem mirrors_charges (r : Rule) {faults faults' : Webhook → List String} {ws : List Webhook}
    (hws : ∀ w ∈ ws, w.kind = .validatingWebhookConfiguration)
    (hfaults : ∀ w, faults' w.asMutating = faults w) :
    List.Forall₂ Diagnostic.Mirrors (r.charges faults ws) (r.charges faults' (ws.map Webhook.asMutating)) := by
  induction ws with
  | nil => exact .nil
  | cons w ws ih =>
    rw [List.forall_mem_cons] at hws
    rw [List.map_cons, charges, charges, List.flatMap_cons, List.flatMap_cons, hfaults]
    refine List.rel_append ?_ (ih hws.2)
    rw [List.forall₂_map_left_iff, List.forall₂_map_right_iff]
    exact List.forall₂_same.2 fun fault _ => r.mirrors_charge hws.1 fault

theorem diagnostics_of_webhookFindings {faults : Webhook → List String}
    (h : r.findings s = webhookFindings s faults) :
    r.diagnostics s = r.charges faults (s.validatingWebhooks.flatMap (·.views)) ++
      r.charges faults (s.mutatingWebhooks.flatMap (·.views)) := by
  rw [diagnostics, h, webhookFindings, Snapshot.webhooks, List.flatMap_append, List.map_append,
    List.map_flatMap, List.map_flatMap]
  simp only [List.map_map]
  rfl

theorem filter_charges {kind k : Kind} {faults : Webhook → List String} {ws : List Webhook}
    (hws : ∀ w ∈ ws, w.kind = kind) :
    (r.charges faults ws).filter (fun d => d.kind = k) = if kind = k then r.charges faults ws else [] := by
  have hkind : ∀ d ∈ r.charges faults ws, d.kind = kind := by
    intro d hd
    obtain ⟨w, hw, hd⟩ := List.mem_flatMap.1 hd
    obtain ⟨fault, -, rfl⟩ := List.mem_map.1 hd
    exact hws w hw
  split
  next h => exact List.filter_eq_self.2 fun d hd => decide_eq_true ((hkind d hd).trans h)
  next h => exact List.filter_eq_nil_iff.2 fun d hd hk => h ((hkind d hd).symm.trans (of_decide_eq_true hk))

theorem diagnosticsOf_eq {faults : Webhook → List String} (h : r.findings s = webhookFindings s faults) :
    r.diagnosticsOf .validatingWebhookConfiguration s =
        r.charges faults (s.validatingWebhooks.flatMap (·.views)) ∧
      r.diagnosticsOf .mutatingWebhookConfiguration s =
        r.charges faults (s.mutatingWebhooks.flatMap (·.views)) := by
  simp only [diagnosticsOf, diagnostics_of_webhookFindings h, List.filter_append,
    filter_charges (ValidatingConfiguration.kind_of_mem_views _),
    filter_charges (MutatingConfiguration.kind_of_mem_views _)]
  exact ⟨List.append_nil _, rfl⟩

/-- What is said of validating webhooks is said of them as mutating ones. -/
theorem JudgesAlike.mirrors (h : r.JudgesAlike) (s : Snapshot) :
    List.Forall₂ Diagnostic.Mirrors (r.diagnosticsOf .validatingWebhookConfiguration s)
      (r.diagnosticsOf .mutatingWebhookConfiguration s.mirrored) := by
  obtain ⟨faults, hr, hfaults⟩ := h
  have hviews : s.mirrored.mutatingWebhooks.flatMap (·.views) =
      (s.validatingWebhooks.flatMap (·.views)).map Webhook.asMutating := by
    simp only [Snapshot.mirrored, List.flatMap_map, List.map_flatMap,
      ValidatingConfiguration.views_toMutating]
  rw [(diagnosticsOf_eq (hr s)).1, (diagnosticsOf_eq (hr s.mirrored)).2, hviews]
  exact r.mirrors_charges (ValidatingConfiguration.kind_of_mem_views _) fun w => hfaults s w _

theorem JudgesAlike.diagnostics_eq (h : r.JudgesAlike) (s : Snapshot) :
    r.diagnostics s = r.diagnosticsOf .validatingWebhookConfiguration s ++
      r.diagnosticsOf .mutatingWebhookConfiguration s := by
  obtain ⟨faults, hr, -⟩ := h
  rw [(diagnosticsOf_eq (hr s)).1, (diagnosticsOf_eq (hr s)).2, diagnostics_of_webhookFindings (hr s)]

end Rule

namespace Checks

/-- The rules about webhooks. -/
def webhookRules : List Rule := [webhookTarget, webhookTimeout, webhookReplacement]

theorem judgesAlike_of_mem : ∀ r ∈ webhookRules, r.JudgesAlike := by
  simp only [webhookRules, List.forall_mem_cons]
  -- What the rules look up, namespaces, services and the labels of the system, is the same in
  -- the mirror image, and none of them asks for the kind.
  exact ⟨⟨_, fun _ => rfl, fun _ _ _ => rfl⟩, ⟨_, fun _ => rfl, fun _ _ _ => rfl⟩,
    ⟨_, fun _ => rfl, fun _ _ _ => rfl⟩, List.forall_mem_nil _⟩

/-- **The kind of a webhook makes no difference.** If all webhooks change their kind, each
diagnostic changes its kind and the first word of its message. Those about the one kind
still come before those about the other, and there are none besides. -/
theorem kinds_judged_alike {r : Rule} (hr : r ∈ webhookRules) (s : Snapshot) :
    List.Forall₂ Diagnostic.Mirrors (r.diagnosticsOf .validatingWebhookConfiguration s)
      (r.diagnosticsOf .mutatingWebhookConfiguration s.mirrored) ∧
    List.Forall₂ Diagnostic.Mirrors (r.diagnosticsOf .validatingWebhookConfiguration s.mirrored)
      (r.diagnosticsOf .mutatingWebhookConfiguration s) ∧
    r.diagnostics s.mirrored = r.diagnosticsOf .validatingWebhookConfiguration s.mirrored ++
      r.diagnosticsOf .mutatingWebhookConfiguration s.mirrored := by
  have h : r.JudgesAlike := judgesAlike_of_mem r hr
  have hback := h.mirrors s.mirrored
  rw [Snapshot.mirrored_mirrored] at hback
  exact ⟨h.mirrors s, hback, h.diagnostics_eq s.mirrored⟩

/-- Slow webhooks of both kinds, and some with other faults. -/
def impatient : Snapshot where
  validatingWebhooks := [{
    metadata := { name? := some "policy", owners := [{ kind := "Operator", name := "policy" }] }
    webhooks := [
      { name := "a", timeoutSeconds := some 30 },
      { name := "b", timeoutSeconds := some 29, service := some { ns := "gone", name := "b" } },
      { name := "c", timeoutSeconds := some 60, rules := [{ apiGroups := [""], resources := ["pods"] }] }] }]
  mutatingWebhooks := [
    { metadata := { name? := some "mesh", annotations := .ofList [("team", "net")] }
      webhooks := [{ name := "d", timeoutSeconds := some 45 }] },
    { webhooks := [
      { name := "e", objectSelector := some {}, rules := [{ apiGroups := ["*"], resources := ["*"] }] }] }]

theorem kinds_judged_alike_impatient :
    (∀ r ∈ webhookRules,
      List.Forall₂ Diagnostic.Mirrors (r.diagnosticsOf .validatingWebhookConfiguration impatient)
        (r.diagnosticsOf .mutatingWebhookConfiguration impatient.mirrored)) ∧
      (webhookRules.map fun r => (r.diagnostics impatient).map (·.message)) =
        [["Validating webhook 'b' is configured against a service in a namespace that does not exist"],
          ["Validating webhook 'a' timeout of 30s exceeds 29s",
            "Validating webhook 'c' timeout of 60s exceeds 29s",
            "Mutating webhook 'd' timeout of 45s exceeds 29s"],
          ["Validating webhook 'c' blocks pods in kube-system when its backend is unavailable",
            "Mutating webhook 'e' blocks pods in kube-system when its backend is unavailable"]] ∧
      (webhookRules.map fun r => (r.diagnostics impatient.mirrored).map (·.message)) =
        [["Mutating webhook 'b' is configured against a service in a namespace that does not exist"],
          ["Validating webhook 'd' timeout of 45s exceeds 29s",
            "Mutating webhook 'a' timeout of 30s exceeds 29s",
            "Mutating webhook 'c' timeout of 60s exceeds 29s"],
          ["Validating webhook 'e' blocks pods in kube-system when its backend is unavailable",
            "Mutating webhook 'c' blocks pods in kube-system when its backend is unavailable"]] :=
  ⟨fun _ hr => (kinds_judged_alike hr impatient).1, by decide, by decide⟩

end Checks

end ClusterAudit
