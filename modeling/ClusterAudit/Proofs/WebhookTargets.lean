/-
Which webhooks are reported for what they point at, and what the scope has to do
with it.

`lacks` lists the webhooks at fault, each with what it lacks, and all that is reported
is worded from that (`diagnostics_webhookTarget`). Narrowing takes from it what is
about namespaces that exist outside of the scope, and nothing else (`lacks_narrow`):
whether a service is there can no longer be told for those.
-/
import Mathlib.Data.List.Basic
import ClusterAudit.Checks.Webhooks
import ClusterAudit.Proofs.Narrowing

namespace ClusterAudit

open Checks (webhookTarget)

/-- What a webhook points at and what is not there. -/
inductive Lack where
  | ofNamespace
  | ofService
  deriving DecidableEq

namespace Lack

def text : Lack → String
  | ofNamespace => "is configured against a service in a namespace that does not exist"
  | ofService => "is configured against a service that does not exist"

end Lack

namespace Webhook

/-- A message about the webhook: of which kind it is, what it is called and what is wrong. -/
def wording (w : Webhook) (fault : String) : String :=
  (if w.kind = .mutatingWebhookConfiguration then "Mutating" else "Validating") ++
    " webhook '" ++ w.name ++ "' " ++ fault

theorem message_eq_wording (w : Webhook) (fault : String) : w.message fault = w.wording fault := by
  unfold message wording label
  split
  next h => rw [if_pos h]
  next h => rw [if_neg h]

/-- What is reported of a webhook at fault. -/
def report (w : Webhook) (lack : Lack) : Diagnostic :=
  .about "admission-controller-webhook" .error w.kind w.configuration (w.wording lack.text)

end Webhook

namespace Snapshot

/-- All webhooks with what there is to say about them, in the order in which they are judged:
those of validating configurations, and then those of mutating ones. -/
def webhookSites (s : Snapshot) : List Webhook :=
  (s.validatingWebhooks.flatMap fun c => c.webhooks.map fun w =>
    ⟨.validatingWebhookConfiguration, c.metadata, w.name, w.service, w.failurePolicy, w.timeoutSeconds,
      w.namespaceSelector, w.objectSelector, w.rules⟩) ++
  s.mutatingWebhooks.flatMap fun c => c.webhooks.map fun w =>
    ⟨.mutatingWebhookConfiguration, c.metadata, w.name, w.service, w.failurePolicy, w.timeoutSeconds,
      w.namespaceSelector, w.objectSelector, w.rules⟩

/-- The views that the rules take of webhooks leave nothing out and mix nothing up. -/
theorem webhooks_eq (s : Snapshot) : s.webhooks = s.webhookSites := rfl

/-! ## What is missing -/

def HasNamespace (s : Snapshot) (ns : String) : Prop := ∃ n ∈ s.namespaces, n.metadata.name = ns

instance (s : Snapshot) (ns : String) : Decidable (s.HasNamespace ns) :=
  inferInstanceAs (Decidable (∃ n ∈ s.namespaces, n.metadata.name = ns))

def HasService (s : Snapshot) (target : WebhookService) : Prop :=
  ∃ x ∈ s.services, x.metadata.key = (target.ns, target.name)

instance (s : Snapshot) (target : WebhookService) : Decidable (s.HasService target) :=
  inferInstanceAs (Decidable (∃ x ∈ s.services, x.metadata.key = (target.ns, target.name)))

end Snapshot

/-- Whether what is said to be missing is missing from `s`. -/
def Lack.HoldsIn (s : Snapshot) (target : WebhookService) : Lack → Prop
  | ofNamespace => ¬ s.HasNamespace target.ns
  | ofService => ¬ s.HasService target

namespace Snapshot

variable {s : Snapshot} {sc : Scope} {w : Webhook} {target : WebhookService} {lack : Lack}

/-- A missing service is only told of in a namespace that is on record. -/
def lack? (s : Snapshot) (target : WebhookService) : Option Lack :=
  if ¬ s.HasNamespace target.ns then some .ofNamespace
  else if s.scope.covers (some target.ns) = true ∧ ¬ s.HasService target then some .ofService
  else none

/-- The webhooks at fault, each with what it lacks. -/
def lacks (s : Snapshot) : List (Webhook × Lack) :=
  s.webhookSites.filterMap fun w => (w.service.bind s.lack?).map (w, ·)

theorem diagnostics_webhookTarget (s : Snapshot) :
    webhookTarget.diagnostics s = s.lacks.map fun (w, lack) => w.report lack := by
  have hns : ∀ ns, (s.namespaces.map (·.metadata.name)).contains ns = decide (s.HasNamespace ns) := by
    intro ns
    rw [Bool.eq_iff_iff, decide_eq_true_iff]
    simp [HasNamespace]
  have hservice : ∀ target : WebhookService,
      (s.services.map (·.metadata.key)).contains (target.ns, target.name) = decide (s.HasService target) := by
    intro target
    rw [Bool.eq_iff_iff, decide_eq_true_iff]
    simp [HasService]
  rw [Rule.diagnostics, webhookTarget, lacks, List.map_filterMap, List.filterMap_eq_flatMap_toList]
  simp only [Checks.webhookFindings, webhooks_eq, List.map_flatMap, hns, hservice]
  refine List.flatMap_congr fun w _ => ?_
  cases w.service with
  | none => rfl
  | some target =>
    by_cases hn : s.HasNamespace target.ns
    · by_cases hc : s.scope.covers (some target.ns) = true ∧ ¬ s.HasService target
      · simp [lack?, hn, hc, Webhook.report, Webhook.finding, Webhook.message_eq_wording, Lack.text]
      · simp [lack?, hn, hc]
    · simp [lack?, hn, Webhook.report, Webhook.finding, Webhook.message_eq_wording, Lack.text]

theorem mem_lacks :
    (w, lack) ∈ s.lacks ↔
      w ∈ s.webhookSites ∧ ∃ target ∈ w.service, s.lack? target = some lack := by
  simp only [lacks, List.mem_filterMap, Option.map_eq_some_iff, Option.bind_eq_some_iff, Prod.mk.injEq]
  constructor
  · rintro ⟨_, hw, _, ⟨target, htarget, hlack⟩, rfl, rfl⟩
    exact ⟨hw, target, htarget, hlack⟩
  · rintro ⟨hw, target, htarget, hlack⟩
    exact ⟨w, hw, lack, ⟨target, htarget, hlack⟩, rfl, rfl⟩

theorem lack?_eq_ofNamespace_iff :
    s.lack? target = some .ofNamespace ↔ ¬ s.HasNamespace target.ns := by
  by_cases hn : s.HasNamespace target.ns
  · simp [lack?, hn]
  · simp [lack?, hn]

theorem lack?_eq_ofService_iff :
    s.lack? target = some .ofService ↔
      s.HasNamespace target.ns ∧ s.scope.covers (some target.ns) = true ∧ ¬ s.HasService target := by
  by_cases hn : s.HasNamespace target.ns
  · simp [lack?, hn]
  · simp [lack?, hn]

/-! ## In a scope -/

/-- Whether the scope leaves out the namespace of the webhook's service, and there is
such a namespace. -/
def hides (s : Snapshot) (sc : Scope) (w : Webhook) : Bool :=
  w.service.any fun target => s.HasNamespace target.ns && !sc.covers (some target.ns)

theorem webhookSites_narrow : (s.narrow sc).webhookSites = s.webhookSites := rfl

theorem hasNamespace_narrow {ns : String} : (s.narrow sc).HasNamespace ns ↔ s.HasNamespace ns := Iff.rfl

theorem hasService_narrow (hc : sc.covers (some target.ns) = true) :
    (s.narrow sc).HasService target ↔ s.HasService target := by
  have hkept : ∀ x : Service, x.metadata.key = (target.ns, target.name) →
      sc.covers x.metadata.ns = true := fun x hx =>
    Scope.covers_of_home (by rw [show x.metadata.home = target.ns from congrArg Prod.fst hx, hc])
  constructor
  · rintro ⟨x, hx, hkey⟩
    exact ⟨x, ((mem_items_narrow (k := .service) rfl).1 hx).1, hkey⟩
  · rintro ⟨x, hx, hkey⟩
    exact ⟨x, (mem_items_narrow (k := .service) rfl).2 ⟨hx, hkept x hkey⟩, hkey⟩

/-- What is missing in a scope is what is missing, but for what the scope hides. -/
theorem lack?_narrow (s : Snapshot) (sc : Scope) (target : WebhookService) :
    (s.narrow sc).lack? target =
      if s.HasNamespace target.ns ∧ sc.covers (some target.ns) = false then none
      else (s.narrow .all).lack? target := by
  have hall : (s.narrow .all).HasService target ↔ s.HasService target := hasService_narrow rfl
  unfold lack?
  simp only [hasNamespace_narrow, scope_narrow, hall, Scope.covers_all, true_and]
  by_cases hn : s.HasNamespace target.ns
  · by_cases hc : sc.covers (some target.ns) = true
    · simp [hn, hc, hasService_narrow hc]
    · simp [hn, hc]
  · simp [hn]

theorem lacks_narrow (s : Snapshot) (sc : Scope) :
    (s.narrow sc).lacks = (s.narrow .all).lacks.filter fun p => !s.hides sc p.1 := by
  unfold lacks
  rw [List.filter_filterMap]
  simp only [webhookSites_narrow]
  refine List.filterMap_congr fun w _ => ?_
  cases hservice : w.service with
  | none => rfl
  | some target =>
    have hhides : s.hides sc w = decide (s.HasNamespace target.ns ∧ sc.covers (some target.ns) = false) := by
      simp [hides, hservice]
    rw [Option.bind_some, Option.bind_some, lack?_narrow s sc]
    cases (s.narrow .all).lack? target with
    | none => simp
    | some lack =>
      by_cases hh : s.HasNamespace target.ns ∧ sc.covers (some target.ns) = false
      · rw [if_pos hh, Option.map_some, Option.filter_some, hhides, decide_eq_true hh]
        rfl
      · rw [if_neg hh, Option.map_some, Option.filter_some, hhides, decide_eq_false hh]
        rfl

/-- What is reported in a scope is true of the whole snapshot. -/
theorem holdsIn_of_mem_lacks_narrow (h : (w, lack) ∈ (s.narrow sc).lacks) :
    ∃ target ∈ w.service, lack.HoldsIn s target := by
  obtain ⟨-, target, htarget, hlack⟩ := mem_lacks.1 h
  refine ⟨target, htarget, ?_⟩
  cases lack with
  | ofNamespace => exact fun h => lack?_eq_ofNamespace_iff.1 hlack (hasNamespace_narrow.2 h)
  | ofService =>
    obtain ⟨-, hc, hservice⟩ := lack?_eq_ofService_iff.1 hlack
    exact fun h => hservice ((hasService_narrow hc).2 h)

/-- Neither a missing namespace nor a missing service in the scope gets lost. -/
theorem mem_lacks_narrow_of_mem (h : (w, lack) ∈ (s.narrow .all).lacks)
    (htarget : target ∈ w.service)
    (hscope : lack = .ofNamespace ∨ sc.covers (some target.ns) = true) :
    (w, lack) ∈ (s.narrow sc).lacks := by
  rw [lacks_narrow, List.mem_filter]
  refine ⟨h, ?_⟩
  rw [Option.mem_def] at htarget
  obtain ⟨-, target', htarget', hlack⟩ := mem_lacks.1 h
  rw [Option.mem_def, htarget, Option.some_inj] at htarget'
  subst htarget'
  rcases hscope with rfl | hc
  · have hn : ¬ s.HasNamespace target.ns := fun h =>
      lack?_eq_ofNamespace_iff.1 hlack (hasNamespace_narrow.2 h)
    simp [hides, htarget, hn]
  · simp [hides, htarget, hc]

/-- **A scope hides what is outside of it and nothing else.** Of the webhooks that are
reported in the whole snapshot those are left, in their order, whose service is not in
a namespace that exists outside of the scope. So what is reported is true, and
neither a missing namespace nor a missing service in the scope is passed over. -/
theorem lacks_narrow_exact (s : Snapshot) (sc : Scope) :
    (∀ t : Snapshot, webhookTarget.diagnostics t = t.lacks.map fun (w, lack) => w.report lack) ∧
      (s.narrow sc).lacks = ((s.narrow .all).lacks.filter fun p => !s.hides sc p.1) ∧
      (∀ p ∈ (s.narrow sc).lacks, ∃ target ∈ p.1.service, p.2.HoldsIn s target) ∧
      ∀ p ∈ (s.narrow .all).lacks, ∀ target ∈ p.1.service,
        p.2 = .ofNamespace ∨ sc.covers (some target.ns) = true → p ∈ (s.narrow sc).lacks :=
  ⟨diagnostics_webhookTarget, lacks_narrow s sc, fun _ hp => holdsIn_of_mem_lacks_narrow hp,
    fun _ hp _ htarget hscope => mem_lacks_narrow_of_mem hp htarget hscope⟩

/-! ## A cluster with gaps -/

/-- Three namespaces and one service. Of the webhooks one calls that service, one a
service that is missing beside it, one a missing service in another namespace, one a
missing namespace, and one no service at all. -/
def gappy : Snapshot where
  namespaces := ["policy", "prod", "dev"].map fun ns => { metadata := { name? := some ns } }
  services := [{ metadata := { name? := some "gatekeeper", ns := some "policy" } }]
  validatingWebhooks := [{
    metadata := { name? := some "checks" }
    webhooks := [{ name := "ok", service := some { ns := "policy", name := "gatekeeper" } },
      { name := "hidden", service := some { ns := "policy", name := "gone" } },
      { name := "seen", service := some { ns := "prod", name := "gone" } }] }]
  mutatingWebhooks := [{
    metadata := { name? := some "changes" }
    webhooks := [{ name := "nowhere", service := some { ns := "removed", name := "gatekeeper" } },
      { name := "elsewhere" }] }]

/-- The webhook in the third place. -/
def seen : Webhook where
  kind := .validatingWebhookConfiguration
  configuration := { name? := some "checks" }
  name := "seen"
  service := some { ns := "prod", name := "gone" }
  failurePolicy := none
  timeoutSeconds := none
  namespaceSelector := none
  objectSelector := none
  rules := []

theorem seen_mem_lacks : (seen, .ofService) ∈ (gappy.narrow .all).lacks := by
  refine mem_lacks.2 ⟨?_, { ns := "prod", name := "gone" }, rfl, by decide⟩
  exact List.mem_cons_of_mem _ (List.mem_cons_of_mem _ List.mem_cons_self)

theorem lacks_narrow_exact_gappy :
    (seen, .ofService) ∈ (gappy.narrow .all).lacks ∧
      (Scope.only "prod").covers (some "prod") = true ∧
      (seen, .ofService) ∈ (gappy.narrow (.only "prod")).lacks ∧
      ((gappy.narrow .all).lacks.map fun p => (p.1.name, p.2)) =
        [("hidden", .ofService), ("seen", .ofService), ("nowhere", .ofNamespace)] ∧
      ((gappy.narrow (.only "prod")).lacks.map fun p => (p.1.name, p.2)) =
        [("seen", .ofService), ("nowhere", .ofNamespace)] :=
  ⟨seen_mem_lacks, by decide,
    (lacks_narrow_exact gappy (.only "prod")).2.2.2 _ seen_mem_lacks { ns := "prod", name := "gone" } rfl
      (.inr (by decide)),
    by decide, by decide⟩

end Snapshot

end ClusterAudit
