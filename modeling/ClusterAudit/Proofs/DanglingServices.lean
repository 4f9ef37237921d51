/-
Which services are reported to be in front of nothing: those that select by labels, and
have no pod in their namespace with all of the labels.

The rule looks pods up by namespace. `Service.DanglesAmong` goes through all of them
instead, and comes to the same (`diagnostics_danglingService`). It is read off there that
more pods and more labels on them can only help a service, and that more keys in its
selector can only harm it.
-/
import ClusterAudit.Proofs.Correspondence
import ClusterAudit.Proofs.ScopedRules
import ClusterAudit.Proofs.SelectorLaws

namespace ClusterAudit

open Checks (danglingService podsByHome reachesPods)

/-! ## Pods behind services -/

namespace Pod

/-- No labels are as good as none in particular. -/
def labels (p : Pod) : StringMap := p.metadata.labels.getD ∅

/-- The pod is in the namespace of the service and has all labels that are asked for. An
object without a namespace counts as being in the empty one. -/
def IsBehind (p : Pod) (x : Service) (selector : StringMap) : Prop :=
  p.metadata.home = x.metadata.home ∧ selector.Within p.labels

instance (p : Pod) (x : Service) (selector : StringMap) : Decidable (p.IsBehind x selector) :=
  inferInstanceAs (Decidable (_ ∧ _))

/-- The pod `p'` stands in for `p` wherever it is selected. -/
def Covers (p' p : Pod) : Prop := p'.metadata.home = p.metadata.home ∧ p.labels.Within p'.labels

instance (p' p : Pod) : Decidable (p'.Covers p) := inferInstanceAs (Decidable (_ ∧ _))

variable {p p' : Pod} {x : Service} {selector : StringMap}

theorem IsBehind.of_covers (h : p.IsBehind x selector) (hp : p'.Covers p) : p'.IsBehind x selector :=
  ⟨hp.1.trans h.1, h.2.trans hp.2⟩

/-- A pod without labels is behind no service that asks for some. -/
theorem within_labels_iff (h : selector ≠ ∅) :
    selector.Within p.labels ↔ ∃ labels ∈ p.metadata.labels, selector.selects labels = true := by
  simp only [StringMap.selects_iff, ne_eq, h, not_false_eq_true, true_and]
  cases hl : p.metadata.labels with
  | none => simp [labels, hl, StringMap.within_empty_iff, h]
  | some m => simp [labels, hl]

end Pod

/-! ## Services in front of nothing -/

namespace Service

variable {x x' : Service} {pods pods' : List Pod}

/-- The service should lead to pods, and none of `pods` is behind it. -/
def DanglesAmong (x : Service) (pods : List Pod) : Prop :=
  ∃ spec ∈ x.spec, spec.type ≠ some "ExternalName" ∧ spec.selector ≠ ∅ ∧
    ¬ ∃ p ∈ pods, p.IsBehind x spec.selector

instance (x : Service) (pods : List Pod) : Decidable (x.DanglesAmong pods) :=
  inferInstanceAs (Decidable (∃ spec ∈ x.spec, _))

theorem danglesAmong_iff {spec : ServiceSpec} (h : x.spec = some spec) :
    x.DanglesAmong pods ↔ ¬ ((spec.type = some "ExternalName" ∨ spec.selector = ∅) ∨
      ∃ p ∈ pods, p.IsBehind x spec.selector) := by
  simp only [DanglesAmong, h, Option.mem_some_iff, exists_eq_left', not_or, ne_eq, and_assoc]

/-- `x'` is `x`, with more keys in its selector. -/
def GainsKeys (x x' : Service) : Prop :=
  ∃ spec, Option.Rel (fun old new : ServiceSpec =>
      ∃ selector, old.selector.Within selector ∧ new = { old with selector }) x.spec spec ∧
    x' = { x with spec }

theorem GainsKeys.refl (x : Service) : x.GainsKeys x := by
  refine ⟨x.spec, ?_, rfl⟩
  cases x.spec with
  | none => exact .none
  | some spec => exact .some ⟨spec.selector, .refl _, rfl⟩

theorem GainsKeys.metadata_eq (h : x.GainsKeys x') : x'.metadata = x.metadata := by
  obtain ⟨spec, -, rfl⟩ := h
  rfl

theorem DanglesAmong.of_covered (h : x.DanglesAmong pods')
    (hpods : ∀ p ∈ pods, ∃ p' ∈ pods', p'.Covers p) : x.DanglesAmong pods := by
  obtain ⟨spec, hspec, htype, hselector, hnone⟩ := h
  refine ⟨spec, hspec, htype, hselector, ?_⟩
  rintro ⟨p, hp, hbehind⟩
  obtain ⟨p', hp', hcovers⟩ := hpods p hp
  exact hnone ⟨p', hp', hbehind.of_covers hcovers⟩

theorem DanglesAmong.of_gainsKeys (h : x.DanglesAmong pods) (hx : x.GainsKeys x') :
    x'.DanglesAmong pods := by
  obtain ⟨old, hold, htype, hselector, hnone⟩ := h
  obtain ⟨spec, hspec, rfl⟩ := hx
  rw [Option.mem_def.1 hold] at hspec
  obtain ⟨selector, hwithin, rfl⟩ := hspec
  have hstill : selector ≠ ∅ := by
    rintro rfl
    exact hselector (StringMap.within_empty_iff.1 hwithin)
  refine ⟨_, rfl, htype, hstill, ?_⟩
  rintro ⟨p, hp, hhome, hlabels⟩
  exact hnone ⟨p, hp, hhome, hwithin.trans hlabels⟩

end Service

namespace Checks

/-! ## What is reported -/

theorem reachesPods_eq_true_iff {pods : List Pod} {x : Service} {selector : StringMap}
    (h : selector ≠ ∅) :
    reachesPods (podsByHome pods) x selector = true ↔ ∃ p ∈ pods, p.IsBehind x selector := by
  simp only [reachesPods_iff, Pod.IsBehind, Pod.within_labels_iff h, and_comm]

/-- What is passed over is what does not dangle. -/
theorem passedOver_eq {pods : List Pod} {x : Service} {spec : ServiceSpec} (h : x.spec = some spec) :
    (spec.type == some "ExternalName" || spec.selector.isEmpty
        || reachesPods (podsByHome pods) x spec.selector) = !decide (x.DanglesAmong pods) := by
  rw [Bool.eq_iff_iff, Bool.not_eq_true', decide_eq_false_iff_not, Service.danglesAmong_iff h, not_not,
    Bool.or_eq_true, Bool.or_eq_true, beq_iff_eq, StringMap.isEmpty_iff]
  -- An empty selector takes no pod through the index and every pod by its meaning, so the two
  -- agree only where there is something to select by.
  by_cases hselector : spec.selector = ∅
  · simp only [hselector, or_true, true_or]
  · rw [reachesPods_eq_true_iff hselector]

/-- What is said of a service in front of nothing. -/
def danglingReport (x : Service) : Diagnostic :=
  .about "dangling-service" .warning .service x.metadata "Service selector matches no pods"

theorem diagnostics_danglingService (s : Snapshot) :
    danglingService.diagnostics s =
      (s.services.filter fun x => x.DanglesAmong s.pods).map danglingReport := by
  have hfindings : danglingService.findings s = s.findings .service fun x =>
      if !decide (x.DanglesAmong s.pods) then [] else ["Service selector matches no pods"] := by
    refine congrArg (s.findings .service) (funext fun (x : Service) => ?_)
    cases hspec : x.spec with
    | none => simp [Service.DanglesAmong, hspec]
    | some spec => simp only [passedOver_eq hspec]
  rw [Rule.diagnostics, hfindings, Snapshot.findings_ite, List.map_map]
  simp only [Bool.not_not]
  rfl

/-- **Services in front of nothing.** What the rule finds by way of an index is what a search
through all pods finds. More pods, or more labels on them, add nothing to the report, and
more keys in selectors take nothing from it. -/
theorem dangling_exact (s : Snapshot) :
    danglingService.diagnostics s =
      (s.services.filter fun x => x.DanglesAmong s.pods).map danglingReport ∧
    (∀ pods : List Pod, (∀ p ∈ s.pods, ∃ p' ∈ pods, p'.Covers p) →
      (danglingService.diagnostics { s with pods }).Sublist (danglingService.diagnostics s)) ∧
    ∀ services : List Service, List.Forall₂ Service.GainsKeys s.services services →
      (danglingService.diagnostics s).Sublist (danglingService.diagnostics { s with services }) := by
  refine ⟨diagnostics_danglingService s, fun pods hpods => ?_, fun services hservices => ?_⟩
  · rw [diagnostics_danglingService, diagnostics_danglingService]
    have hfewer : ∀ x : Service, decide (x.DanglesAmong pods) = true →
        decide (x.DanglesAmong s.pods) = true := fun x hx =>
      decide_eq_true ((of_decide_eq_true hx).of_covered hpods)
    exact (List.monotone_filter_right s.services hfewer).map danglingReport
  · rw [diagnostics_danglingService, diagnostics_danglingService]
    refine map_filter_sublist_of_forall₂ hservices (fun x x' hkeys hx => ?_) fun x x' hkeys => ?_
    · exact decide_eq_true ((of_decide_eq_true hx).of_gainsKeys hkeys)
    · rw [danglingReport, danglingReport, hkeys.metadata_eq]

/-- A service that selects by `keys`. -/
def selecting (name : String) (ns : Option String) (keys : List (String × String)) : Service where
  metadata := { name? := some name, ns }
  spec := some { selector := .ofList keys }

/-- A pod in front, one without labels, and one outside of namespaces. Of the services one leads
to the first pod and one to the last. One would lead to the last but for its namespace, and
the others need no pods. -/
def frontends : Snapshot where
  pods := [
    { metadata := { ns := some "prod", labels := some (.ofList [("app", "web"), ("tier", "front")]) } },
    { metadata := { ns := some "prod" } },
    { metadata := { labels := some (.ofList [("app", "db")]) } }]
  services := [selecting "web" (some "prod") [("app", "web")], selecting "adrift" none [("app", "db")],
    selecting "gone" (some "prod") [("app", "db")], selecting "manual" (some "prod") [],
    { metadata := { name? := some "outside" }
      spec := some { type := some "ExternalName", selector := .ofList [("app", "none")] } },
    { metadata := { name? := some "blank" } }]

/-- The same pods in another order, the one without labels labelled. -/
def relabelled : List Pod :=
  [{ metadata := { ns := some "prod", labels := some (.ofList [("app", "db")]) } },
   { metadata := { labels := some (.ofList [("app", "db")]) } },
   { metadata := { ns := some "prod", labels := some (.ofList [("app", "web"), ("tier", "front")]) } }]

/-- The same services, of which the first asks for one more label. -/
def stricter : List Service :=
  selecting "web" (some "prod") [("app", "web"), ("tier", "back")] :: frontends.services.tail

theorem gainsKeys_stricter : List.Forall₂ Service.GainsKeys frontends.services stricter := by
  refine .cons ⟨_, .some ⟨_, ?_, rfl⟩, rfl⟩ (List.forall₂_same.2 fun x _ => .refl x)
  decide

theorem dangling_exact_frontends :
    (∀ p ∈ frontends.pods, ∃ p' ∈ relabelled, p'.Covers p) ∧
      List.Forall₂ Service.GainsKeys frontends.services stricter ∧
      (danglingService.diagnostics { frontends with pods := relabelled }).Sublist
        (danglingService.diagnostics frontends) ∧
      (danglingService.diagnostics frontends).Sublist
        (danglingService.diagnostics { frontends with services := stricter }) ∧
      (danglingService.diagnostics { frontends with pods := relabelled }) = [] ∧
      (danglingService.diagnostics frontends).map (·.subject.name) = ["gone"] ∧
      (danglingService.diagnostics { frontends with services := stricter }).map (·.subject.name) =
        ["web", "gone"] := by
  have hpods : ∀ p ∈ frontends.pods, ∃ p' ∈ relabelled, p'.Covers p := by decide
  obtain ⟨-, hgain, hlose⟩ := dangling_exact frontends
  exact ⟨hpods, gainsKeys_stricter, hgain _ hpods, hlose _ gainsKeys_stricter, by decide, by decide,
    by decide⟩

end Checks

end ClusterAudit
