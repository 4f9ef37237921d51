/-
What is reported does not depend on timing: neither on the order in which the
workers finish nor, if all goes well, on that in which the checks stand.

Sorting by namespace, object and check leaves many diagnostics tied. But tied
diagnostics carry one check's name, so they come from one check (`Labelled`), and
within its batch nothing moves. Hence all orders of the batches sort to the same
list (`Labelled.sorted_eq`), and all that is printed is printed from that.
-/
import ClusterAudit.CommandLine.Execution
import ClusterAudit.Proofs.Inspection
import ClusterAudit.Proofs.RegistryFacts
import ClusterAudit.Proofs.ReportOrder

namespace ClusterAudit

/-- If at most one element of a list contributes anything, their order does not
matter. -/
theorem flatMap_eq_of_perm {α β : Type} {f : α → List β} {l l' : List α} (hp : l.Perm l')
    (h : l.Pairwise fun a b => f a = [] ∨ f b = []) : l.flatMap f = l'.flatMap f := by
  induction hp with
  | nil => rfl
  | cons a _ ih =>
    rw [List.flatMap_cons, List.flatMap_cons, ih (List.pairwise_cons.1 h).2]
  | swap a b l =>
    have hba : f b = [] ∨ f a = [] := (List.pairwise_cons.1 h).1 a (by simp)
    rcases hba with hb | ha
    · simp [hb]
    · simp [ha]
  | trans hp _ ih ih' =>
    have hsymm : ∀ {a b}, (f a = [] ∨ f b = []) → (f b = [] ∨ f a = []) := Or.symm
    exact (ih h).trans (ih' ((hp.pairwise_iff hsymm).1 h))

/-- Checks whose diagnostics of `s` tell which of the checks they come from. -/
structure Labelled (s : Snapshot) (checks : List Check) : Prop where
  distinct : (checks.map (·.name)).Nodup
  own : ∀ c ∈ checks, ∀ d ∈ c.batch s, d.check = c.name

namespace Labelled

open StableSort

variable {s : Snapshot} {checks order : List Check}

theorem perm (h : Labelled s checks) (hp : order.Perm checks) : Labelled s order where
  distinct := (hp.map _).nodup_iff.2 h.distinct
  own := fun c hc => h.own c (hp.mem_iff.1 hc)

/-- The diagnostics of one key come from one check. -/
theorem name_eq (h : Labelled s checks) {c : Check} (hc : c ∈ checks) {k : List (List String)}
    {d : Diagnostic} (hd : d ∈ ofKey Diagnostic.sortKey k (c.batch s)) :
    d.sortKey = k ∧ c.name = d.check := by
  obtain ⟨hd, hk⟩ := mem_ofKey.1 hd
  exact ⟨hk, (h.own c hc d hd).symm⟩

theorem apart (h : Labelled s checks) (k : List (List String)) :
    checks.Pairwise fun c c' =>
      ofKey Diagnostic.sortKey k (c.batch s) = [] ∨ ofKey Diagnostic.sortKey k (c'.batch s) = [] := by
  have hnames : checks.Pairwise fun c c' => c.name ≠ c'.name := List.pairwise_map.1 h.distinct
  refine hnames.imp_of_mem fun {c c'} hc hc' hne => ?_
  refine Classical.byContradiction fun hboth => hne ?_
  rw [not_or, List.eq_nil_iff_forall_not_mem, List.eq_nil_iff_forall_not_mem] at hboth
  simp only [Classical.not_forall, Classical.not_not] at hboth
  obtain ⟨⟨d, hd⟩, d', hd'⟩ := hboth
  obtain ⟨hk, hname⟩ := h.name_eq hc hd
  obtain ⟨hk', hname'⟩ := h.name_eq hc' hd'
  have hcheck : d.check = d'.check := (Diagnostic.sortKey_eq_iff.1 (hk.trans hk'.symm)).2.2
  rw [hname, hname', hcheck]

/-- **All orders of the batches sort to the same list.** -/
theorem sorted_eq (h : Labelled s checks) (hp : order.Perm checks) (screen : Screen) :
    (Report.screened screen (order.flatMap (·.batch s))).sorted =
      (Report.screened screen (checks.flatMap (·.batch s))).sorted := by
  refine Report.sorted_eq_sorted_iff.2 fun k => ?_
  have hofKey : ∀ l : List Check, ofKey Diagnostic.sortKey k (l.flatMap (·.batch s)) =
      l.flatMap fun c => ofKey Diagnostic.sortKey k (c.batch s) := fun l => List.filter_flatMap
  have hscreen : ∀ ds, ofKey Diagnostic.sortKey k (Report.screened screen ds).diagnostics =
      (ofKey Diagnostic.sortKey k ds).filter screen.passes := fun ds => List.filter_comm _ _ _
  rw [hscreen, hscreen, hofKey, hofKey, flatMap_eq_of_perm hp ((h.perm hp).apart k)]

end Labelled

theorem Rule.check_of_mem_diagnostics {r : Rule} {s : Snapshot} {d : Diagnostic}
    (h : d ∈ r.diagnostics s) : d.check = r.name := by
  obtain ⟨f, -, rfl⟩ := List.mem_map.1 h
  rfl

namespace Checks

theorem exists_rule_of_mem_resolve {selection : Selection} {c : Check}
    (hc : c ∈ selection.resolve registry) : ∃ r ∈ rules, r.check = c := by
  have hcatalog : c ∈ catalog := by
    rw [← checks_registry]
    exact ((selection.mem_resolve_iff sound_registry).1 hc).1
  exact List.mem_map.1 hcatalog

/-- Whatever is selected of the checks that this program brings with it. -/
theorem labelled_resolve (selection : Selection) (s : Snapshot) :
    Labelled s (selection.resolve registry) where
  distinct := selection.nodup_resolve sound_registry
  own := fun c hc d hd => by
    obtain ⟨r, -, rfl⟩ := exists_rule_of_mem_resolve hc
    exact Rule.check_of_mem_diagnostics hd

theorem reports_resolve (selection : Selection) (s : Snapshot) :
    ∀ c ∈ selection.resolve registry, c.Reports s := by
  intro c hc
  obtain ⟨r, -, rfl⟩ := exists_rule_of_mem_resolve hc
  exact ⟨_, r.run_check s⟩

end Checks

namespace Run

variable {s : Snapshot} {checks checks' : List Check}

/-- If all goes well. -/
theorem map_sorted_inspect (t t' : Schedule) (screen : Screen) (h : Labelled s checks)
    (hp : checks'.Perm checks) (hall : ∀ c ∈ checks, c.Reports s) :
    (inspect t s checks screen).map Report.sorted =
      (inspect t' s checks' screen).map Report.sorted := by
  by_cases hne : checks = []
  · subst hne
    rw [hp.eq_nil]
    rfl
  · have hne' : checks' ≠ [] := fun he => hne (he ▸ hp).nil_eq.symm
    have hall' : ∀ c ∈ checks', c.Reports s := fun c hc => hall c (hp.mem_iff.1 hc)
    rw [inspect_eq_ok hne hall, inspect_eq_ok hne' hall']
    have hfinishing : (t.finishing checks).Perm checks := t.finishing_perm checks
    have hfinishing' : (t'.finishing checks').Perm checks := (t'.finishing_perm checks').trans hp
    exact congrArg Except.ok
      ((h.sorted_eq hfinishing screen).trans (h.sorted_eq hfinishing' screen).symm)

theorem toOption_map {α β : Type} (f : α → β) (x : Except Failure α) :
    (x.map f).toOption = x.toOption.map f := by cases x <;> rfl

/-- Whether or not all goes well. Which failure is told may still depend on the
order of the checks. -/
theorem toOption_sorted_inspect (t t' : Schedule) (screen : Screen) (h : Labelled s checks)
    (hp : checks'.Perm checks) :
    (inspect t s checks screen).toOption.map Report.sorted =
      (inspect t' s checks' screen).toOption.map Report.sorted := by
  by_cases hall : ∀ c ∈ checks, c.Reports s
  · rw [← toOption_map, map_sorted_inspect t t' screen h hp hall, toOption_map]
  · have hfails : ∃ c ∈ checks, ¬ c.Reports s := by simpa using hall
    have hfails' : ∃ c ∈ checks', ¬ c.Reports s := by simpa [hp.mem_iff] using hall
    obtain ⟨e, he⟩ : ∃ e, inspect t s checks screen = .error e := inspect_fails_iff.2 (.inr hfails)
    obtain ⟨e', he'⟩ : ∃ e, inspect t' s checks' screen = .error e :=
      inspect_fails_iff.2 (.inr hfails')
    rw [he, he']
    rfl

end Run

/-! ## What is printed -/

namespace CommandLine.RunRequest

theorem render_eq_comp (q : RunRequest) :
    q.render = (match q.format with
      | .text => Report.text
      | .json => Report.document) ∘ Report.sorted := by
  funext r
  unfold render
  cases q.format <;> rfl

theorem render_eq_of_sorted {r r' : Report} (q : RunRequest) (h : r.sorted = r'.sorted) :
    q.render r = q.render r' := by
  rw [render_eq_comp, Function.comp_apply, Function.comp_apply, h]

/-- What a run that was carried out prints, and how it ends. -/
def announce (q : RunRequest) : Except Failure Report → Result
  | .error e => { ending := .error ⟨"lint run failed", e⟩ }
  | .ok r => { text := q.render r, ending := .ok r.hasErrors }

theorem announce_eq_of_sorted (q : RunRequest) {x y : Except Failure Report}
    (h : x.map Report.sorted = y.map Report.sorted) : q.announce x = q.announce y := by
  cases x with
  | error e =>
    cases y with
    | error e' =>
      cases h
      rfl
    | ok r' => cases h
  | ok r =>
    cases y with
    | error e' => cases h
    | ok r' =>
      have hsorted : r.sorted = r'.sorted := Except.ok.inj h
      have herrors : r.hasErrors = r'.hasErrors := by
        rw [← r.hasErrors_sorted, hsorted, r'.hasErrors_sorted]
      simp only [announce, render_eq_of_sorted q hsorted, herrors]

variable {m : Type → Type} [Monad m] [LawfulMonad m]

theorem execute_eq_announce (t : Schedule) (fetch : Scope → m (Except Failure Snapshot))
    (registry : Registry) (q : RunRequest) :
    q.execute t fetch registry =
      match q.filters with
      | .error complaint => pure { ending := .error complaint }
      | .ok (selection, scope) =>
        q.announce <$> Run.perform t fetch registry selection { severity := q.level } scope := by
  unfold execute
  cases q.filters with
  | error complaint => rfl
  | ok chosen =>
    obtain ⟨selection, scope⟩ := chosen
    simp only [map_eq_pure_bind]
    refine bind_congr fun x => ?_
    cases x <;> rfl

/-- A registry that lists the same checks in another order will do as well. -/
theorem execute_eq (q : RunRequest) (t t' : Schedule) (fetch : Scope → m (Except Failure Snapshot))
    {registry : Registry} (hp : ∀ selection : Selection,
      (selection.resolve registry).Perm (selection.resolve Checks.registry)) :
    q.execute t fetch Checks.registry = q.execute t' fetch registry := by
  rw [execute_eq_announce, execute_eq_announce]
  cases q.filters with
  | error complaint => rfl
  | ok chosen =>
    obtain ⟨selection, scope⟩ := chosen
    simp only [Run.perform, map_bind]
    refine bind_congr fun answer => ?_
    cases answer with
    | error e => rfl
    | ok s =>
      have hsorted := Run.map_sorted_inspect t t' { severity := q.level }
        (Checks.labelled_resolve selection (s.narrow scope)) (hp selection)
        (Checks.reports_resolve selection _)
      rw [map_pure, map_pure, announce_eq_of_sorted q hsorted]

end CommandLine.RunRequest

/-! ## The whole -/

namespace Run

open CommandLine (RunRequest)

/-- **Timing does not show.** For checks that label what they hand in, reports are
equal once they are sorted, and so is what is printed of them, in whatever order
the workers finish and the checks stand. All that can be selected of this
program's own checks is such a list, so a run of the program prints the same at
any time, even if it were to register its checks in another order. -/
theorem timing_irrelevant :
    (∀ (s : Snapshot) (checks checks' : List Check) (screen : Screen) (t t' : Schedule),
      Labelled s checks → checks'.Perm checks →
        (inspect t s checks screen).toOption.map Report.sorted =
            (inspect t' s checks' screen).toOption.map Report.sorted ∧
          ∀ q : RunRequest, (inspect t s checks screen).toOption.map q.render =
            (inspect t' s checks' screen).toOption.map q.render) ∧
    (∀ (selection : Selection) (s : Snapshot), Labelled s (selection.resolve Checks.registry)) ∧
    ∀ (m : Type → Type) [Monad m] [LawfulMonad m] (t t' : Schedule)
      (fetch : Scope → m (Except Failure Snapshot)) (checks : List Check) (q : RunRequest),
      checks.Perm Checks.catalog →
        q.execute t fetch Checks.registry =
          q.execute t' fetch (Registry.empty.registerAll checks).1 := by
  refine ⟨fun s checks checks' screen t t' h hp => ?_, Checks.labelled_resolve, ?_⟩
  · have hsorted := toOption_sorted_inspect t t' screen h hp
    refine ⟨hsorted, fun q => ?_⟩
    rw [q.render_eq_comp, ← Option.map_map, hsorted, Option.map_map]
  · intro m _ _ t t' fetch checks q hp
    have hsound : (Registry.empty.registerAll checks).1.Sound :=
      Registry.sound_empty.registerAll checks
    have hchecks : (Registry.empty.registerAll checks).1.checks.Perm Checks.registry.checks := by
      rwa [(Checks.registerAll_of_perm hp).2, Checks.checks_registry]
    have hperm : ∀ selection : Selection, (selection.resolve (Registry.empty.registerAll checks).1).Perm
        (selection.resolve Checks.registry) := fun selection =>
      selection.perm_resolve Checks.sound_registry hsound hchecks
    exact q.execute_eq t t' fetch hperm

/-- Diagnostics of two checks, with nothing but the checks' names to tell them apart. -/
theorem timing_irrelevant_repeaters :
    Labelled {} repeaters ∧ repeaters.reverse.Perm repeaters ∧
      Checks.catalog.reverse.Perm Checks.catalog ∧
      (inspect .inTurn {} repeaters {}).toOption.map Report.sorted =
        (inspect .inReverse {} repeaters.reverse {}).toOption.map Report.sorted ∧
      ∀ q : RunRequest,
        q.execute (m := Id) .inTurn (fun _ => .ok {}) Checks.registry =
          q.execute (m := Id) .inReverse (fun _ => .ok {})
            (Registry.empty.registerAll Checks.catalog.reverse).1 := by
  have hlabelled : Labelled {} repeaters := ⟨by simp [repeaters, Check.scripted], by
    simp [repeaters, Check.scripted, Check.batch, Outcome.diagnostics, repeated]⟩
  have hp : repeaters.reverse.Perm repeaters := List.reverse_perm _
  have hcatalog : Checks.catalog.reverse.Perm Checks.catalog := List.reverse_perm _
  exact ⟨hlabelled, hp, hcatalog, (timing_irrelevant.1 {} _ _ {} _ _ hlabelled hp).1, fun q =>
    timing_irrelevant.2.2 Id _ _ _ _ q hcatalog⟩

end Run

end ClusterAudit
