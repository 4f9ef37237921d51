/-
What is reported does not depend on the order in which the API server lists objects.

Sorting by namespace, name and check leaves ties between diagnostics about objects of one
address, as several kinds may share one, and one object may have several faults. If no
two objects of a kind share their address (`Snapshot.Distinct`), then what is tied is told
apart by the kinds, which each rule goes through in an order of its own, and by the faults
of single objects. So it is enough that what is wrong with an object does not hang on the
order of the others (`Rule.Orderless`). One rule of the catalog lists the names of objects
in its messages; without the wording it is like the rest (`Rule.unworded`).
-/
import ClusterAudit.Proofs.ScopedRules
import ClusterAudit.Proofs.Timing

namespace ClusterAudit

/-- If no two contributions of the elements of a list can be told apart by which of them
comes first, the order of the elements does not matter. -/
theorem flatMap_eq_of_perm_of_commute {α β : Type} {f : α → List β} {l l' : List α} (hp : l.Perm l')
    (h : ∀ a ∈ l, ∀ b ∈ l, f a ++ f b = f b ++ f a) : l.flatMap f = l'.flatMap f := by
  induction hp with
  | nil => rfl
  | cons a _ ih =>
    rw [List.flatMap_cons, List.flatMap_cons]
    rw [ih fun b hb c hc => h b (List.mem_cons_of_mem _ hb) c (List.mem_cons_of_mem _ hc)]
  | swap a b l =>
    have hswap : f b ++ f a = f a ++ f b := h b (by simp) a (by simp)
    simp only [List.flatMap_cons, ← List.append_assoc, hswap]
  | trans hp _ ih ih' =>
    exact (ih h).trans (ih' fun a ha b hb => h a (hp.mem_iff.2 ha) b (hp.mem_iff.2 hb))

/-! ## Snapshots with the same objects -/

/-- Namespace and name, by which the API tells objects of one kind apart. An object
without a name counts as having an empty one. -/
def Metadata.address (m : Metadata) : Option String × String := (m.ns, m.name)

namespace Snapshot

/-- No two objects of one kind have the same address. -/
def Distinct (s : Snapshot) : Prop := ∀ k : Kind, ((s.items k).map fun o => (k.metadata o).address).Nodup

/-- `s'` has the objects of `s`, those of each kind in whatever order. -/
structure Rearranges (s' s : Snapshot) : Prop where
  items : ∀ k : Kind, (s'.items k).Perm (s.items k)
  systemNamespace : s'.systemNamespace = s.systemNamespace
  scope : s'.scope = s.scope

/-- The last objects of each kind first. -/
def reversed (s : Snapshot) : Snapshot :=
  build (fun k => (s.items k).reverse) s.systemNamespace s.scope

theorem reversed_rearranges (s : Snapshot) : s.reversed.Rearranges s where
  items := fun k => by
    rw [reversed, items_build]
    exact List.reverse_perm _
  systemNamespace := rfl
  scope := rfl

end Snapshot

/-! ## Findings about one address -/

namespace Finding

/-- Two lists that have the same findings about each address, in the same order. -/
def Agree (fs' fs : List Finding) : Prop :=
  ∀ a : Option String × String,
    fs'.filter (fun f => f.about.address = a) = fs.filter fun f => f.about.address = a

theorem Agree.append {fs fs' gs gs' : List Finding} (h : Agree fs' fs) (h' : Agree gs' gs) :
    Agree (fs' ++ gs') (fs ++ gs) := fun a => by
  rw [List.filter_append, List.filter_append, h a, h' a]

/-- Without its wording. -/
def unworded (f : Finding) : Finding := { f with message := "" }

theorem Agree.unworded {fs fs' : List Finding} (h : Agree fs' fs) :
    Agree (fs'.map Finding.unworded) (fs.map Finding.unworded) := fun a => by
  rw [List.filter_map, List.filter_map]
  exact congrArg (List.map Finding.unworded) (h a)

end Finding

namespace Snapshot

variable {s s' : Snapshot} {k : Kind}

theorem filter_faults (m : Metadata) (messages : List String) (a : Option String × String) :
    (messages.map fun message => Finding.mk k m message).filter (fun f => f.about.address = a) =
      if m.address = a then messages.map (Finding.mk k m) else [] := by
  by_cases h : m.address = a
  · simp [h]
  · simp [h]

/-- **Findings about objects of one kind.** `faults` may look at all of `s`, and `faults'` at all
of `s'`. -/
theorem Rearranges.findings (hp : s'.Rearranges s) (hs : s.Distinct) {faults faults' : k.Item → List String}
    (h : ∀ o ∈ s.items k, faults' o = faults o) :
    Finding.Agree (s'.findings k faults') (s.findings k faults) := by
  intro a
  have hfaults : s'.findings k faults' = s'.findings k faults :=
    List.flatMap_congr fun o ho => by rw [h o ((hp.items k).mem_iff.1 ho)]
  rw [hfaults, Snapshot.findings, Snapshot.findings, List.filter_flatMap, List.filter_flatMap]
  refine (flatMap_eq_of_perm (hp.items k).symm ?_).symm
  have hne : (s.items k).Pairwise fun o o' => (k.metadata o).address ≠ (k.metadata o').address :=
    List.pairwise_map.1 (hs k)
  refine hne.imp fun {o o'} hoo' => ?_
  rw [filter_faults, filter_faults]
  by_cases ho : (k.metadata o).address = a
  · exact .inr (if_neg fun ho' => hoo' (ho.trans ho'.symm))
  · exact .inl (if_neg ho)

end Snapshot

/-! ## Rules -/

namespace Rule

variable {r : Rule} {s s' : Snapshot}

/-- What the rule finds about an address does not hang on the order in which objects are
listed. -/
def Orderless (r : Rule) : Prop :=
  ∀ s s' : Snapshot, s.Distinct → s'.Rearranges s → Finding.Agree (r.findings s') (r.findings s)

/-- The rule, but for the wording of its messages. -/
def unworded (r : Rule) : Rule := { r with findings := fun s => (r.findings s).map Finding.unworded }

theorem Orderless.unworded (h : r.Orderless) : r.unworded.Orderless :=
  fun s s' hs hp => (h s s' hs hp).unworded

theorem Isolated.orderless {k : Kind} (h : r.Isolated k) : r.Orderless := by
  intro s s' hs hp
  obtain ⟨faults, hr⟩ := h
  rw [hr, hr]
  exact hp.findings hs fun _ _ => rfl

/-- The key that a diagnostic of the rule about an object of the address `a` is sorted by. -/
def keyAt (r : Rule) (a : Option String × String) : List (List String) :=
  [a.1.toList, [a.2], [r.name]]

theorem keyAt_injective (r : Rule) : Function.Injective r.keyAt := by
  rintro ⟨ns, name⟩ ⟨ns', name'⟩ h
  cases ns <;> cases ns' <;> simp_all [keyAt]

open StableSort

/-- So the diagnostics of each key come in the same order. -/
theorem Orderless.ofKey_diagnostics (h : r.Orderless) (hs : s.Distinct) (hp : s'.Rearranges s)
    (key : List (List String)) :
    ofKey Diagnostic.sortKey key (r.diagnostics s') = ofKey Diagnostic.sortKey key (r.diagnostics s) := by
  have hfilter : ∀ s : Snapshot, ofKey Diagnostic.sortKey key (r.diagnostics s) =
      ((r.findings s).filter fun f => r.keyAt f.about.address = key).map fun f =>
        .about r.name r.severity f.kind f.about f.message := fun s => by
    rw [ofKey, diagnostics, List.filter_map]
    refine congrArg (List.map _) (List.filter_congr fun f _ => ?_)
    simp only [Function.comp_apply, decide_eq_decide]
    rfl
  rw [hfilter, hfilter]
  refine congrArg (List.map _) ?_
  by_cases hkey : ∃ a, r.keyAt a = key
  · obtain ⟨a, rfl⟩ := hkey
    simp only [r.keyAt_injective.eq_iff]
    exact h s s' hs hp a
  · have hnone : ∀ f : Finding, decide (r.keyAt f.about.address = key) = false := fun f =>
      decide_eq_false fun hf => hkey ⟨_, hf⟩
    simp only [hnone, List.filter_false]

theorem Orderless.sorted_eq (h : r.Orderless) (hs : s.Distinct) (hp : s'.Rearranges s) :
    (Report.mk (r.diagnostics s')).sorted = (Report.mk (r.diagnostics s)).sorted :=
  Report.sorted_eq_sorted_iff.2 (h.ofKey_diagnostics hs hp)

end Rule

/-! ## Looking around in a rearranged snapshot -/

namespace Snapshot.Rearranges

variable {s s' : Snapshot}

theorem podSpecs (hp : s'.Rearranges s) : s'.podSpecs.Perm s.podSpecs :=
  ((hp.items .pod).filterMap _).append ((hp.items .podTemplate).filterMap _)

theorem podReferences (hp : s'.Rearranges s) (names : PodSpec → List String) :
    (s'.podReferences names).Perm (s.podReferences names) :=
  hp.podSpecs.flatMap_right _

theorem usedSecrets (hp : s'.Rearranges s) : s'.usedSecrets.Perm s.usedSecrets :=
  (hp.podReferences _).append ((hp.items .serviceAccount).flatMap_right _)

theorem isStatic (hp : s'.Rearranges s) (p : Pod) :
    Checks.isStatic s'.nodes p = Checks.isStatic s.nodes p := by
  have hnodes : ∀ node : String, (s'.nodes.any fun n => n.metadata.name? == some node) =
      s.nodes.any fun n => n.metadata.name? == some node := fun node => (hp.items .node).any_eq
  unfold Checks.isStatic
  simp only [hnodes]

theorem reachesPods (hp : s'.Rearranges s) (x : Service) (selector : StringMap) :
    Checks.reachesPods (Checks.podsByHome s'.pods) x selector =
      Checks.reachesPods (Checks.podsByHome s.pods) x selector := by
  have hmem : ∀ p : Pod, p ∈ s'.pods ↔ p ∈ s.pods := fun p => (hp.items .pod).mem_iff
  rw [Bool.eq_iff_iff, Checks.reachesPods_iff, Checks.reachesPods_iff]
  simp only [hmem]

theorem defaultStorageClasses (hp : s'.Rearranges s) :
    s'.defaultStorageClasses.Perm s.defaultStorageClasses :=
  (hp.items .storageClass).filter _

end Snapshot.Rearranges

namespace Checks

variable {s s' : Snapshot}

theorem orderless_barePods : barePods.Orderless := by
  intro s s' hs hp
  refine hp.findings hs (k := .pod) fun p _ => ?_
  rw [hp.isStatic]

theorem orderless_danglingService : danglingService.Orderless := by
  intro s s' hs hp
  refine hp.findings hs (k := .service) fun x _ => ?_
  simp only [hp.reachesPods]

theorem orderless_unusedConfigMap : unusedConfigMap.Orderless := by
  intro s s' hs hp
  refine hp.findings hs (k := .configMap) fun c _ => ?_
  have hused : s'.usedConfigMaps.contains c.metadata.key = s.usedConfigMaps.contains c.metadata.key :=
    (hp.podReferences _).contains_eq
  simp only [hused]

theorem orderless_unusedSecret : unusedSecret.Orderless := by
  intro s s' hs hp
  refine hp.findings hs (k := .secret) fun x _ => ?_
  simp only [hp.usedSecrets.contains_eq]

theorem orderless_unusedClaim : unusedClaim.Orderless := by
  intro s s' hs hp
  refine hp.findings hs (k := .persistentVolumeClaim) fun c _ => ?_
  have hused : s'.usedClaims.contains c.metadata.key = s.usedClaims.contains c.metadata.key :=
    (hp.podReferences _).contains_eq
  simp only [hused]

theorem orderless_missingStorageClass : missingStorageClass.Orderless := by
  intro s s' hs hp
  refine hp.findings hs (k := .persistentVolumeClaim) fun c _ => ?_
  have hnames : ∀ name : String, (s'.storageClasses.map (·.metadata.name)).contains name =
      (s.storageClasses.map (·.metadata.name)).contains name := fun name =>
    ((hp.items .storageClass).map _).contains_eq
  simp only [hnames]

/-- Kind by kind. -/
theorem agree_inDefault (hs : s.Distinct) (hp : s'.Rearranges s) (k : Kind) (isExempt : k.Item → Bool) :
    Finding.Agree (inDefault s' k isExempt) (inDefault s k isExempt) :=
  hp.findings hs fun _ _ => rfl

theorem orderless_defaultNamespace : defaultNamespace.Orderless := by
  intro s s' hs hp
  have hkind := agree_inDefault hs hp
  exact ((((((hkind .pod _).append (hkind .podTemplate _)).append
    (hkind .persistentVolumeClaim _)).append (hkind .configMap _)).append (hkind .service _)).append
    (hkind .secret _)).append (hkind .serviceAccount _)

/-- Validating webhooks first, and then mutating ones. -/
theorem agree_webhookFindings (hs : s.Distinct) (hp : s'.Rearranges s)
    {faults faults' : Webhook → List String}
    (h : faults' = faults) : Finding.Agree (webhookFindings s' faults') (webhookFindings s faults) := by
  rw [webhookFindings_eq, webhookFindings_eq, h]
  exact (hp.findings hs fun _ _ => rfl).append (hp.findings hs fun _ _ => rfl)

theorem orderless_webhookTarget : webhookTarget.Orderless := by
  intro s s' hs hp
  refine agree_webhookFindings hs hp (funext fun w => ?_)
  have hnamespaces : ∀ ns : String, (s'.namespaces.map (·.metadata.name)).contains ns =
      (s.namespaces.map (·.metadata.name)).contains ns := fun ns =>
    ((hp.items .namespaces).map _).contains_eq
  have hservices : ∀ key : String × String, (s'.services.map (·.metadata.key)).contains key =
      (s.services.map (·.metadata.key)).contains key := fun key =>
    ((hp.items .service).map _).contains_eq
  simp only [hnamespaces, hservices, hp.scope]

theorem orderless_webhookTimeout : webhookTimeout.Orderless :=
  fun _ _ hs hp => agree_webhookFindings hs hp rfl

theorem orderless_webhookReplacement : webhookReplacement.Orderless := by
  intro s s' hs hp
  have hlabels : s'.systemLabels = s.systemLabels := by
    rw [Snapshot.systemLabels, Snapshot.systemLabels, hp.systemNamespace]
  refine agree_webhookFindings hs hp ?_
  simp only [hlabels]

/-- How many classes are marked does not change, but the order in which they are named. -/
theorem orderless_unworded_defaultStorageClass : defaultStorageClass.unworded.Orderless := by
  intro s s' hs hp
  have hunworded : ∀ s : Snapshot, defaultStorageClass.unworded.findings s =
      s.findings .storageClass fun c =>
        if Snapshot.isDefaultClass c && 1 < s.defaultStorageClasses.length then [""] else [] := fun s => by
    simp only [Rule.unworded, defaultStorageClass, Snapshot.findings, List.map_flatMap, List.length_map]
    refine List.flatMap_congr fun c _ => ?_
    split <;> rfl
  rw [hunworded, hunworded]
  refine hp.findings hs fun c _ => ?_
  rw [hp.defaultStorageClasses.length_eq]

theorem orderless_of_mem : ∀ r ∈ rules, r.name ≠ "default-storage-class" → r.Orderless := by
  have hpod : ∀ r ∈ podRules, r.Orderless := fun r hr => (isolated_of_mem_podRules r hr).orderless
  simp only [podRules, List.forall_mem_cons] at hpod
  obtain ⟨hqualified, hlatest, hselector, hresources, hprobes, hhostPath, hprivileged, huser, hnamespaces,
    hescalation, -⟩ := hpod
  simp only [rules, List.forall_mem_cons]
  exact ⟨fun _ => orderless_barePods, fun _ => hqualified, fun _ => hlatest,
    fun _ => orderless_defaultNamespace, fun _ => hselector, fun _ => hresources, fun _ => hprobes,
    fun _ => isolated_cronJobConcurrency.orderless, fun _ => orderless_danglingService,
    fun _ => hhostPath, fun _ => orderless_unusedConfigMap, fun _ => orderless_unusedSecret,
    fun _ => isolated_unusedVolume.orderless, fun _ => orderless_unusedClaim, fun _ => hprivileged,
    fun _ => huser, fun _ => hnamespaces, fun _ => hescalation, fun _ => orderless_webhookTarget,
    fun _ => orderless_webhookTimeout, fun _ => orderless_webhookReplacement, fun h => absurd rfl h,
    fun _ => orderless_missingStorageClass, fun _ => isolated_volumeSnapshotValidity.orderless,
    fun _ => isolated_nodeNotReady.orderless, List.forall_mem_nil _⟩

theorem orderless_unworded_of_mem {r : Rule} (hr : r ∈ rules) : r.unworded.Orderless := by
  by_cases hname : r.name = "default-storage-class"
  · have hdefault : defaultStorageClass ∈ rules := by simp [rules]
    have heq : r = defaultStorageClass :=
      List.inj_on_of_nodup_map nodup_name_rules hr hdefault hname
    exact heq ▸ orderless_unworded_defaultStorageClass
  · exact (orderless_of_mem r hr hname).unworded

end Checks

/-! ## Runs -/

/-- Without its wording. -/
def Diagnostic.unworded (d : Diagnostic) : Diagnostic := { d with message := "" }

/-- Diagnostics are sorted regardless of their wording. -/
theorem Report.map_unworded_sorted (ds : List Diagnostic) :
    (Report.mk ds).sorted.diagnostics.map Diagnostic.unworded =
      (Report.mk (ds.map Diagnostic.unworded)).sorted.diagnostics :=
  List.map_mergeSort fun _ _ _ _ => rfl

theorem Rule.diagnostics_unworded (r : Rule) (s : Snapshot) :
    r.unworded.diagnostics s = (r.diagnostics s).map Diagnostic.unworded := by
  rw [diagnostics, diagnostics, unworded, List.map_map, List.map_map]
  rfl

namespace Run

open StableSort

variable {s s' : Snapshot} {checks : List Check}

/-- The checks of the catalog whose messages do not depend on how objects are listed. -/
def Steady (c : Check) : Prop := c ∈ Checks.catalog ∧ c.name ≠ "default-storage-class"

theorem Steady.exists_rule {c : Check} (h : Steady c) :
    ∃ r : Rule, r.check = c ∧ r ∈ Checks.rules ∧ r.Orderless := by
  obtain ⟨r, hr, rfl⟩ := List.mem_map.1 h.1
  exact ⟨r, rfl, hr, Checks.orderless_of_mem r hr h.2⟩

theorem Steady.reports {c : Check} (h : Steady c) (s : Snapshot) : c.Reports s := by
  obtain ⟨r, rfl, -, -⟩ := h.exists_rule
  exact ⟨_, r.run_check s⟩

theorem Steady.ofKey_batch {c : Check} (h : Steady c) (hs : s.Distinct) (hp : s'.Rearranges s)
    (key : List (List String)) :
    ofKey Diagnostic.sortKey key (c.batch s') = ofKey Diagnostic.sortKey key (c.batch s) := by
  obtain ⟨r, rfl, -, horderless⟩ := h.exists_rule
  exact horderless.ofKey_diagnostics hs hp key

/-- Of two checks only one has diagnostics of a key, unless they are one and the same. -/
theorem Steady.commute {c c' : Check} (h : Steady c) (h' : Steady c') (s : Snapshot)
    (key : List (List String)) :
    ofKey Diagnostic.sortKey key (c.batch s) ++ ofKey Diagnostic.sortKey key (c'.batch s) =
      ofKey Diagnostic.sortKey key (c'.batch s) ++ ofKey Diagnostic.sortKey key (c.batch s) := by
  obtain ⟨r, rfl, hr, -⟩ := h.exists_rule
  obtain ⟨r', rfl, hr', -⟩ := h'.exists_rule
  by_cases hname : r.name = r'.name
  · rw [List.inj_on_of_nodup_map Checks.nodup_name_rules hr hr' hname]
  · have hpair : Labelled s [r.check, r'.check] := by
      refine ⟨by simpa using hname, ?_⟩
      simp only [List.forall_mem_cons]
      exact ⟨fun d hd => Rule.check_of_mem_diagnostics hd, fun d hd => Rule.check_of_mem_diagnostics hd,
        List.forall_mem_nil _⟩
    have hapart := (List.pairwise_cons.1 (hpair.apart key)).1 r'.check (by simp)
    rcases hapart with he | he
    · rw [he, List.append_nil, List.nil_append]
    · rw [he, List.append_nil, List.nil_append]

theorem sorted_screened_eq (hsteady : ∀ c ∈ checks, Steady c) (hs : s.Distinct) (hp : s'.Rearranges s)
    (t t' : Schedule) (screen : Screen) :
    (Report.screened screen ((t'.finishing checks).flatMap (·.batch s'))).sorted =
      (Report.screened screen ((t.finishing checks).flatMap (·.batch s))).sorted := by
  refine Report.sorted_eq_sorted_iff.2 fun key => ?_
  have hscreen : ∀ ds, ofKey Diagnostic.sortKey key (Report.screened screen ds).diagnostics =
      (ofKey Diagnostic.sortKey key ds).filter screen.passes := fun ds => List.filter_comm _ _ _
  have hfinishing : ∀ (t : Schedule) (s : Snapshot),
      ofKey Diagnostic.sortKey key ((t.finishing checks).flatMap (·.batch s)) =
        checks.flatMap fun c => ofKey Diagnostic.sortKey key (c.batch s) := fun t s => by
    have hperm : (t.finishing checks).Perm checks := t.finishing_perm checks
    rw [ofKey, List.filter_flatMap]
    refine flatMap_eq_of_perm_of_commute hperm fun c hc c' hc' => ?_
    exact (hsteady c (hperm.mem_iff.1 hc)).commute (hsteady c' (hperm.mem_iff.1 hc')) s key
  rw [hscreen, hscreen, hfinishing, hfinishing]
  exact congrArg _ (List.flatMap_congr fun c hc => (hsteady c hc).ofKey_batch hs hp key)

theorem map_sorted_inspect_eq (hsteady : ∀ c ∈ checks, Steady c) (hs : s.Distinct) (hp : s'.Rearranges s)
    (t t' : Schedule) (screen : Screen) :
    (inspect t' s' checks screen).map Report.sorted = (inspect t s checks screen).map Report.sorted := by
  by_cases hne : checks = []
  · subst hne
    rfl
  · rw [inspect_eq_ok hne fun c hc => (hsteady c hc).reports s',
      inspect_eq_ok hne fun c hc => (hsteady c hc).reports s]
    exact congrArg Except.ok (sorted_screened_eq hsteady hs hp t t' screen)

/-- **The order in which objects are listed does not show.** If no two objects of a kind
share both namespace and name, then with the objects of each kind in any other order
every check still hands in diagnostics that sort to the same list, but for the wording
where it is told which storage classes are marked as default. So does any selection of
the other checks, whoever finishes first. -/
theorem listing_order_irrelevant {s s' : Snapshot} (hs : s.Distinct) (hp : s'.Rearranges s) :
    (∀ c ∈ Checks.catalog, ∃ ds ds', c.run s = .reported ds ∧ c.run s' = .reported ds' ∧
      (c.name ≠ "default-storage-class" → (Report.mk ds').sorted = (Report.mk ds).sorted) ∧
      (Report.mk ds').sorted.diagnostics.map Diagnostic.unworded =
        (Report.mk ds).sorted.diagnostics.map Diagnostic.unworded) ∧
    ∀ (t t' : Schedule) (checks : List Check) (screen : Screen),
      (∀ c ∈ checks, c ∈ Checks.catalog ∧ c.name ≠ "default-storage-class") →
        (inspect t' s' checks screen).map Report.sorted = (inspect t s checks screen).map Report.sorted ∧
        (checks ≠ [] → ∃ r, inspect t s checks screen = .ok r) := by
  refine ⟨fun c hc => ?_, fun t t' checks screen hsteady => ⟨?_, fun hne => ?_⟩⟩
  · obtain ⟨r, hr, rfl⟩ := List.mem_map.1 hc
    refine ⟨r.diagnostics s, r.diagnostics s', rfl, rfl, fun hname => ?_, ?_⟩
    · exact (Checks.orderless_of_mem r hr hname).sorted_eq hs hp
    · rw [Report.map_unworded_sorted, Report.map_unworded_sorted, ← r.diagnostics_unworded,
        ← r.diagnostics_unworded, (Checks.orderless_unworded_of_mem hr).sorted_eq hs hp]
  · exact map_sorted_inspect_eq hsteady hs hp t t' screen
  · exact ⟨_, inspect_eq_ok hne fun c hc => Steady.reports (hsteady c hc) s⟩

/-! ## A cluster where names recur -/

/-- A pod, a config map and a service of one name, each in two namespaces, two storage
classes that are both marked as default, and a claim and a configuration with two faulty webhooks. -/
def recurring : Snapshot where
  pods := ["default", "prod"].map fun ns => { metadata := { name? := some "web", ns := some ns } }
  configMaps := ["default", "prod"].map fun ns => { metadata := { name? := some "web", ns := some ns } }
  services := ["default", "prod"].map fun ns => { metadata := { name? := some "web", ns := some ns } }
  storageClasses := ["fast", "slow"].map fun name => { metadata := {
    name? := some name
    annotations := .ofList [("storageclass.kubernetes.io/is-default-class", "true")] } }
  mutatingWebhooks := [{
    metadata := { name? := some "web" }
    webhooks := [{ name := "a", timeoutSeconds := some 30 }, { name := "b", timeoutSeconds := some 31 }] }]

theorem distinct_recurring : recurring.Distinct := by
  intro k
  cases k <;> decide

theorem listing_order_irrelevant_recurring :
    recurring.Distinct ∧ recurring.reversed.Rearranges recurring ∧
      Checks.defaultNamespace.check ∈ Checks.catalog ∧
      (inspect .inReverse recurring.reversed [Checks.defaultNamespace.check, Checks.barePods.check] {}).map
          Report.sorted =
        (inspect .inTurn recurring [Checks.defaultNamespace.check, Checks.barePods.check] {}).map
          Report.sorted ∧
      (Checks.defaultNamespace.diagnostics recurring).map (·.kind) = [.pod, .configMap, .service] ∧
      (Checks.barePods.diagnostics recurring).map (·.subject.ns) = [some "default", some "prod"] ∧
      (Checks.barePods.diagnostics recurring.reversed).map (·.subject.ns) =
        [some "prod", some "default"] ∧
      (Checks.defaultStorageClass.diagnostics recurring).map (·.message) =
        ["Multiple default storage classes found: fast, slow",
          "Multiple default storage classes found: fast, slow"] ∧
      (Checks.defaultStorageClass.diagnostics recurring.reversed).map (·.message) =
        ["Multiple default storage classes found: slow, fast",
          "Multiple default storage classes found: slow, fast"] := by
  have hrearranges := recurring.reversed_rearranges
  have hmem : ∀ r ∈ [Checks.defaultNamespace, Checks.barePods], r.check ∈ Checks.catalog := by
    simp [Checks.catalog, Checks.rules]
  have hsteady : ∀ c ∈ [Checks.defaultNamespace.check, Checks.barePods.check],
      c ∈ Checks.catalog ∧ c.name ≠ "default-storage-class" := by
    simp only [List.forall_mem_cons]
    exact ⟨⟨hmem _ (by simp), by decide⟩, ⟨hmem _ (by simp), by decide⟩, List.forall_mem_nil _⟩
  exact ⟨distinct_recurring, hrearranges, hmem _ (by simp),
    ((listing_order_irrelevant distinct_recurring hrearranges).2 .inTurn .inReverse _ {} hsteady).1,
    by decide, by decide, by decide, by decide, by decide⟩

end Run

end ClusterAudit
