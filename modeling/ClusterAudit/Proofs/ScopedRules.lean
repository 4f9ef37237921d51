/-
It makes no difference whether a snapshot is narrowed before rules look at it, or
what they find is sorted out afterwards.

Most rules look at the objects of one kind, each by itself (`Rule.Isolated`). Those
that look further do so among objects that narrowing leaves alone, as nodes and storage
classes, or in the namespace of the object itself, which is left whole. So a rule
about objects in namespaces finds what it would find about those that are left
(`Rule.FollowsScope`), and any other rule what it would find anyway
(`Rule.IgnoresScope`). Two rules of the catalog are neither: secrets may be used, and
webhooks served, from another namespace.
-/
import ClusterAudit.Checks.Catalog
import ClusterAudit.Proofs.References

namespace ClusterAudit

namespace Rule

variable {r : Rule} {k : Kind}

/-- In a narrowed snapshot the rule finds what it finds in all of it, less what is
about objects outside of the scope. -/
def FollowsScope (r : Rule) : Prop :=
  ∀ s : Snapshot, s.Housed → ∀ sc : Scope,
    r.findings (s.narrow sc) = (r.findings s).filter fun f => sc.covers f.about.ns

/-- The rule finds the same in a narrowed snapshot. -/
def IgnoresScope (r : Rule) : Prop :=
  ∀ (s : Snapshot) (sc : Scope), r.findings (s.narrow sc) = r.findings s

/-- The rule looks at the objects of the kind `k`, each by itself. -/
def Isolated (r : Rule) (k : Kind) : Prop :=
  ∃ faults : k.Item → List String, ∀ s : Snapshot, r.findings s = s.findings k faults

theorem FollowsScope.diagnostics_narrow (h : r.FollowsScope) {s : Snapshot} (hs : s.Housed)
    (sc : Scope) :
    r.diagnostics (s.narrow sc) = (r.diagnostics s).filter fun d => sc.covers d.subject.ns := by
  rw [diagnostics, h s hs sc, diagnostics, List.filter_map]
  rfl

theorem IgnoresScope.diagnostics_narrow (h : r.IgnoresScope) (s : Snapshot) (sc : Scope) :
    r.diagnostics (s.narrow sc) = r.diagnostics s := by
  rw [diagnostics, h s sc, diagnostics]

theorem Isolated.followsScope (h : r.Isolated k) (hk : k.isNamespaced = true) : r.FollowsScope := by
  intro s _ sc
  obtain ⟨faults, hr⟩ := h
  rw [hr, hr]
  exact Snapshot.findings_narrow hk fun _ _ _ => rfl

theorem Isolated.ignoresScope (h : r.Isolated k) (hk : k.isNamespaced = false) : r.IgnoresScope := by
  intro s sc
  obtain ⟨faults, hr⟩ := h
  rw [hr, hr]
  exact Snapshot.findings_narrow_of_clusterWide hk faults

end Rule

namespace Checks

variable {s : Snapshot} {sc : Scope}

/-! ## Rules that look at one object at a time -/

/-- The rules that look at pods, one after the other. -/
def podRules : List Rule :=
  [fullyQualifiedImage, latestTag, nodeNameSelector, resourceRequirements, missingProbes,
   hostPathVolume, privilegedContainers, nonRootUser, hostNamespaces, privilegeEscalation]

theorem isolated_of_mem_podRules : ∀ r ∈ podRules, r.Isolated .pod := by
  simp only [podRules, List.forall_mem_cons]
  exact ⟨⟨_, fun _ => rfl⟩, ⟨_, fun _ => rfl⟩, ⟨_, fun _ => rfl⟩, ⟨_, fun _ => rfl⟩, ⟨_, fun _ => rfl⟩,
    ⟨_, fun _ => rfl⟩, ⟨_, fun _ => rfl⟩, ⟨_, fun _ => rfl⟩, ⟨_, fun _ => rfl⟩, ⟨_, fun _ => rfl⟩,
    List.forall_mem_nil _⟩

theorem isolated_cronJobConcurrency : cronJobConcurrency.Isolated .cronJob := ⟨_, fun _ => rfl⟩

theorem isolated_volumeSnapshotValidity : volumeSnapshotValidity.Isolated .volumeSnapshot :=
  ⟨_, fun _ => rfl⟩

theorem isolated_unusedVolume : unusedVolume.Isolated .persistentVolume := ⟨_, fun _ => rfl⟩

theorem isolated_nodeNotReady : nodeNotReady.Isolated .node := ⟨_, fun _ => rfl⟩

/-! ## Rules that look at objects narrowing leaves alone -/

theorem followsScope_barePods : barePods.FollowsScope :=
  fun _ _ _ => Snapshot.findings_narrow (k := .pod) rfl fun _ _ _ => rfl

theorem followsScope_missingStorageClass : missingStorageClass.FollowsScope :=
  fun _ _ _ => Snapshot.findings_narrow (k := .persistentVolumeClaim) rfl fun _ _ _ => rfl

theorem ignoresScope_defaultStorageClass : defaultStorageClass.IgnoresScope :=
  fun _ _ => Snapshot.findings_narrow_of_clusterWide (k := .storageClass) rfl _

theorem webhookFindings_narrow (faults : Webhook → List String) :
    webhookFindings (s.narrow sc) faults = webhookFindings s faults := by
  rw [webhookFindings_eq, webhookFindings_eq, Snapshot.findings_narrow_of_clusterWide rfl,
    Snapshot.findings_narrow_of_clusterWide rfl]

theorem ignoresScope_webhookTimeout : webhookTimeout.IgnoresScope :=
  fun _ _ => webhookFindings_narrow _

/-- The system namespace is known in any scope. -/
theorem ignoresScope_webhookReplacement : webhookReplacement.IgnoresScope :=
  fun _ _ => webhookFindings_narrow _

/-! ## Objects of several kinds -/

theorem inDefault_narrow {k : Kind} (hk : k.isNamespaced = true) (isExempt : k.Item → Bool) :
    inDefault (s.narrow sc) k isExempt =
      (inDefault s k isExempt).filter fun f => sc.covers f.about.ns :=
  Snapshot.findings_narrow hk fun _ _ _ => rfl

theorem followsScope_defaultNamespace : defaultNamespace.FollowsScope := by
  intro s _ sc
  simp only [defaultNamespace, List.filter_append]
  rw [inDefault_narrow rfl, inDefault_narrow rfl, inDefault_narrow rfl, inDefault_narrow rfl,
    inDefault_narrow rfl, inDefault_narrow rfl, inDefault_narrow rfl]

/-! ## Rules that look around in an object's namespace -/

/-- The pods a service reaches, without the detour over an index of pods. -/
theorem reachesPods_iff {pods : List Pod} {x : Service} {selector : StringMap} :
    reachesPods (podsByHome pods) x selector = true ↔
      ∃ p ∈ pods, (∃ labels ∈ p.metadata.labels, selector.selects labels = true) ∧
        p.metadata.home = x.metadata.home := by
  simp [reachesPods, podsByHome, Index.get_ofList, Option.any_eq_true, and_comm]

theorem reachesPods_narrow (hs : s.Housed) {x : Service}
    (hc : sc.covers (some x.metadata.home) = true) (selector : StringMap) :
    reachesPods (podsByHome (s.narrow sc).pods) x selector =
      reachesPods (podsByHome s.pods) x selector := by
  rw [Bool.eq_iff_iff, reachesPods_iff, reachesPods_iff]
  exact hs.exists_mem_items_narrow_iff (k := .pod) rfl hc

theorem followsScope_danglingService : danglingService.FollowsScope := by
  intro s hs sc
  refine Snapshot.findings_narrow (k := .service) rfl fun x hx hc => ?_
  rw [hs.ns_eq rfl hx] at hc
  simp only [reachesPods_narrow hs hc]

/-- Looking an object up among the references of pods. -/
theorem contains_podReferences_narrow (hs : s.Housed) {m : Metadata}
    (hc : sc.covers (some m.home) = true) (names : PodSpec → List String) :
    ((s.narrow sc).podReferences names).contains m.key = (s.podReferences names).contains m.key := by
  rw [Bool.eq_iff_iff, List.contains_iff_mem, List.contains_iff_mem]
  exact hs.mem_podReferences_narrow hc

theorem followsScope_unusedConfigMap : unusedConfigMap.FollowsScope := by
  intro s hs sc
  refine Snapshot.findings_narrow (k := .configMap) rfl fun c hc hcovers => ?_
  rw [hs.ns_eq rfl hc] at hcovers
  have hused : (s.narrow sc).usedConfigMaps.contains c.metadata.key =
      s.usedConfigMaps.contains c.metadata.key := contains_podReferences_narrow hs hcovers _
  rw [hused]

theorem followsScope_unusedClaim : unusedClaim.FollowsScope := by
  intro s hs sc
  refine Snapshot.findings_narrow (k := .persistentVolumeClaim) rfl fun c hc hcovers => ?_
  rw [hs.ns_eq rfl hc] at hcovers
  have hused : (s.narrow sc).usedClaims.contains c.metadata.key =
      s.usedClaims.contains c.metadata.key := contains_podReferences_narrow hs hcovers _
  rw [hused]

/-! ## The catalog -/

/-- The rules about objects in namespaces, but for the one about secrets. -/
def scopedRules : List Rule :=
  [barePods, fullyQualifiedImage, latestTag, defaultNamespace, nodeNameSelector,
   resourceRequirements, missingProbes, cronJobConcurrency, danglingService, hostPathVolume,
   unusedConfigMap, unusedClaim, privilegedContainers, nonRootUser, hostNamespaces,
   privilegeEscalation, missingStorageClass, volumeSnapshotValidity]

/-- The rules about other objects, but for the one about the targets of webhooks. -/
def clusterWideRules : List Rule :=
  [unusedVolume, webhookTimeout, webhookReplacement, defaultStorageClass, nodeNotReady]

theorem followsScope_of_mem : ∀ r ∈ scopedRules, r.FollowsScope := by
  have hpod : ∀ r ∈ podRules, r.FollowsScope := fun r hr => (isolated_of_mem_podRules r hr).followsScope rfl
  simp only [podRules, List.forall_mem_cons] at hpod
  obtain ⟨hqualified, hlatest, hselector, hresources, hprobes, hhostPath, hprivileged, huser, hnamespaces,
    hescalation, -⟩ := hpod
  simp only [scopedRules, List.forall_mem_cons]
  exact ⟨followsScope_barePods, hqualified, hlatest, followsScope_defaultNamespace, hselector,
    hresources, hprobes, isolated_cronJobConcurrency.followsScope rfl, followsScope_danglingService,
    hhostPath, followsScope_unusedConfigMap, followsScope_unusedClaim, hprivileged, huser, hnamespaces,
    hescalation, followsScope_missingStorageClass, isolated_volumeSnapshotValidity.followsScope rfl,
    List.forall_mem_nil _⟩

theorem ignoresScope_of_mem : ∀ r ∈ clusterWideRules, r.IgnoresScope := by
  simp only [clusterWideRules, List.forall_mem_cons]
  exact ⟨isolated_unusedVolume.ignoresScope rfl, ignoresScope_webhookTimeout,
    ignoresScope_webhookReplacement, ignoresScope_defaultStorageClass,
    isolated_nodeNotReady.ignoresScope rfl, List.forall_mem_nil _⟩

/-- **Narrowing commutes with checking.** A rule of the first sort reports in a
narrowed snapshot just what it reports in all of it about objects of the scope, in the
same order. A rule of the second sort reports the same. -/
theorem checking_commutes_with_narrowing (hs : s.Housed) (sc : Scope) :
    (∀ r ∈ scopedRules, r.diagnostics (s.narrow sc) =
        (r.diagnostics s).filter fun d => sc.covers d.subject.ns) ∧
      ∀ r ∈ clusterWideRules, r.diagnostics (s.narrow sc) = r.diagnostics s :=
  ⟨fun r hr => (followsScope_of_mem r hr).diagnostics_narrow hs sc,
    fun r hr => (ignoresScope_of_mem r hr).diagnostics_narrow s sc⟩

/-- A pod that reads one config map and mounts one claim, and a service in front of it,
all in one namespace. Another config map and another service there have no pods. -/
def team (ns : String) : Snapshot where
  pods := [{
    metadata := { name? := some "web", ns := some ns, labels := some (.ofList [("app", "web")]) }
    spec := some {
      containers := [{ name := "main", envFrom := [{ configMap := some "settings" }] }]
      volumes := [{ name := "data", claim := some "data" }] } }]
  configMaps := ["settings", "stale"].map fun name => { metadata := { name? := some name, ns := some ns } }
  services := ["web", "gone"].map fun name => {
    metadata := { name? := some name, ns := some ns }
    spec := some { selector := .ofList [("app", name)] } }
  persistentVolumeClaims := [{ metadata := { name? := some "data", ns := some ns } }]

/-- Two such namespaces. -/
def twoTeams : Snapshot :=
  .build (fun k => (team "prod").items k ++ (team "dev").items k) none .all

theorem housed_team (ns : String) : (team ns).Housed := by
  intro k _ o ho
  cases k <;> simp [Snapshot.items, team] at ho
  case pod | persistentVolumeClaim => simp [ho, Kind.metadata]
  case configMap | service => rcases ho with rfl | rfl <;> simp [Kind.metadata]

theorem housed_twoTeams : twoTeams.Housed := by
  intro k hk o ho
  rw [twoTeams, Snapshot.items_build, List.mem_append] at ho
  rcases ho with h | h
  · exact housed_team _ k hk o h
  · exact housed_team _ k hk o h

theorem checking_commutes_with_narrowing_twoTeams :
    twoTeams.Housed ∧ danglingService ∈ scopedRules ∧ defaultStorageClass ∈ clusterWideRules ∧
      danglingService.diagnostics (twoTeams.narrow (.only "prod")) =
        ((danglingService.diagnostics twoTeams).filter fun d =>
          (Scope.only "prod").covers d.subject.ns) ∧
      defaultStorageClass.diagnostics (twoTeams.narrow (.only "prod")) =
        defaultStorageClass.diagnostics twoTeams ∧
      (danglingService.diagnostics twoTeams).map (·.subject) =
        [{ name := "gone", ns := some "prod" }, { name := "gone", ns := some "dev" }] := by
  have hservice : danglingService ∈ scopedRules := by simp [scopedRules]
  have hclass : defaultStorageClass ∈ clusterWideRules := by simp [clusterWideRules]
  have hboth := checking_commutes_with_narrowing housed_twoTeams (.only "prod")
  exact ⟨housed_twoTeams, hservice, hclass, hboth.1 _ hservice, hboth.2 _ hclass, by decide⟩

end Checks

end ClusterAudit
