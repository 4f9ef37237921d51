/-
How the rules of the catalog go about their work, and that none of them sees the
annotation by which objects switch checks off.

A rule goes over the objects of its kinds, kind by kind and one object at a time
(`Pass`). What it finds wrong with an object may hang on all of the snapshot, but
neither there nor in the object on that annotation: with all of them erased
(`Snapshot.unmarked`) it finds the same (`Pass.Blind`). So any two snapshots that are
equal without these annotations look alike to it.
-/
import Mathlib.Data.List.Basic
import ClusterAudit.Proofs.ScopedRules
import ClusterAudit.Suppression

namespace ClusterAudit

/-! ## Erasing the annotation -/

namespace StringMap

def erase (m : StringMap) (k : String) : StringMap :=
  ⟨m.entries.filter (·.1 ≠ k), m.sorted.filter _⟩

theorem get?_erase_of_ne (m : StringMap) {k k' : String} (h : k ≠ k') :
    (m.erase k).get? k' = m.get? k' := by
  have hboth : ∀ p : String × String, (decide (p.1 ≠ k ∧ (p.1 == k') = true)) = (p.1 == k') := by
    intro p
    by_cases hp : p.1 = k'
    · simp [hp, Ne.symm h]
    · simp [hp]
  simp only [get?, erase, List.find?_filter, decide_eq_true_eq, hboth]

theorem filter_insertEntry (k v : String) (l : List (String × String)) :
    (insertEntry k v l).filter (·.1 ≠ k) = l.filter (·.1 ≠ k) := by
  induction l with
  | nil => simp [insertEntry]
  | cons p l ih =>
    obtain ⟨k', v'⟩ := p
    simp only [insertEntry]
    split
    · simp
    · split
      next heq => simp [heq]
      · rw [List.filter_cons, List.filter_cons, ih]

@[simp] theorem erase_insert (m : StringMap) (k v : String) : (m.insert k v).erase k = m.erase k :=
  ext (filter_insertEntry k v m.entries)

end StringMap

/-- Without the annotation that switches checks off. -/
def Metadata.unmarked (m : Metadata) : Metadata :=
  { m with annotations := m.annotations.erase Suppression.key }

@[simp] theorem Metadata.get?_unmarked (m : Metadata) {k : String} (h : Suppression.key ≠ k) :
    m.unmarked.annotations.get? k = m.annotations.get? k :=
  m.annotations.get?_erase_of_ne h

namespace Kind

/-- An object with other metadata. -/
def mapMetadata (f : Metadata → Metadata) : (k : Kind) → k.Item → k.Item
  | .pod => fun (o : Pod) => { o with metadata := f o.metadata }
  | .podTemplate => fun (o : PodTemplate) => { o with metadata := f o.metadata }
  | .persistentVolumeClaim => fun (o : PersistentVolumeClaim) => { o with metadata := f o.metadata }
  | .persistentVolume => fun (o : PersistentVolume) => { o with metadata := f o.metadata }
  | .configMap => fun (o : ConfigMap) => { o with metadata := f o.metadata }
  | .service => fun (o : Service) => { o with metadata := f o.metadata }
  | .secret => fun (o : Secret) => { o with metadata := f o.metadata }
  | .serviceAccount => fun (o : ServiceAccount) => { o with metadata := f o.metadata }
  | .node => fun (o : Node) => { o with metadata := f o.metadata }
  | .namespaces => fun (o : Namespace) => { o with metadata := f o.metadata }
  | .resourceQuota => fun (o : ResourceQuota) => { o with metadata := f o.metadata }
  | .limitRange => fun (o : LimitRange) => { o with metadata := f o.metadata }
  | .storageClass => fun (o : StorageClass) => { o with metadata := f o.metadata }
  | .cronJob => fun (o : CronJob) => { o with metadata := f o.metadata }
  | .volumeSnapshot => fun (o : VolumeSnapshot) => { o with metadata := f o.metadata }
  | .validatingWebhookConfiguration => fun (o : ValidatingConfiguration) =>
    { o with metadata := f o.metadata }
  | .mutatingWebhookConfiguration => fun (o : MutatingConfiguration) =>
    { o with metadata := f o.metadata }

variable {k : Kind}

@[simp] theorem metadata_mapMetadata (f : Metadata → Metadata) (o : k.Item) :
    k.metadata (k.mapMetadata f o) = f (k.metadata o) := by
  cases k <;> rfl

theorem mapMetadata_mapMetadata (f g : Metadata → Metadata) (o : k.Item) :
    k.mapMetadata g (k.mapMetadata f o) = k.mapMetadata (fun m => g (f m)) o := by
  cases k <;> rfl

end Kind

namespace Snapshot

/-- No object has the annotation that switches checks off. -/
def unmarked (s : Snapshot) : Snapshot :=
  build (fun k => (s.items k).map (k.mapMetadata Metadata.unmarked)) s.systemNamespace s.scope

@[simp] theorem items_unmarked (s : Snapshot) (k : Kind) :
    s.unmarked.items k = (s.items k).map (k.mapMetadata Metadata.unmarked) :=
  items_build _ _ _ k

end Snapshot

/-! ## Passes -/

/-- One pass over the objects of a kind, with what is wrong with each of them in the
snapshot they are in. -/
structure Pass where
  kind : Kind
  faults : Snapshot → kind.Item → List String

namespace Pass

def findings (p : Pass) (s : Snapshot) : List Finding := s.findings p.kind (p.faults s)

def Blind (p : Pass) : Prop :=
  ∀ (s : Snapshot) (o : p.kind.Item),
    p.faults s.unmarked (p.kind.mapMetadata Metadata.unmarked o) = p.faults s o

end Pass

namespace Rule

/-- The rule makes the passes `ps`, one for each of its kinds, and that is all. -/
structure MadeOf (r : Rule) (ps : List Pass) : Prop where
  kinds : ps.map (·.kind) = r.kinds
  findings : ∀ s : Snapshot, r.findings s = ps.flatMap (·.findings s)
  blind : ∀ p ∈ ps, p.Blind

/-- The rule goes over its objects one by one, whatever passes it takes to do so. -/
def Objectwise (r : Rule) : Prop := ∃ ps : List Pass, r.MadeOf ps

/-- A rule about objects of one kind. -/
theorem Objectwise.single {r : Rule} {k : Kind} {faults : Snapshot → k.Item → List String}
    (hk : r.kinds = [k]) (h : ∀ s : Snapshot, r.findings s = s.findings k (faults s))
    (hb : ∀ (s : Snapshot) (o : k.Item),
      faults s.unmarked (k.mapMetadata Metadata.unmarked o) = faults s o) : r.Objectwise := by
  refine ⟨[⟨k, faults⟩], hk.symm, fun s => ?_, fun p hp => ?_⟩
  · rw [h, List.flatMap_singleton, Pass.findings]
  · rw [List.mem_singleton] at hp
    subst hp
    exact hb

end Rule

namespace Checks

variable {s : Snapshot}

/-! ## Rules that look at one object at a time -/

theorem objectwise_of_mem_podRules : ∀ r ∈ podRules, r.Objectwise := by
  simp only [podRules, List.forall_mem_cons]
  exact ⟨.single rfl (fun _ => rfl) fun _ _ => rfl, .single rfl (fun _ => rfl) fun _ _ => rfl,
    .single rfl (fun _ => rfl) fun _ _ => rfl, .single rfl (fun _ => rfl) fun _ _ => rfl,
    .single rfl (fun _ => rfl) fun _ _ => rfl, .single rfl (fun _ => rfl) fun _ _ => rfl,
    .single rfl (fun _ => rfl) fun _ _ => rfl, .single rfl (fun _ => rfl) fun _ _ => rfl,
    .single rfl (fun _ => rfl) fun _ _ => rfl, .single rfl (fun _ => rfl) fun _ _ => rfl,
    List.forall_mem_nil _⟩

theorem objectwise_cronJobConcurrency : cronJobConcurrency.Objectwise :=
  .single rfl (fun _ => rfl) fun _ _ => rfl

theorem objectwise_volumeSnapshotValidity : volumeSnapshotValidity.Objectwise :=
  .single rfl (fun _ => rfl) fun _ _ => rfl

theorem objectwise_unusedVolume : unusedVolume.Objectwise :=
  .single rfl (fun _ => rfl) fun _ _ => rfl

theorem objectwise_nodeNotReady : nodeNotReady.Objectwise :=
  .single rfl (fun _ => rfl) fun _ _ => rfl

/-! ## Rules that read other annotations -/

/-- Static pods are told by another annotation, or by the names of nodes. -/
theorem isStatic_unmarked (s : Snapshot) (p : Pod) :
    isStatic s.unmarked.nodes (Kind.mapMetadata Metadata.unmarked .pod p) = isStatic s.nodes p := by
  have hmirror : p.metadata.unmarked.annotations.contains "kubernetes.io/config.mirror" =
      p.metadata.annotations.contains "kubernetes.io/config.mirror" := by
    rw [StringMap.contains_eq, StringMap.contains_eq, Metadata.get?_unmarked _ (by decide)]
  have hnodes : ∀ node : String, (s.unmarked.nodes.any fun n => n.metadata.name? == some node) =
      s.nodes.any fun n => n.metadata.name? == some node := fun node => List.any_map
  unfold isStatic
  simp only [hnodes]
  exact congrArg (· || _) hmirror

theorem objectwise_barePods : barePods.Objectwise := by
  refine .single rfl (fun _ => rfl) fun s p => ?_
  simp only [isStatic_unmarked]
  rfl

theorem isDefaultClass_unmarked (c : StorageClass) :
    Snapshot.isDefaultClass (Kind.mapMetadata Metadata.unmarked .storageClass c) =
      Snapshot.isDefaultClass c := by
  have hmark : c.metadata.unmarked.annotations.get? "storageclass.kubernetes.io/is-default-class" =
      c.metadata.annotations.get? "storageclass.kubernetes.io/is-default-class" :=
    Metadata.get?_unmarked _ (by decide)
  unfold Snapshot.isDefaultClass
  rw [← hmark]
  rfl

theorem objectwise_defaultStorageClass : defaultStorageClass.Objectwise := by
  refine .single rfl (fun _ => rfl) fun s c => ?_
  have hnames : s.unmarked.defaultStorageClasses.map (·.metadata.name) =
      s.defaultStorageClasses.map (·.metadata.name) := by
    have hfilter : s.unmarked.defaultStorageClasses =
        s.defaultStorageClasses.map (Kind.mapMetadata Metadata.unmarked .storageClass) :=
      List.filter_map.trans (congrArg _ (List.filter_congr fun c _ => isDefaultClass_unmarked c))
    rw [hfilter, List.map_map]
    rfl
  simp only [hnames, isDefaultClass_unmarked]

theorem isDefaultToken_unmarked (x : Secret) :
    isDefaultToken (Kind.mapMetadata Metadata.unmarked .secret x) = isDefaultToken x := by
  have haccount : x.metadata.unmarked.annotations.get? "kubernetes.io/service-account.name" =
      x.metadata.annotations.get? "kubernetes.io/service-account.name" :=
    Metadata.get?_unmarked _ (by decide)
  unfold isDefaultToken
  rw [← haccount]
  rfl

/-- The pass over the objects of one kind in the default namespace. -/
def defaultPass (k : Kind) (isExempt : k.Item → Bool) : Pass where
  kind := k
  faults _ o :=
    if (k.metadata o).ns == some "default" && !isExempt o then ["Avoid using the default namespace"]
    else []

theorem blind_defaultPass {k : Kind} {isExempt : k.Item → Bool}
    (h : ∀ o, isExempt (k.mapMetadata Metadata.unmarked o) = isExempt o) :
    (defaultPass k isExempt).Blind := by
  intro s (o : k.Item)
  have hns : (k.metadata (k.mapMetadata Metadata.unmarked o)).ns = (k.metadata o).ns := by
    rw [Kind.metadata_mapMetadata]
    rfl
  simp only [defaultPass, hns, h]

theorem objectwise_defaultNamespace : defaultNamespace.Objectwise := by
  refine ⟨[defaultPass .pod fun _ => false, defaultPass .podTemplate fun _ => false,
    defaultPass .persistentVolumeClaim fun _ => false,
    defaultPass .configMap fun (c : ConfigMap) => c.metadata.name == "kube-root-ca.crt",
    defaultPass .service fun (x : Service) => x.metadata.name == "kubernetes",
    defaultPass .secret isDefaultToken,
    defaultPass .serviceAccount fun (a : ServiceAccount) => a.metadata.name == "default"],
    rfl, fun s => ?_, ?_⟩
  · simp only [List.flatMap_cons, List.flatMap_nil, List.append_nil, ← List.append_assoc]
    rfl
  · simp only [List.forall_mem_cons]
    exact ⟨blind_defaultPass fun _ => rfl, blind_defaultPass fun _ => rfl,
      blind_defaultPass fun _ => rfl, blind_defaultPass fun _ => rfl, blind_defaultPass fun _ => rfl,
      blind_defaultPass isDefaultToken_unmarked, blind_defaultPass fun _ => rfl,
      List.forall_mem_nil _⟩

/-! ## Rules that look further -/

theorem objectwise_missingStorageClass : missingStorageClass.Objectwise := by
  refine .single rfl (fun _ => rfl) fun s c => ?_
  have hnames : s.unmarked.storageClasses.map (·.metadata.name) =
      s.storageClasses.map (·.metadata.name) := List.map_map
  simp only [hnames]
  rfl

theorem reachesPods_unmarked (s : Snapshot) (x : Service) (selector : StringMap) :
    reachesPods (podsByHome s.unmarked.pods) (Kind.mapMetadata Metadata.unmarked .service x) selector =
      reachesPods (podsByHome s.pods) x selector := by
  rw [Bool.eq_iff_iff, reachesPods_iff, reachesPods_iff]
  constructor
  · rintro ⟨_, hmem, hreached⟩
    obtain ⟨p, hp, rfl⟩ := List.mem_map.1 hmem
    exact ⟨p, hp, hreached⟩
  · rintro ⟨p, hp, hreached⟩
    exact ⟨_, List.mem_map_of_mem hp, hreached⟩

theorem objectwise_danglingService : danglingService.Objectwise := by
  refine .single rfl (fun _ => rfl) fun s x => ?_
  simp only [reachesPods_unmarked]
  rfl

theorem podReferences_unmarked (s : Snapshot) (names : PodSpec → List String) :
    s.unmarked.podReferences names = s.podReferences names := by
  have hpods : s.unmarked.pods.filterMap (fun p => p.spec.map (p.metadata.home, ·)) =
      s.pods.filterMap fun p => p.spec.map (p.metadata.home, ·) := List.filterMap_map
  have htemplates : s.unmarked.podTemplates.filterMap (fun t => t.spec.map (t.metadata.home, ·)) =
      s.podTemplates.filterMap fun t => t.spec.map (t.metadata.home, ·) := List.filterMap_map
  rw [Snapshot.podReferences, Snapshot.podSpecs, hpods, htemplates]
  rfl

theorem usedSecrets_unmarked (s : Snapshot) : s.unmarked.usedSecrets = s.usedSecrets := by
  have haccounts : s.unmarked.serviceAccounts.flatMap (·.secretKeys) =
      s.serviceAccounts.flatMap (·.secretKeys) := List.flatMap_map _ _ _
  rw [Snapshot.usedSecrets, podReferences_unmarked, haccounts]
  rfl

theorem objectwise_unusedConfigMap : unusedConfigMap.Objectwise := by
  refine .single rfl (fun _ => rfl) fun s c => ?_
  have hused : s.unmarked.usedConfigMaps = s.usedConfigMaps := podReferences_unmarked s _
  simp only [hused]
  rfl

theorem objectwise_unusedSecret : unusedSecret.Objectwise := by
  refine .single rfl (fun _ => rfl) fun s x => ?_
  simp only [usedSecrets_unmarked]
  rfl

theorem objectwise_unusedClaim : unusedClaim.Objectwise := by
  refine .single rfl (fun _ => rfl) fun s c => ?_
  have hused : s.unmarked.usedClaims = s.usedClaims := podReferences_unmarked s _
  simp only [hused]
  rfl

/-! ## Rules about webhooks -/

/-- A pass over the configurations of validating webhooks, and then one over those of
mutating ones. -/
theorem objectwise_of_webhookFindings {r : Rule} {faults : Snapshot → Webhook → List String}
    (hk : r.kinds = [.validatingWebhookConfiguration, .mutatingWebhookConfiguration])
    (h : ∀ s : Snapshot, r.findings s = webhookFindings s (faults s))
    (hb : ∀ (s : Snapshot) (w : Webhook) (m : Metadata),
      faults s.unmarked { w with configuration := m } = faults s w) : r.Objectwise := by
  have hpass : ∀ (s : Snapshot) (m : Metadata) (ws : List Webhook),
      ((ws.map fun w => { w with configuration := m }).flatMap fun w =>
        (faults s.unmarked w).map w.message) = ws.flatMap fun w => (faults s w).map w.message := by
    intro s m ws
    rw [List.flatMap_map]
    exact List.flatMap_congr fun w _ => congrArg (List.map w.message) (hb s w m)
  refine ⟨[⟨.validatingWebhookConfiguration, fun s (c : ValidatingConfiguration) =>
      c.views.flatMap fun w => (faults s w).map w.message⟩,
    ⟨.mutatingWebhookConfiguration, fun s (c : MutatingConfiguration) =>
      c.views.flatMap fun w => (faults s w).map w.message⟩], hk.symm, fun s => ?_, ?_⟩
  · rw [h, webhookFindings_eq, List.flatMap_cons, List.flatMap_singleton]
    rfl
  · simp only [List.forall_mem_cons, Pass.Blind]
    refine ⟨fun s (c : ValidatingConfiguration) => ?_, fun s (c : MutatingConfiguration) => ?_,
      List.forall_mem_nil _⟩
    · exact (congrArg _ (c.views_withMetadata _)).trans (hpass s _ _)
    · exact (congrArg _ (c.views_withMetadata _)).trans (hpass s _ _)

theorem objectwise_webhookTarget : webhookTarget.Objectwise := by
  refine objectwise_of_webhookFindings rfl (fun _ => rfl) fun s w m => ?_
  have hnamespaces : s.unmarked.namespaces.map (·.metadata.name) =
      s.namespaces.map (·.metadata.name) := List.map_map
  have hservices : s.unmarked.services.map (·.metadata.key) = s.services.map (·.metadata.key) :=
    List.map_map
  simp only [hnamespaces, hservices]
  rfl

theorem objectwise_webhookTimeout : webhookTimeout.Objectwise :=
  objectwise_of_webhookFindings rfl (fun _ => rfl) fun _ _ _ => rfl

theorem objectwise_webhookReplacement : webhookReplacement.Objectwise :=
  objectwise_of_webhookFindings rfl (fun _ => rfl) fun _ _ _ => rfl

/-! ## The catalog -/

theorem objectwise_of_mem : ∀ r ∈ rules, r.Objectwise := by
  have hpod : ∀ r ∈ podRules, r.Objectwise := objectwise_of_mem_podRules
  simp only [podRules, List.forall_mem_cons] at hpod
  obtain ⟨hqualified, hlatest, hselector, hresources, hprobes, hhostPath, hprivileged, huser, hnamespaces,
    hescalation, -⟩ := hpod
  simp only [rules, List.forall_mem_cons]
  exact ⟨objectwise_barePods, hqualified, hlatest, objectwise_defaultNamespace, hselector, hresources,
    hprobes, objectwise_cronJobConcurrency, objectwise_danglingService, hhostPath,
    objectwise_unusedConfigMap, objectwise_unusedSecret, objectwise_unusedVolume, objectwise_unusedClaim,
    hprivileged, huser, hnamespaces, hescalation, objectwise_webhookTarget, objectwise_webhookTimeout,
    objectwise_webhookReplacement, objectwise_defaultStorageClass, objectwise_missingStorageClass,
    objectwise_volumeSnapshotValidity, objectwise_nodeNotReady, List.forall_mem_nil _⟩

end Checks

end ClusterAudit
