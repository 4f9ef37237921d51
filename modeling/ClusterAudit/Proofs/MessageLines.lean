/-
Which messages fit into one line.

Messages are put together from names, and names that the API server has let pass fit
into a line (`NamesFit`). So all messages do, and the places of objects too, but for
those of one rule (`fits_of_mem`): the error of a volume snapshot is free text, and
becomes part of the message as it is (`mem_findings_volumeSnapshotValidity`).
-/
import ClusterAudit.Proofs.Passes
import ClusterAudit.Proofs.ReportLines

namespace ClusterAudit

open Text (OneLine oneLine_append_iff)

namespace Snapshot

variable {s : Snapshot}

/-- The names in a snapshot each fit into one line. -/
structure NamesFit (s : Snapshot) : Prop where
  objects : ∀ k, ∀ o ∈ s.items k,
    OneLine (k.metadata o).name ∧ ∀ ns ∈ (k.metadata o).ns, OneLine ns
  containers : ∀ p ∈ s.pods, ∀ spec ∈ p.spec, ∀ c ∈ spec.allContainers, OneLine c.name
  volumes : ∀ p ∈ s.pods, ∀ spec ∈ p.spec, ∀ v ∈ spec.volumes, OneLine v.name
  storageClasses : ∀ c ∈ s.persistentVolumeClaims, ∀ name ∈ c.storageClass, OneLine name
  validatingWebhooks : ∀ c ∈ s.validatingWebhooks, ∀ w ∈ c.webhooks, OneLine w.name
  mutatingWebhooks : ∀ c ∈ s.mutatingWebhooks, ∀ w ∈ c.webhooks, OneLine w.name

theorem items_narrow_subset (s : Snapshot) (sc : Scope) (k : Kind) : (s.narrow sc).items k ⊆ s.items k := by
  rw [items_narrow]
  split
  · exact List.filter_subset_self _
  · exact List.Subset.refl _

theorem NamesFit.narrow (h : s.NamesFit) (sc : Scope) : (s.narrow sc).NamesFit where
  objects := fun k o ho => h.objects k o (items_narrow_subset s sc k ho)
  containers := fun p hp => h.containers p (items_narrow_subset s sc .pod hp)
  volumes := fun p hp => h.volumes p (items_narrow_subset s sc .pod hp)
  storageClasses := fun c hc => h.storageClasses c (items_narrow_subset s sc .persistentVolumeClaim hc)
  validatingWebhooks := h.validatingWebhooks
  mutatingWebhooks := h.mutatingWebhooks

theorem NamesFit.webhooks (h : s.NamesFit) : ∀ w ∈ s.webhooks, OneLine w.name := by
  simp only [Snapshot.webhooks, ValidatingConfiguration.views, MutatingConfiguration.views,
    List.forall_mem_append, List.forall_mem_flatMap, List.forall_mem_map]
  exact ⟨h.validatingWebhooks, h.mutatingWebhooks⟩

theorem oneLine_findings {k : Kind} {faults : k.Item → List String}
    (h : ∀ o ∈ s.items k, ∀ message ∈ faults o, OneLine message) :
    ∀ f ∈ s.findings k faults, OneLine f.message := by
  intro f hf
  obtain ⟨o, ho, message, hmessage, rfl⟩ := mem_findings.1 hf
  exact h o ho message hmessage

end Snapshot

theorem oneLine_between {a name b : String} (ha : OneLine a) (hname : OneLine name) (hb : OneLine b) :
    OneLine (a ++ name ++ b) :=
  oneLine_append_iff.2 ⟨oneLine_append_iff.2 ⟨ha, hname⟩, hb⟩

/-- The one message of a rule that finds fault or does not. -/
theorem oneLine_of_mem_ite {p : Prop} [Decidable p] {message : String} (h : OneLine message) :
    ∀ m ∈ (if p then [message] else []), OneLine m := by
  intro m hm
  split at hm
  · rwa [List.mem_singleton.1 hm]
  · cases hm

/-- The one message of a rule that lets an object pass or does not. -/
theorem oneLine_of_mem_ite_nil {p : Prop} [Decidable p] {message : String} (h : OneLine message) :
    ∀ m ∈ (if p then [] else [message]), OneLine m := by
  rw [← ite_not]
  exact oneLine_of_mem_ite h

namespace Rule

/-- All messages of the rule fit into one line if all names do. -/
def Fits (r : Rule) : Prop := ∀ s : Snapshot, s.NamesFit → ∀ f ∈ r.findings s, OneLine f.message

end Rule

namespace Checks

open Snapshot (oneLine_findings)

variable {s : Snapshot}

/-! ## Pods and their containers -/

theorem oneLine_containerFaults {containers : List Container} {atFault : Container → Bool} {a b : String}
    (h : ∀ c ∈ containers, OneLine c.name) (ha : OneLine a) (hb : OneLine b) :
    ∀ m ∈ containerFaults containers atFault fun c => a ++ c.name ++ b, OneLine m := by
  intro m hm
  obtain ⟨c, hc, rfl⟩ := List.mem_map.1 hm
  exact oneLine_between ha (h c (List.mem_filter.1 hc).1) hb

theorem oneLine_podFindings {faults : PodSpec → List String}
    (h : ∀ p ∈ s.pods, ∀ spec ∈ p.spec, ∀ m ∈ faults spec, OneLine m) :
    ∀ f ∈ podFindings s faults, OneLine f.message := by
  refine oneLine_findings fun p hp m hm => ?_
  cases hspec : p.spec with
  | none => simp [hspec] at hm
  | some spec =>
    rw [hspec] at hm
    exact h p hp spec hspec m hm

theorem oneLine_containerFindings {atFault : PodSpec → Container → Bool} {a b : String}
    (hs : s.NamesFit) (ha : OneLine a) (hb : OneLine b) :
    ∀ f ∈ containerFindings s atFault fun c => a ++ c.name ++ b, OneLine f.message :=
  oneLine_podFindings fun p hp spec hspec =>
    oneLine_containerFaults (hs.containers p hp spec hspec) ha hb

theorem fits_fullyQualifiedImage : fullyQualifiedImage.Fits :=
  fun _ hs => oneLine_containerFindings hs (by decide) (by decide)

theorem fits_latestTag : latestTag.Fits :=
  fun _ hs => oneLine_containerFindings hs (by decide) (by decide)

theorem fits_resourceRequirements : resourceRequirements.Fits :=
  fun _ hs => oneLine_containerFindings hs (by decide) (by decide)

theorem fits_privilegedContainers : privilegedContainers.Fits :=
  fun _ hs => oneLine_containerFindings hs (by decide) (by decide)

theorem fits_nonRootUser : nonRootUser.Fits :=
  fun _ hs => oneLine_containerFindings hs (by decide) (by decide)

theorem fits_privilegeEscalation : privilegeEscalation.Fits :=
  fun _ hs => oneLine_containerFindings hs (by decide) (by decide)

theorem fits_missingProbes : missingProbes.Fits := by
  intro s hs
  refine oneLine_findings fun p hp m hm => ?_
  split at hm
  · cases hm
  · cases hspec : p.spec with
    | none => simp [hspec] at hm
    | some spec =>
      rw [hspec] at hm
      have hnames : ∀ c ∈ spec.containers, OneLine c.name := fun c hc =>
        hs.containers p hp spec hspec c (List.mem_append_right _ hc)
      exact oneLine_containerFaults hnames (by decide) (by decide) m hm

theorem fits_hostPathVolume : hostPathVolume.Fits := by
  refine fun s hs => oneLine_podFindings fun p hp spec hspec m hm => ?_
  obtain ⟨v, hv, rfl⟩ := List.mem_map.1 hm
  exact oneLine_between (by decide) (hs.volumes p hp spec hspec v (List.mem_filter.1 hv).1) (by decide)

theorem oneLine_of_mem_sharedNamespaces {spec : PodSpec} {name : String}
    (h : name ∈ sharedNamespaces spec) : OneLine name := by
  obtain ⟨⟨shared, name'⟩, hmem, hname⟩ := List.mem_filterMap.1 h
  have hall : ∀ n ∈ ["network", "PID", "IPC"], OneLine n := by decide
  obtain ⟨-, hname⟩ := Option.ite_none_right_eq_some.1 hname
  cases hname
  exact hall _ (List.mem_map_of_mem (f := Prod.snd) hmem)

theorem fits_hostNamespaces : hostNamespaces.Fits := by
  refine fun s _ => oneLine_podFindings fun p _ spec _ m hm => ?_
  obtain ⟨name, hname, rfl⟩ := List.mem_map.1 hm
  exact oneLine_between (by decide) (oneLine_of_mem_sharedNamespaces hname) (by decide)

theorem fits_nodeNameSelector : nodeNameSelector.Fits :=
  fun _ _ => oneLine_podFindings fun _ _ _ _ => oneLine_of_mem_ite (by decide)

theorem fits_barePods : barePods.Fits :=
  fun _ _ => oneLine_findings fun _ _ => oneLine_of_mem_ite (by decide)

/-! ## Objects in the default namespace -/

theorem oneLine_inDefault (s : Snapshot) (k : Kind) (isExempt : k.Item → Bool) :
    ∀ f ∈ inDefault s k isExempt, OneLine f.message :=
  oneLine_findings fun _ _ => oneLine_of_mem_ite (by decide)

theorem fits_defaultNamespace : defaultNamespace.Fits := by
  intro s _
  simp only [defaultNamespace, List.forall_mem_append]
  exact ⟨⟨⟨⟨⟨⟨oneLine_inDefault s _ _, oneLine_inDefault s _ _⟩, oneLine_inDefault s _ _⟩,
    oneLine_inDefault s _ _⟩, oneLine_inDefault s _ _⟩, oneLine_inDefault s _ _⟩, oneLine_inDefault s _ _⟩

/-! ## Storage -/

theorem fits_defaultStorageClass : defaultStorageClass.Fits := by
  intro s hs
  have hnames : ∀ name ∈ s.defaultStorageClasses.map (·.metadata.name), OneLine name := by
    intro name hname
    obtain ⟨c, hc, rfl⟩ := List.mem_map.1 hname
    exact (hs.objects .storageClass c (List.mem_filter.1 hc).1).1
  refine oneLine_findings fun c _ => oneLine_of_mem_ite ?_
  exact oneLine_append_iff.2 ⟨by decide, Text.oneLine_intercalate (by decide) hnames⟩

theorem fits_missingStorageClass : missingStorageClass.Fits := by
  intro s hs
  refine oneLine_findings fun c hc => ?_
  split
  · exact List.forall_mem_nil _
  · next name hname =>
    have hfits : OneLine name := hs.storageClasses c hc name hname
    exact oneLine_of_mem_ite_nil (oneLine_between (by decide) hfits (by decide))

/-! ## Unused objects -/

/-- The message of a rule about unused objects. -/
theorem oneLine_unused {k : Kind} {a : String} (hs : s.NamesFit) (ha : OneLine a)
    (isFine : k.Item → Bool) :
    ∀ f ∈ s.findings k fun o => if isFine o then [] else [a ++ (k.metadata o).name ++ "'"],
      OneLine f.message :=
  oneLine_findings fun o ho =>
    oneLine_of_mem_ite_nil (oneLine_between ha (hs.objects k o ho).1 (by decide))

theorem fits_unusedConfigMap : unusedConfigMap.Fits :=
  fun _ hs => oneLine_unused (k := .configMap) hs (by decide) _

theorem fits_unusedSecret : unusedSecret.Fits :=
  fun _ hs => oneLine_unused (k := .secret) hs (by decide) _

theorem fits_unusedVolume : unusedVolume.Fits :=
  fun _ hs => oneLine_unused (k := .persistentVolume) hs (by decide) _

theorem fits_unusedClaim : unusedClaim.Fits :=
  fun _ hs => oneLine_unused (k := .persistentVolumeClaim) hs (by decide) _

/-! ## Webhooks -/

theorem oneLine_label (w : Webhook) : OneLine w.label := by
  unfold Webhook.label
  split <;> decide

theorem oneLine_webhookFindings {faults : Webhook → List String} (hs : s.NamesFit)
    (h : ∀ w, ∀ fault ∈ faults w, OneLine fault) : ∀ f ∈ webhookFindings s faults, OneLine f.message := by
  intro f hf
  obtain ⟨w, hw, hf⟩ := List.mem_flatMap.1 hf
  obtain ⟨fault, hfault, rfl⟩ := List.mem_map.1 hf
  have hopening : OneLine (w.label ++ " webhook '") := oneLine_append_iff.2 ⟨oneLine_label w, by decide⟩
  have hname : OneLine (w.label ++ " webhook '" ++ w.name ++ "' ") :=
    oneLine_between hopening (hs.webhooks w hw) (by decide)
  exact oneLine_append_iff.2 ⟨hname, h w fault hfault⟩

theorem fits_webhookTarget : webhookTarget.Fits := by
  refine fun s hs => oneLine_webhookFindings hs fun w => ?_
  split
  · exact List.forall_mem_nil _
  · split
    · exact List.forall_mem_singleton.2 (by decide)
    · exact oneLine_of_mem_ite (by decide)

theorem fits_webhookTimeout : webhookTimeout.Fits := by
  refine fun s hs => oneLine_webhookFindings hs fun w => ?_
  split
  · exact List.forall_mem_nil _
  · next t _ =>
    have htimeout : OneLine ("timeout of " ++ toString t ++ "s exceeds ") :=
      oneLine_between (by decide) (Text.oneLine_toString_int t) (by decide)
    exact oneLine_of_mem_ite (oneLine_between htimeout (Text.oneLine_toString_int _) (by decide))

theorem fits_webhookReplacement : webhookReplacement.Fits :=
  fun _ hs => oneLine_webhookFindings hs fun _ => oneLine_of_mem_ite (by decide)

/-! ## Workloads -/

theorem fits_danglingService : danglingService.Fits := by
  refine fun s _ => oneLine_findings fun x _ => ?_
  split
  · exact List.forall_mem_nil _
  · exact oneLine_of_mem_ite_nil (by decide)

theorem fits_cronJobConcurrency : cronJobConcurrency.Fits :=
  fun _ _ => oneLine_findings fun _ _ => oneLine_of_mem_ite (by decide)

theorem fits_nodeNotReady : nodeNotReady.Fits :=
  fun _ _ => oneLine_findings fun _ _ => oneLine_of_mem_ite_nil (by decide)

/-! ## The catalog -/

theorem fits_of_mem : ∀ r ∈ rules, r.name ≠ "volume-snapshot-validity" → r.Fits := by
  simp only [rules, List.forall_mem_cons]
  exact ⟨fun _ => fits_barePods, fun _ => fits_fullyQualifiedImage, fun _ => fits_latestTag,
    fun _ => fits_defaultNamespace, fun _ => fits_nodeNameSelector, fun _ => fits_resourceRequirements,
    fun _ => fits_missingProbes, fun _ => fits_cronJobConcurrency, fun _ => fits_danglingService,
    fun _ => fits_hostPathVolume, fun _ => fits_unusedConfigMap, fun _ => fits_unusedSecret,
    fun _ => fits_unusedVolume, fun _ => fits_unusedClaim, fun _ => fits_privilegedContainers,
    fun _ => fits_nonRootUser, fun _ => fits_hostNamespaces, fun _ => fits_privilegeEscalation,
    fun _ => fits_webhookTarget, fun _ => fits_webhookTimeout, fun _ => fits_webhookReplacement,
    fun _ => fits_defaultStorageClass, fun _ => fits_missingStorageClass, fun h => absurd rfl h,
    fun _ => fits_nodeNotReady, List.forall_mem_nil _⟩

/-! ## Errors of volume snapshots -/

/-- What a volume snapshot says of its error. -/
def errorText (v : VolumeSnapshot) : Option String := (v.status.bind (·.error)).bind (·.message)

/-- An error is passed on as it is. -/
theorem mem_findings_volumeSnapshotValidity {f : Finding} (hf : f ∈ volumeSnapshotValidity.findings s) :
    OneLine f.message ∨ ∃ v ∈ s.volumeSnapshots, ∃ text ∈ errorText v,
      f = ⟨.volumeSnapshot, v.metadata, "Volume snapshot is in error state: " ++ text⟩ := by
  obtain ⟨v, hv, message, hmessage, rfl⟩ := Snapshot.mem_findings.1 hf
  rcases List.mem_append.1 hmessage with h | h
  · exact .inl (oneLine_of_mem_ite (by decide) message h)
  · split at h
    · next e he =>
      rw [List.mem_singleton.1 h]
      cases htext : e.message with
      | none =>
        have hunknown : OneLine "Volume snapshot is in error state: unknown error" := by decide
        exact .inl hunknown
      | some text => exact .inr ⟨v, hv, text, by simp [errorText, he, htext], rfl⟩
    · cases h

end Checks

end ClusterAudit
