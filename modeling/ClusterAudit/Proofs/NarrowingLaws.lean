/-
Narrowing as a family of commuting projections.

What is left of a snapshot is said here by the lists of names that a scope is made from
(`Scope.Wants`), and by the kinds one by one. Narrowed to several scopes a snapshot keeps
what all of them want, so neither their order nor their repetitions matter to what is left
(`items_foldl_narrow_congr`). Only the record of the last scope does depend on the order.
-/
import Mathlib.Data.List.Perm.Basic
import Mathlib.Algebra.BigOperators.Group.List.Basic
import Mathlib.Algebra.GroupWithZero.Nat
import ClusterAudit.Proofs.Narrowing

namespace ClusterAudit

namespace Kind

/-- The kinds of objects that live in namespaces. -/
def inNamespaces : List Kind :=
  [.persistentVolumeClaim, .pod, .podTemplate, .configMap, .service, .secret, .serviceAccount,
   .resourceQuota, .limitRange, .cronJob, .volumeSnapshot]

/-- The kinds of objects that belong to the cluster as a whole. -/
def ofCluster : List Kind :=
  [.node, .persistentVolume, .storageClass, .mutatingWebhookConfiguration,
   .validatingWebhookConfiguration, .namespaces]

theorem mem_inNamespaces_iff {k : Kind} : k ∈ inNamespaces ↔ k.isNamespaced = true := by
  cases k <;> decide

theorem mem_ofCluster_iff {k : Kind} : k ∈ ofCluster ↔ k.isNamespaced = false := by
  cases k <;> decide

theorem all_perm : all.Perm (inNamespaces ++ ofCluster) := by decide

end Kind

namespace Scope

variable {included excluded : List String} {sc : Scope} {ns : Option String}

/-- Whether objects in the namespace `ns` are wanted, by the names to take and the names to
leave out. Objects outside of namespaces are wanted in any case. -/
def Wants (included excluded : List String) (ns : Option String) : Prop :=
  ∀ x ∈ ns, (included = [] ∨ x ∈ included) ∧ x ∉ excluded

instance : Decidable (Wants included excluded ns) :=
  inferInstanceAs (Decidable (∀ x ∈ ns, (included = [] ∨ x ∈ included) ∧ x ∉ excluded))

theorem ofLists_eq_ok_iff :
    ofLists included excluded = .ok sc ↔ sc.included = included ∧ sc.excluded = excluded := by
  unfold ofLists
  split
  · next c hc =>
    obtain ⟨rfl, rfl⟩ := Choice.ofLists?_eq_some_iff.1 hc
    constructor
    · intro h
      cases h
      exact ⟨rfl, rfl⟩
    · rintro ⟨hincluded, hexcluded⟩
      have hsame : Choice.ofLists? c.included c.excluded = some sc.toChoice :=
        Choice.ofLists?_eq_some_iff.2 ⟨hincluded, hexcluded⟩
      rw [hc, Option.some_inj] at hsame
      rw [hsame]
  · next hnone =>
    constructor
    · intro h
      cases h
    · intro h
      exact nomatch hnone.symm.trans (Choice.ofLists?_eq_some_iff.2 h)

theorem covers_iff_wants (h : ofLists included excluded = .ok sc) :
    sc.covers ns = true ↔ Wants included excluded ns := by
  obtain ⟨rfl, rfl⟩ := ofLists_eq_ok_iff.1 h
  cases ns with
  | none => simp [Wants]
  | some x => simp [covers, Wants, Choice.admits_iff]

end Scope

namespace Snapshot

variable {s : Snapshot} {included excluded : List String} {f g : Scope} {fs gs : List Scope} {k : Kind}

/-! ## What is left -/

theorem items_narrow_of_wants (hf : Scope.ofLists included excluded = .ok f) (hk : k ∈ Kind.inNamespaces) :
    (s.narrow f).items k =
      (s.items k).filter fun o => Scope.Wants included excluded (k.metadata o).ns := by
  rw [items_narrow, if_pos (Kind.mem_inNamespaces_iff.1 hk)]
  refine List.filter_congr fun o _ => ?_
  rw [Bool.eq_iff_iff, Scope.covers_iff_wants hf, decide_eq_true_iff]

/-- A scope without names takes nothing away. -/
theorem narrow_of_no_names (hf : Scope.ofLists [] [] = .ok f) : s.narrow f = { s with scope := f } := by
  have hkept : ∀ k : Kind, (s.narrow f).items k = s.items k := by
    intro k
    by_cases hk : k ∈ Kind.inNamespaces
    · rw [items_narrow_of_wants hf hk]
      exact List.filter_eq_self.2 fun o _ => by simp [Scope.Wants]
    · refine items_narrow_of_clusterWide ?_
      rwa [Kind.mem_inNamespaces_iff, Bool.not_eq_true] at hk
  exact Snapshot.ext hkept rfl rfl

/-! ## One scope after the other -/

/-- **What is left of a kind after several scopes** does not depend on their order, nor on how
often each of them is there. -/
theorem items_foldl_narrow_congr (h : ∀ sc, sc ∈ fs ↔ sc ∈ gs) (k : Kind) :
    (fs.foldl narrow s).items k = (gs.foldl narrow s).items k := by
  cases hk : k.isNamespaced with
  | false => rw [items_foldl_narrow_of_clusterWide hk, items_foldl_narrow_of_clusterWide hk]
  | true =>
    rw [items_foldl_narrow hk, items_foldl_narrow hk]
    refine List.filter_congr fun o _ => ?_
    rw [Bool.eq_iff_iff, List.all_eq_true, List.all_eq_true]
    simp only [h]

theorem narrow_narrow_self (s : Snapshot) (f : Scope) : (s.narrow f).narrow f = s.narrow f := by
  have hitems : ∀ k : Kind, ([f, f].foldl narrow s).items k = ([f].foldl narrow s).items k :=
    items_foldl_narrow_congr (by simp)
  exact Snapshot.ext hitems rfl rfl

theorem items_narrow_comm (s : Snapshot) (f g : Scope) (k : Kind) :
    ((s.narrow f).narrow g).items k = ((s.narrow g).narrow f).items k := by
  have hitems : ([f, g].foldl narrow s).items k = ([g, f].foldl narrow s).items k :=
    items_foldl_narrow_congr (by simp [or_comm]) k
  exact hitems

/-- Of the objects in namespaces those are left that both scopes want. -/
theorem items_narrow_narrow {included' excluded' : List String}
    (hf : Scope.ofLists included excluded = .ok f) (hg : Scope.ofLists included' excluded' = .ok g)
    (hk : k ∈ Kind.inNamespaces) :
    ((s.narrow f).narrow g).items k = (s.items k).filter fun o =>
      Scope.Wants included excluded (k.metadata o).ns ∧
        Scope.Wants included' excluded' (k.metadata o).ns := by
  rw [items_narrow_of_wants hg hk, items_narrow_of_wants hf hk, List.filter_filter]
  refine List.filter_congr fun o _ => ?_
  rw [Bool.decide_and, Bool.and_comm]

/-! ## Taking names and leaving them out -/

theorem wants_included_iff {names : List String} (h : names ≠ []) {ns : String} :
    Scope.Wants names [] (some ns) ↔ ¬ Scope.Wants [] names (some ns) := by
  simp [Scope.Wants, h]

/-- An object in a namespace is left either if the names are taken or if they are left out. -/
theorem mem_items_narrow_iff_notMem {names : List String} (hne : names ≠ [])
    (hf : Scope.ofLists names [] = .ok f) (hg : Scope.ofLists [] names = .ok g)
    (hk : k ∈ Kind.inNamespaces) {o : k.Item} (ho : o ∈ s.items k) (hns : (k.metadata o).ns ≠ none) :
    o ∈ (s.narrow f).items k ↔ o ∉ (s.narrow g).items k := by
  obtain ⟨ns, hns⟩ := Option.ne_none_iff_exists'.1 hns
  rw [items_narrow_of_wants hf hk, items_narrow_of_wants hg hk, List.mem_filter, List.mem_filter,
    hns, decide_eq_true_iff, decide_eq_true_iff, wants_included_iff hne]
  simp only [ho, true_and]

/-! ## How much is left -/

/-- How many objects the names take away. -/
def dropped (s : Snapshot) (included excluded : List String) : Nat :=
  (Kind.inNamespaces.map fun k =>
    (s.items k).countP fun o => ¬ Scope.Wants included excluded (k.metadata o).ns).sum

theorem size_eq_sum (s : Snapshot) :
    s.size = (Kind.inNamespaces.map fun k => (s.items k).length).sum +
      (Kind.ofCluster.map fun k => (s.items k).length).sum := by
  have hsum : s.size = (Kind.all.map fun k => (s.items k).length).sum := by
    rw [size, List.sum_eq_foldl, List.foldl_map]
  rw [hsum, (Kind.all_perm.map _).sum_eq, List.map_append, List.sum_append]

theorem size_narrow_add_dropped (hf : Scope.ofLists included excluded = .ok f) :
    (s.narrow f).size + s.dropped included excluded = s.size := by
  have hcluster : (Kind.ofCluster.map fun k => ((s.narrow f).items k).length) =
      Kind.ofCluster.map fun k => (s.items k).length := by
    refine List.map_congr_left fun k hk => ?_
    rw [items_narrow_of_clusterWide (Kind.mem_ofCluster_iff.1 hk)]
  have hnamespaces : (Kind.inNamespaces.map fun k => ((s.narrow f).items k).length).sum +
      s.dropped included excluded = (Kind.inNamespaces.map fun k => (s.items k).length).sum := by
    rw [dropped, ← List.sum_map_add]
    refine congrArg List.sum (List.map_congr_left fun k hk => ?_)
    have hboth := List.length_eq_countP_add_countP
      (fun o => decide (Scope.Wants included excluded (k.metadata o).ns)) (l := s.items k)
    rw [items_narrow_of_wants hf hk, ← List.countP_eq_length_filter, hboth]
    simp only [decide_not, decide_eq_true_eq]
  rw [size_eq_sum, size_eq_sum, hcluster, ← hnamespaces]
  omega

/-- **The laws of narrowing.** A scope made from two lists of names leaves of the objects in
namespaces those that the lists want, in their order, and all else as it was, and it is on
record. Narrowing again to the same scope changes nothing, and of two scopes either may come
first. What some names take away is what is left if they are left out. The objects that are
gone are missing from the size, and no others. -/
theorem narrowing_projects (s : Snapshot) {included excluded included' excluded' : List String}
    {f g : Scope} (hf : Scope.ofLists included excluded = .ok f)
    (hg : Scope.ofLists included' excluded' = .ok g) :
    ((∀ k ∈ Kind.inNamespaces, (s.narrow f).items k =
        (s.items k).filter fun o => Scope.Wants included excluded (k.metadata o).ns) ∧
      (∀ k ∈ Kind.ofCluster, (s.narrow f).items k = s.items k) ∧
      (s.narrow f).systemNamespace = s.systemNamespace ∧ (s.narrow f).scope = f ∧
      (included = [] → excluded = [] → s.narrow f = { s with scope := f })) ∧
    (s.narrow f).narrow f = s.narrow f ∧
    ((∀ k, ((s.narrow f).narrow g).items k = ((s.narrow g).narrow f).items k) ∧
      ∀ k ∈ Kind.inNamespaces, ((s.narrow f).narrow g).items k = (s.items k).filter fun o =>
        Scope.Wants included excluded (k.metadata o).ns ∧
          Scope.Wants included' excluded' (k.metadata o).ns) ∧
    (∀ (names : List String) (taken others : Scope), names ≠ [] →
      Scope.ofLists names [] = .ok taken → Scope.ofLists [] names = .ok others →
      ∀ k ∈ Kind.inNamespaces, ∀ o ∈ s.items k, (k.metadata o).ns ≠ none →
        (o ∈ (s.narrow taken).items k ↔ o ∉ (s.narrow others).items k)) ∧
    (s.narrow f).size + s.dropped included excluded = s.size := by
  refine ⟨⟨?_, ?_, rfl, rfl, ?_⟩, narrow_narrow_self s f, ⟨?_, ?_⟩, ?_, size_narrow_add_dropped hf⟩
  · intro k hk
    exact items_narrow_of_wants hf hk
  · intro k hk
    exact items_narrow_of_clusterWide (Kind.mem_ofCluster_iff.1 hk)
  · rintro rfl rfl
    exact narrow_of_no_names hf
  · exact items_narrow_comm s f g
  · intro k hk
    exact items_narrow_narrow hf hg hk
  · intro names taken others hne htaken hothers k hk o ho hns
    exact mem_items_narrow_iff_notMem hne htaken hothers hk ho hns

/-- Config maps in two namespaces, in the empty one and in none. The node is not in a
namespace, whatever it says. -/
def scattered : Snapshot where
  configMaps := [some "prod", some "dev", some "", none].map fun ns =>
    { metadata := { name? := some "settings", ns } }
  nodes := [{ metadata := { name? := some "worker", ns := some "dev" } }]

theorem narrowing_projects_scattered :
    Scope.ofLists ["prod"] [] = .ok (.only "prod") ∧ Scope.ofLists [] ["prod"] = .ok (.allBut "prod") ∧
      Scope.ofLists [] ["dev"] = .ok (.allBut "dev") ∧ ["prod"] ≠ [] ∧
      (scattered.narrow (.only "prod")).narrow (.only "prod") = scattered.narrow (.only "prod") ∧
      (scattered.narrow (.only "prod")).items .node = scattered.items .node ∧
      ((scattered.narrow (.only "prod")).narrow (.allBut "dev")).items .configMap =
        ((scattered.narrow (.allBut "dev")).narrow (.only "prod")).items .configMap ∧
      (∀ c ∈ scattered.configMaps, c.metadata.ns ≠ none →
        (c ∈ (scattered.narrow (.only "prod")).configMaps ↔
          c ∉ (scattered.narrow (.allBut "prod")).configMaps)) ∧
      (scattered.narrow (.only "prod")).size + 2 = 5 ∧
      (scattered.narrow (.allBut "prod")).configMaps.map (·.metadata.ns) = [some "dev", some "", none] := by
  have hprod : Scope.ofLists ["prod"] [] = .ok (.only "prod") := Scope.ofLists_eq_ok_iff.2 ⟨rfl, rfl⟩
  have hothers : Scope.ofLists [] ["prod"] = .ok (.allBut "prod") :=
    Scope.ofLists_eq_ok_iff.2 ⟨rfl, rfl⟩
  have hdev : Scope.ofLists [] ["dev"] = .ok (.allBut "dev") := Scope.ofLists_eq_ok_iff.2 ⟨rfl, rfl⟩
  have hne : ["prod"] ≠ [] := List.cons_ne_nil _ _
  obtain ⟨⟨-, hcluster, -⟩, hself, ⟨hcomm, -⟩, hparts, hsize⟩ := narrowing_projects scattered hprod hdev
  refine ⟨hprod, hothers, hdev, hne, hself, ?_, hcomm _, ?_, hsize, by decide⟩
  · exact hcluster .node (by decide)
  · exact hparts ["prod"] _ _ hne hprod hothers .configMap (by decide)

end Snapshot

end ClusterAudit
