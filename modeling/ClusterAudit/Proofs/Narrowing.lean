/-
What narrowing a snapshot to a scope does to what is found in it.

Of the objects that live in namespaces those in the scope are left, and so are the
findings about them (`findings_narrow`), as long as nothing that is said of one of
them hangs on one that is gone. If all of them are in a namespace (`Housed`), then a
namespace of the scope is left whole (`Housed.mem_items_narrow_iff`), so whatever is
looked up in an object's own namespace is still there. Everything else stays as it
is (`findings_narrow_of_clusterWide`).
-/
import ClusterAudit.Check

namespace ClusterAudit

namespace Scope

/-- One namespace. -/
def only (ns : String) : Scope := ⟨{ included := [ns] }⟩

/-- Every namespace but one. -/
def allBut (ns : String) : Scope := ⟨{ excluded := [ns] }⟩

/-- An object that counts as being in a namespace of the scope is in the scope. -/
theorem covers_of_home {sc : Scope} {m : Metadata} (h : sc.covers (some m.home) = true) :
    sc.covers m.ns = true := by
  cases hns : m.ns with
  | none => rfl
  | some ns => rwa [Metadata.home, hns] at h

end Scope

namespace Snapshot

variable {s : Snapshot} {sc : Scope} {k : Kind}

/-- Every object of a kind that lives in namespaces is in one. -/
def Housed (s : Snapshot) : Prop :=
  ∀ k : Kind, k.isNamespaced = true → ∀ o ∈ s.items k, (k.metadata o).ns ≠ none

/-! ## The objects -/

theorem items_narrow_of_clusterWide (hk : k.isNamespaced = false) :
    (s.narrow sc).items k = s.items k := by
  rw [items_narrow, hk, if_neg Bool.false_ne_true]

theorem mem_items_narrow (hk : k.isNamespaced = true) {o : k.Item} :
    o ∈ (s.narrow sc).items k ↔ o ∈ s.items k ∧ sc.covers (k.metadata o).ns = true := by
  rw [items_narrow, if_pos hk, List.mem_filter]

theorem Housed.ns_eq (hs : s.Housed) (hk : k.isNamespaced = true) {o : k.Item} (ho : o ∈ s.items k) :
    (k.metadata o).ns = some (k.metadata o).home := by
  obtain ⟨ns, hns⟩ := Option.ne_none_iff_exists'.1 (hs k hk o ho)
  rw [Metadata.home, hns, Option.getD_some]

/-- **A namespace of the scope is left whole.** -/
theorem Housed.mem_items_narrow_iff (hs : s.Housed) (hk : k.isNamespaced = true) {ns : String}
    (hc : sc.covers (some ns) = true) {o : k.Item} (ho : (k.metadata o).home = ns) :
    o ∈ (s.narrow sc).items k ↔ o ∈ s.items k := by
  rw [mem_items_narrow hk]
  refine ⟨And.left, fun hmem => ⟨hmem, ?_⟩⟩
  rw [hs.ns_eq hk hmem, ho, hc]

/-- So nothing gets lost of what is looked for there. -/
theorem Housed.exists_mem_items_narrow_iff (hs : s.Housed) (hk : k.isNamespaced = true) {ns : String}
    (hc : sc.covers (some ns) = true) {P : k.Item → Prop} :
    (∃ o ∈ (s.narrow sc).items k, P o ∧ (k.metadata o).home = ns) ↔
      ∃ o ∈ s.items k, P o ∧ (k.metadata o).home = ns := by
  constructor
  · rintro ⟨o, ho, hP, hhome⟩
    exact ⟨o, (hs.mem_items_narrow_iff hk hc hhome).1 ho, hP, hhome⟩
  · rintro ⟨o, ho, hP, hhome⟩
    exact ⟨o, (hs.mem_items_narrow_iff hk hc hhome).2 ho, hP, hhome⟩

/-- **Narrowed again and again**, a snapshot keeps what all of the scopes cover. -/
theorem items_foldl_narrow (hk : k.isNamespaced = true) (scopes : List Scope) :
    (scopes.foldl narrow s).items k =
      (s.items k).filter fun o => scopes.all (·.covers (k.metadata o).ns) := by
  induction scopes generalizing s with
  | nil => exact (List.filter_eq_self.2 fun _ _ => rfl).symm
  | cons sc scopes ih =>
    rw [List.foldl_cons, ih, items_narrow, if_pos hk, List.filter_filter]
    simp only [List.all_cons, Bool.and_comm]

theorem items_foldl_narrow_of_clusterWide (hk : k.isNamespaced = false) (scopes : List Scope) :
    (scopes.foldl narrow s).items k = s.items k := by
  induction scopes generalizing s with
  | nil => rfl
  | cons sc scopes ih => rw [List.foldl_cons, ih, items_narrow_of_clusterWide hk]

/-! ## The findings -/

theorem findings_narrow_of_clusterWide (hk : k.isNamespaced = false) (faults : k.Item → List String) :
    (s.narrow sc).findings k faults = s.findings k faults := by
  rw [findings, items_narrow_of_clusterWide hk, findings]

/-- **Findings about objects that live in namespaces.** `faults` may look at all of
the snapshot, and `faults'` at what is left of it. They need to agree on the objects
that are left. -/
theorem findings_narrow (hk : k.isNamespaced = true) {faults faults' : k.Item → List String}
    (h : ∀ o ∈ s.items k, sc.covers (k.metadata o).ns = true → faults' o = faults o) :
    (s.narrow sc).findings k faults' =
      (s.findings k faults).filter fun f => sc.covers f.about.ns := by
  rw [findings, findings, items_narrow, if_pos hk]
  generalize s.items k = items at h
  induction items with
  | nil => rfl
  | cons o items ih =>
    have ih := ih fun o' ho' => h o' (List.mem_cons_of_mem _ ho')
    rw [List.flatMap_cons, List.filter_append, ← ih, List.filter_map, List.filter_cons]
    cases hc : sc.covers (k.metadata o).ns with
    | true =>
      have hall : (faults o).filter (fun _ => true) = faults o := List.filter_eq_self.2 fun _ _ => rfl
      rw [if_pos rfl, List.flatMap_cons, h o List.mem_cons_self hc]
      simp only [Function.comp_def, hc, hall]
    | false => simp [Function.comp_def, hc]

end Snapshot

end ClusterAudit
