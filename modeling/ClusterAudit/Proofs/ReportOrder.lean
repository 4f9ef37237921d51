/-
The order of a sorted report is that of its diagnostics' keys: namespace, object
and check, none of which tells one diagnostic of a check about an object from
another of the same check about the same object.

`sorted_eq_sorted_iff`: sorted reports are equal just if the diagnostics of each
key come in the same order.
-/
import Mathlib.Data.List.Lex
import Mathlib.Data.String.Basic
import ClusterAudit.Report
import ClusterAudit.Proofs.StableSort

namespace ClusterAudit

namespace Diagnostic

theorem keyBefore_iff {a b : List (List String)} : keyBefore a b = true ↔ a < b := by
  have hinner : (fun x y : List String => (x.lex y fun s t => decide (s < t)) = true) = (· < ·) := by
    funext x y
    exact propext List.lex_eq_true_iff_lt
  rw [keyBefore, List.lex_eq_true_iff_lex, hinner]
  exact List.lex_lt

theorem precedes_eq_byKey : precedes = StableSort.byKey sortKey := by
  funext a b
  rw [Bool.eq_iff_iff, StableSort.byKey, decide_eq_true_eq, precedes, Bool.not_eq_true',
    ← Bool.not_eq_true, keyBefore_iff, not_lt]

theorem sortKey_eq_iff {a b : Diagnostic} :
    a.sortKey = b.sortKey ↔
      a.subject.ns = b.subject.ns ∧ a.subject.name = b.subject.name ∧ a.check = b.check := by
  cases ha : a.subject.ns <;> cases hb : b.subject.ns <;> simp [sortKey, ha, hb]

end Diagnostic

namespace Report

open StableSort

theorem diagnostics_sorted (r : Report) :
    r.sorted.diagnostics = r.diagnostics.mergeSort (byKey Diagnostic.sortKey) := by
  rw [sorted, Diagnostic.precedes_eq_byKey]

theorem perm_sorted (r : Report) : r.sorted.diagnostics.Perm r.diagnostics :=
  List.mergeSort_perm _ _

theorem sorted_eq_sorted_iff {r r' : Report} :
    r.sorted = r'.sorted ↔
      ∀ k, ofKey Diagnostic.sortKey k r.diagnostics = ofKey Diagnostic.sortKey k r'.diagnostics := by
  rw [← mergeSort_eq_mergeSort_iff, ← diagnostics_sorted, ← diagnostics_sorted]
  exact ⟨congrArg _, fun h => by rw [← mk.injEq] at h; exact h⟩

theorem hasErrors_sorted (r : Report) : r.sorted.hasErrors = r.hasErrors :=
  (perm_sorted r).any_eq

end Report

end ClusterAudit
