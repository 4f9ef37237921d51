/-
A report of one severity is a part of the whole report, and the parts make up the whole.

What is screened out before sorting might as well be taken out of the sorted report
(`diagnostics_sorted_screened`). The order is said place by place (`Diagnostic.place`), where
the key that sorting goes by is a list of lists.
-/
import Mathlib.Data.Prod.Lex
import Mathlib.Order.WithBot
import ClusterAudit.Proofs.Inspection
import ClusterAudit.Proofs.ReportOrder

namespace ClusterAudit

namespace Diagnostic

/-- The namespace; a missing one comes before all others. -/
def nsPlace (ns : Option String) : WithBot String := ns.elim ⊥ WithBot.some

/-- Namespace, object and check, the first of them counting most. -/
def place (d : Diagnostic) : WithBot String ×ₗ String ×ₗ String :=
  toLex (nsPlace d.subject.ns, toLex (d.subject.name, d.check))

theorem toList_lt_iff {a b : Option String} :
    a.toList < b.toList ↔ nsPlace a < nsPlace b := by
  cases a <;> cases b <;> simp [nsPlace, List.cons_lt_cons_iff]

theorem toList_eq_iff {a b : Option String} : a.toList = b.toList ↔ nsPlace a = nsPlace b := by
  cases a <;> cases b <;> simp [nsPlace]

theorem sortKey_lt_iff {a b : Diagnostic} : a.sortKey < b.sortKey ↔ a.place < b.place := by
  simp [sortKey, place, List.cons_lt_cons_iff, Prod.Lex.toLex_lt_toLex, toList_lt_iff,
    toList_eq_iff]

theorem precedes_eq_byKey_place : precedes = StableSort.byKey place := by
  funext a b
  rw [precedes_eq_byKey, StableSort.byKey, StableSort.byKey, decide_eq_decide, ← not_lt, ← not_lt,
    sortKey_lt_iff]

end Diagnostic

namespace Report

open StableSort

/-! ## Sorting -/

theorem diagnostics_sorted_eq (r : Report) :
    r.sorted.diagnostics = r.diagnostics.mergeSort (byKey Diagnostic.place) := by
  rw [sorted, Diagnostic.precedes_eq_byKey_place]

theorem pairwise_sorted (r : Report) :
    r.sorted.diagnostics.Pairwise fun a b => a.place ≤ b.place := by
  rw [diagnostics_sorted_eq]
  exact pairwise_mergeSort r.diagnostics

theorem ofKey_sorted (r : Report) (k : WithBot String ×ₗ String ×ₗ String) :
    ofKey Diagnostic.place k r.sorted.diagnostics = ofKey Diagnostic.place k r.diagnostics := by
  rw [diagnostics_sorted_eq, ofKey_mergeSort]

theorem sorted_sorted (r : Report) : r.sorted.sorted = r.sorted :=
  sorted_eq_sorted_iff.2 fun k => by rw [diagnostics_sorted, ofKey_mergeSort]

/-! ## Severities -/

theorem diagnostics_screened (v : Severity) (ds : List Diagnostic) :
    (screened ⟨some v⟩ ds).diagnostics = (screened {} ds).diagnostics.filter (·.severity == v) := by
  rw [screened, screened, List.filter_filter]
  refine List.filter_congr fun d _ => ?_
  simp [Screen.passes, Bool.and_comm]

theorem diagnostics_sorted_screened (v : Severity) (ds : List Diagnostic) :
    (screened ⟨some v⟩ ds).sorted.diagnostics =
      (screened {} ds).sorted.diagnostics.filter (·.severity == v) := by
  rw [diagnostics_sorted, diagnostics_screened, mergeSort_filter, ← diagnostics_sorted]

/-- Each diagnostic is of one severity. -/
theorem perm_flatMap_severities (ds : List Diagnostic) :
    (Severity.all.flatMap fun v => ds.filter (·.severity == v)).Perm ds := by
  rw [List.perm_iff_count]
  intro d
  rw [List.count_flatMap]
  simp only [Function.comp_def, Run.count_filter_eq]
  cases d.severity <;> simp [Severity.all]

/-- **A severity selects a part of the report.** The parts make up the whole, which is the
diagnostics in the order of their places, those of one place as they came. -/
theorem severity_selects_part :
    (∀ ds : List Diagnostic,
      (∀ v : Severity,
        (screened ⟨some v⟩ ds).sorted.diagnostics =
          (screened {} ds).sorted.diagnostics.filter (·.severity == v) ∧
        (screened ⟨some v⟩ ds).sorted.diagnostics.length = (screened {} ds).sorted.count v) ∧
      (Severity.all.flatMap fun v => (screened ⟨some v⟩ ds).sorted.diagnostics).Perm
        (screened {} ds).sorted.diagnostics) ∧
    ∀ r : Report,
      r.sorted.diagnostics.Perm r.diagnostics ∧
      (r.sorted.diagnostics.Pairwise fun a b => a.place ≤ b.place) ∧
      (∀ k, ofKey Diagnostic.place k r.sorted.diagnostics = ofKey Diagnostic.place k r.diagnostics) ∧
      r.sorted.sorted = r.sorted := by
  refine ⟨fun ds => ⟨fun v => ⟨diagnostics_sorted_screened v ds, ?_⟩, ?_⟩, fun r =>
    ⟨perm_sorted r, pairwise_sorted r, ofKey_sorted r, sorted_sorted r⟩⟩
  · rw [diagnostics_sorted_screened, count, List.countP_eq_length_filter]
  · simp only [diagnostics_sorted_screened]
    exact perm_flatMap_severities _

end Report

end ClusterAudit
