/-
Listing the checks of some groups shows those that a run of these groups selects.

Among all checks the listing goes by their names, which are different. So what is listed
of some groups is the listing of all checks with the others left out (`byName_listed`),
whatever order the groups are named in and however often.
-/
import Mathlib.Data.List.Flatten
import Mathlib.Data.String.Basic
import ClusterAudit.CommandLine.Execution
import ClusterAudit.Proofs.ReportLines
import ClusterAudit.Proofs.SelectedChecks
import ClusterAudit.Proofs.StableSort

namespace ClusterAudit

namespace Listing

open StableSort

theorem byName_eq (cs : List Check) : byName cs = cs.mergeSort (byKey Check.name) := rfl

theorem perm_byName (cs : List Check) : (byName cs).Perm cs := List.mergeSort_perm cs _

end Listing

namespace Registry

variable {r : Registry} {c : Check} {groups : List String}

/-- Whether `c` is in one of `groups`, if any are named. -/
def isAskedFor (groups : List String) (c : Check) : Bool :=
  groups.isEmpty || c.groups.any groups.contains

theorem Sound.mem_listed (h : r.Sound) : c ∈ r.listed groups ↔ c ∈ r.checks ∧ isAskedFor groups c = true := by
  unfold listed isAskedFor
  by_cases hnone : groups = []
  · simp [hnone]
  · have hasked : (∃ g ∈ groups, g ∈ c.groups) ↔ ∃ g ∈ c.groups, g ∈ groups :=
      exists_congr fun _ => and_comm
    simp [hnone, h.mem_union, hasked]

theorem Sound.nodup_listed (h : r.Sound) : ((r.listed groups).map (·.name)).Nodup := by
  unfold listed
  split
  · exact h.names
  · exact nodup_union groups

theorem Sound.perm_listed (h : r.Sound) : (r.listed groups).Perm (r.checks.filter (isAskedFor groups)) := by
  refine (List.perm_ext_iff_of_nodup ?_ ?_).2 fun c => ?_
  · exact h.nodup_listed.of_map _
  · exact (h.names.of_map _).filter _
  · rw [h.mem_listed, List.mem_filter]

/-- **A listing is the whole listing with some checks left out.** -/
theorem Sound.byName_listed (h : r.Sound) :
    Listing.byName (r.listed groups) = (Listing.byName (r.listed [])).filter (isAskedFor groups) := by
  have hall : r.listed [] = r.checks := rfl
  rw [hall, Listing.byName_eq, Listing.byName_eq, ← StableSort.mergeSort_filter]
  exact StableSort.mergeSort_eq_of_perm h.nodup_listed h.perm_listed

end Registry

/-- Groups are resolved alike for a listing and for a run. -/
theorem Selection.resolve_eq_listed {s : Selection} {groups : List String} (r : Registry)
    (h : Conditions.selection { includedGroups := groups } = .ok s) :
    s.resolve r = r.listed groups := by
  obtain ⟨⟨hig, heg⟩, hic, hec⟩ := Conditions.selection_eq_ok_iff.1 h
  have hadmits : ∀ name, s.checks.admits name = true := fun name => by
    simp [Choice.admits, hic, hec]
  have hgroups : s.groups.isAll = groups.isEmpty := by simp [Choice.isAll, hig, heg]
  simp only [resolve, hadmits, List.filter_true, byGroup, hgroups, hig, Registry.listed]
  split <;> rfl

namespace CommandLine

open Text (HasLines)

/-- What stands for a check in a listing: its name, its groups between commas, and its
description, between tabs. -/
def rowOf (c : Check) : String :=
  c.name ++ "\t" ++ ",".intercalate c.groups ++ "\t" ++ c.description ++ "\n"

/-- The command `list` prints the rows of the checks `cs` for `groups`, which take the
lines `ls`. -/
structure Lists (r : Registry) (groups : List String) (cs : List Check) (ls : List String) : Prop where
  execute : ∀ (m : Type → Type) [Monad m] (t : Schedule) (fetch : Scope → m (Except Failure Snapshot)),
    (Command.list groups).execute t fetch r =
      pure { text := String.join (cs.map rowOf), ending := .ok false }
  lines : HasLines (String.join (cs.map rowOf)) ls
  /-- In whatever order the registry hands them out. -/
  orderless : ∀ cs', cs'.Perm (r.listed groups) → Listing.byName cs' = cs

/-- What is printed for `groups` is what `s`, made from the same groups, selects. -/
structure ListsSelected (r : Registry) (groups : List String) (s : Selection) (cs : List Check)
    (ls : List String) : Prop where
  selection : Conditions.selection { includedGroups := groups } = .ok s
  printed : Lists r groups cs ls
  selected : cs.Perm (s.resolve r)
  /-- No name comes twice. -/
  increasing : cs.Pairwise fun a b => a.name < b.name
  part : ∃ all allLines, Lists r [] all allLines ∧ ls.Sublist allLines

/-- The lines of checks that are printed one after the other. -/
def linesOf (cs : List Check) : List String := cs.flatMap fun c => Text.pieces '\n' c.line

theorem hasLines_linesOf (cs : List Check) : HasLines (String.join (cs.map rowOf)) (linesOf cs) := by
  have hlines : HasLines (String.join ((cs.map Check.line).map (· ++ "\n")))
      ((cs.map Check.line).flatMap (Text.pieces '\n')) := Text.hasLines_join
  rwa [List.map_map, List.flatMap_map] at hlines

theorem lists_byName {r : Registry} (h : r.Sound) (groups : List String) :
    Lists r groups (Listing.byName (r.listed groups)) (linesOf (Listing.byName (r.listed groups))) where
  execute := fun _ _ _ _ => rfl
  lines := hasLines_linesOf _
  orderless := fun _ hp =>
    StableSort.mergeSort_eq_of_perm ((hp.map _).nodup_iff.2 h.nodup_listed) hp

/-- **What is listed of some groups is what a run of these groups selects**, from any
registry that calls of `register` can lead to. -/
theorem lists_selected (calls : List Check) (groups : List String) :
    ∃ s cs ls, ListsSelected (Registry.empty.offerAll calls) groups s cs ls := by
  have h : (Registry.empty.offerAll calls).Sound := Registry.sound_offerAll calls
  have hs : Conditions.selection { includedGroups := groups } = .ok ⟨⟨groups, [], .inr rfl⟩, .all⟩ :=
    Conditions.selection_eq_ok_iff.2 ⟨⟨rfl, rfl⟩, rfl, rfl⟩
  refine ⟨_, _, _, hs, lists_byName h groups, ?_, ?_, _, _, lists_byName h [], ?_⟩
  · rw [Selection.resolve_eq_listed _ hs]
    exact Listing.perm_byName _
  · exact StableSort.pairwise_lt_mergeSort h.nodup_listed
  · have hsub : (Listing.byName ((Registry.empty.offerAll calls).listed groups)).Sublist
        (Listing.byName ((Registry.empty.offerAll calls).listed [])) := by
      rw [h.byName_listed]
      exact List.filter_sublist
    exact hsub.flatMap _

end CommandLine

end ClusterAudit
