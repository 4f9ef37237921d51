/-
Which checks are selected, said of the lists that a selection is made from
(`Conditions`).

`Admits` is what the lists ask of a check, each for itself. A selection takes just the
registered checks that are admitted, however the registry was filled
(`resolve_exact`), although it asks the registry's groups and not the checks for what
is in a group. Names that nothing in the registry goes by are asked for in vain.
-/
import ClusterAudit.Proofs.RegisterCalls

namespace ClusterAudit

namespace Choice

variable {c : Choice}

theorem isAll_iff : c.isAll = true ↔ c.included = [] ∧ c.excluded = [] := by simp [isAll]

/-- Of several names one has to be in the list to be taken, or outside of the list to
be left out. -/
theorem exists_admits_iff {names : List String} :
    (c.isAll = true ∨ ∃ n ∈ names, c.admits n = true) ↔
      (c.included ≠ [] → ∃ n ∈ names, n ∈ c.included) ∧
        (c.excluded ≠ [] → ∃ n ∈ names, n ∉ c.excluded) := by
  simp only [isAll_iff, admits_iff]
  -- One of the two lists is empty, so that only one of the conditions asks for anything.
  obtain ⟨i, e, rfl | rfl⟩ := c
  · by_cases he : e = [] <;> simp [he]
  · by_cases hi : i = [] <;> simp [hi]

end Choice

/-- The lists that a selection of checks is made from. -/
structure Conditions where
  includedGroups : List String := []
  excludedGroups : List String := []
  includedChecks : List String := []
  excludedChecks : List String := []

namespace Conditions

variable {q q' : Conditions} {s s' : Selection} {r : Registry} {c : Check}

def selection (q : Conditions) : Except Failure Selection :=
  Selection.ofLists q.includedGroups q.excludedGroups q.includedChecks q.excludedChecks

/-- What the lists ask of a check. An empty list asks for nothing. -/
structure Admits (q : Conditions) (c : Check) : Prop where
  includedGroups : q.includedGroups ≠ [] → ∃ g ∈ c.groups, g ∈ q.includedGroups
  excludedGroups : q.excludedGroups ≠ [] → ∃ g ∈ c.groups, g ∉ q.excludedGroups
  includedChecks : q.includedChecks ≠ [] → c.name ∈ q.includedChecks
  excludedChecks : q.excludedChecks ≠ [] → c.name ∉ q.excludedChecks

/-- The two differ in names at most that nothing in `r` goes by. A list that asks for
something may not become one that does not. -/
structure Agree (r : Registry) (q q' : Conditions) : Prop where
  includedGroups : (q.includedGroups = [] ↔ q'.includedGroups = []) ∧
    ∀ g ∈ r.groupNames, g ∈ q.includedGroups ↔ g ∈ q'.includedGroups
  excludedGroups : (q.excludedGroups = [] ↔ q'.excludedGroups = []) ∧
    ∀ g ∈ r.groupNames, g ∈ q.excludedGroups ↔ g ∈ q'.excludedGroups
  includedChecks : (q.includedChecks = [] ↔ q'.includedChecks = []) ∧
    ∀ c ∈ r.checks, c.name ∈ q.includedChecks ↔ c.name ∈ q'.includedChecks
  excludedChecks : ∀ c ∈ r.checks, c.name ∈ q.excludedChecks ↔ c.name ∈ q'.excludedChecks

theorem selection_eq_ok_iff :
    q.selection = .ok s ↔
      (s.groups.included = q.includedGroups ∧ s.groups.excluded = q.excludedGroups) ∧
        s.checks.included = q.includedChecks ∧ s.checks.excluded = q.excludedChecks := by
  obtain ⟨groups, checks⟩ := s
  rw [selection, Selection.ofLists, ← Choice.ofLists?_eq_some_iff, ← Choice.ofLists?_eq_some_iff]
  cases Choice.ofLists? q.includedGroups q.excludedGroups with
  | none => simp
  | some groups' =>
    cases Choice.ofLists? q.includedChecks q.excludedChecks with
    | none => simp
    | some checks' => simp

theorem means_iff_admits (h : q.selection = .ok s) : s.Means c ↔ q.Admits c := by
  obtain ⟨⟨hig, heg⟩, hic, hec⟩ := selection_eq_ok_iff.1 h
  rw [Selection.Means, Choice.exists_admits_iff, Choice.admits_iff, hig, heg, hic, hec]
  constructor
  · rintro ⟨⟨hi, he⟩, hin, hex⟩
    exact ⟨hi, he, hin.resolve_left, fun _ => hex⟩
  · intro ha
    refine ⟨⟨ha.includedGroups, ha.excludedGroups⟩, ?_, ?_⟩
    · exact or_iff_not_imp_left.2 ha.includedChecks
    · by_cases hnil : q.excludedChecks = []
      · simp [hnil]
      · exact ha.excludedChecks hnil

theorem mem_resolve_iff (h : q.selection = .ok s) (hr : r.Sound) :
    c ∈ s.resolve r ↔ c ∈ r.checks ∧ q.Admits c := by
  rw [s.mem_resolve_iff hr, means_iff_admits h]

/-- A check in the registry meets two such lists alike. -/
theorem Agree.admits (h : Agree r q q') (hr : r.Sound) (hc : c ∈ r.checks) (ha : q.Admits c) :
    q'.Admits c := by
  -- The groups of a registered check are known, and there the lists agree.
  have hknown : ∀ g ∈ c.groups, g ∈ r.groupNames := fun g hg => (hr.occupied g).2 ⟨c, hc, hg⟩
  refine ⟨fun hne => ?_, fun hne => ?_, fun hne => ?_, fun _ hin => ?_⟩
  · obtain ⟨g, hg, hin⟩ := ha.includedGroups (mt h.includedGroups.1.1 hne)
    exact ⟨g, hg, (h.includedGroups.2 g (hknown g hg)).1 hin⟩
  · obtain ⟨g, hg, hout⟩ := ha.excludedGroups (mt h.excludedGroups.1.1 hne)
    exact ⟨g, hg, mt (h.excludedGroups.2 g (hknown g hg)).2 hout⟩
  · exact (h.includedChecks.2 c hc).1 (ha.includedChecks (mt h.includedChecks.1.1 hne))
  · have hin' : c.name ∈ q.excludedChecks := (h.excludedChecks c hc).2 hin
    exact ha.excludedChecks (List.ne_nil_of_mem hin') hin'

theorem Agree.symm (h : Agree r q q') : Agree r q' q where
  includedGroups := ⟨h.includedGroups.1.symm, fun g hg => (h.includedGroups.2 g hg).symm⟩
  excludedGroups := ⟨h.excludedGroups.1.symm, fun g hg => (h.excludedGroups.2 g hg).symm⟩
  includedChecks := ⟨h.includedChecks.1.symm, fun c hc => (h.includedChecks.2 c hc).symm⟩
  excludedChecks := fun c hc => (h.excludedChecks c hc).symm

theorem Agree.mem_resolve_iff (h : Agree r q q') (hr : r.Sound) (hs : q.selection = .ok s)
    (hs' : q'.selection = .ok s') : c ∈ s'.resolve r ↔ c ∈ s.resolve r := by
  rw [Conditions.mem_resolve_iff hs hr, Conditions.mem_resolve_iff hs' hr]
  exact and_congr_right fun hc => ⟨h.symm.admits hr hc, h.admits hr hc⟩

/-- A list of unknown groups to take checks from yields none. -/
theorem resolve_eq_nil_of_unknown_groups (h : q.selection = .ok s) (hr : r.Sound)
    (hne : q.includedGroups ≠ []) (hun : ∀ g ∈ q.includedGroups, g ∉ r.groupNames) :
    s.resolve r = [] := by
  rw [List.eq_nil_iff_forall_not_mem]
  intro c hc
  obtain ⟨hmem, ha⟩ := (mem_resolve_iff h hr).1 hc
  obtain ⟨g, hg, hin⟩ := ha.includedGroups hne
  exact hun g hin ((hr.occupied g).2 ⟨c, hmem, hg⟩)

theorem resolve_eq_nil_of_unknown_checks (h : q.selection = .ok s) (hr : r.Sound)
    (hne : q.includedChecks ≠ []) (hun : ∀ n ∈ q.includedChecks, ∀ c ∈ r.checks, c.name ≠ n) :
    s.resolve r = [] := by
  rw [List.eq_nil_iff_forall_not_mem]
  intro c hc
  obtain ⟨hmem, ha⟩ := (mem_resolve_iff h hr).1 hc
  exact hun c.name (ha.includedChecks hne) c hmem rfl

/-- What is selected by `q` from the registry `r`, which was offered the checks `cs`. -/
structure Selects (cs : List Check) (r : Registry) (q : Conditions) (s : Selection) : Prop where
  distinct : ((s.resolve r).map (·.name)).Nodup
  mem_iff : ∀ c, c ∈ s.resolve r ↔ c ∈ Registry.empty.taken cs ∧ q.Admits c
  /-- A check without groups is only selected if groups do not matter. -/
  ungrouped : ∀ c ∈ s.resolve r, c.groups = [] → q.includedGroups = [] ∧ q.excludedGroups = []
  unknown : ∀ q' s', q'.selection = .ok s' → q.Agree r q' → ∀ c, c ∈ s'.resolve r ↔ c ∈ s.resolve r
  unknownGroups : q.includedGroups ≠ [] → (∀ g ∈ q.includedGroups, g ∉ r.groupNames) →
    s.resolve r = []
  unknownChecks : q.includedChecks ≠ [] → (∀ n ∈ q.includedChecks, ∀ c ∈ r.checks, c.name ≠ n) →
    s.resolve r = []

/-- **The selected checks are those that the lists admit**, none of them twice, from any
registry that calls of `register` can lead to. -/
theorem resolve_exact (cs : List Check) (h : q.selection = .ok s) :
    q.Selects cs (Registry.empty.offerAll cs) s := by
  have hr : (Registry.empty.offerAll cs).Sound := Registry.sound_offerAll cs
  refine ⟨s.nodup_resolve hr, fun c => ?_, fun c hc hnone => ?_, ?_,
    resolve_eq_nil_of_unknown_groups h hr, resolve_eq_nil_of_unknown_checks h hr⟩
  · rw [mem_resolve_iff h hr, Registry.checks_empty_offerAll]
  · obtain ⟨-, ha⟩ := (mem_resolve_iff h hr).1 hc
    refine ⟨Classical.byContradiction fun hne => ?_, Classical.byContradiction fun hne => ?_⟩
    · obtain ⟨g, hg, -⟩ := ha.includedGroups hne
      simp [hnone] at hg
    · obtain ⟨g, hg, -⟩ := ha.excludedGroups hne
      simp [hnone] at hg
  · intro q' s' h' hagree c
    exact hagree.mem_resolve_iff hr h h'

/-! ## A check of two groups, and one of none -/

def grouped (name : String) (groups : List String) : Check where
  name := name
  groups := groups
  run _ := .reported []

/-- Calls of which two are refused. -/
def calls : List Check :=
  [grouped "hostpath" ["basic", "security"], grouped "" ["basic"], grouped "privileged" ["security"],
   grouped "loose" [], grouped "hostpath" ["nodes"], grouped "bare-pods" ["basic", "basic"]]

/-- Some group besides `security`, and two names that nothing goes by. -/
def outsideSecurity : Conditions where
  excludedGroups := ["security", "network"]
  excludedChecks := ["latest"]

def outsideSecuritySelection : Selection where
  groups := { excluded := ["security", "network"] }
  checks := { excluded := ["latest"] }

theorem resolve_exact_calls :
    outsideSecurity.selection = .ok outsideSecuritySelection ∧
      outsideSecurity.Selects calls (Registry.empty.offerAll calls) outsideSecuritySelection ∧
      (outsideSecuritySelection.resolve (Registry.empty.offerAll calls)).map (·.name) =
        ["hostpath", "bare-pods"] :=
  ⟨rfl, resolve_exact calls rfl, by decide⟩

end Conditions

end ClusterAudit
