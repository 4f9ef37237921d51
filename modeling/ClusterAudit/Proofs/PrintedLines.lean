/-
How many lines the diagnostics of a run take when they are printed as text.

A diagnostic takes one line, and one more for each newline that got into it
(`Report.length_lines`), so there is no telling from a line of the text whether a
diagnostic begins there. Where names have no newlines, only a rule that passes on the
errors of volume snapshots brings any in (`Checks.oneLine_or_passesOn`).
-/
import ClusterAudit.Proofs.MessageLines
import ClusterAudit.Proofs.Provenance
import ClusterAudit.Proofs.Timing

namespace ClusterAudit

open Text (OneLine HasLines pieces oneLine_append_iff)

namespace Diagnostic

variable {d : Diagnostic}

theorem oneLine_name_severity (v : Severity) : OneLine v.name := by cases v <;> decide

theorem oneLine_name_kind (k : Kind) : OneLine k.name := by cases k <;> decide

theorem oneLine_line_iff (hname : OneLine d.subject.name) (hns : ∀ ns ∈ d.subject.ns, OneLine ns) :
    OneLine d.line ↔ OneLine d.message := by
  have hlocation : OneLine d.location := by
    refine oneLine_append_iff.2 ⟨oneLine_between ?_ (oneLine_name_kind _) (by decide), hname⟩
    split
    · next ns h => exact oneLine_append_iff.2 ⟨hns ns h, by decide⟩
    · decide
  have hopening : OneLine ("[" ++ d.severity.name ++ "] ") :=
    oneLine_between (by decide) (oneLine_name_severity _) (by decide)
  simp only [line, oneLine_append_iff (b := d.message)]
  exact and_iff_right (oneLine_between hopening hlocation (by decide))

/-- `d` passes on the error of the volume snapshot `v`, newlines and all. -/
def PassesOn (d : Diagnostic) (v : VolumeSnapshot) : Prop :=
  ∃ text ∈ Checks.errorText v, ¬ OneLine text ∧
    d = .about "volume-snapshot-validity" .error .volumeSnapshot v.metadata
      ("Volume snapshot is in error state: " ++ text)

theorem PassesOn.not_oneLine {v : VolumeSnapshot} (h : d.PassesOn v) : ¬ OneLine d.line := by
  obtain ⟨text, -, htext, rfl⟩ := h
  simp only [line, about, oneLine_append_iff]
  exact fun hline => htext hline.2.2

end Diagnostic

namespace Checks

variable {s : Snapshot} {d : Diagnostic}

/-- What the rules report fits into one line each, but for what they pass on. -/
theorem oneLine_or_passesOn (hs : s.NamesFit) {r : Rule} (hr : r ∈ rules) (hd : d ∈ r.diagnostics s) :
    OneLine d.line ∨ ∃ v ∈ s.volumeSnapshots, d.PassesOn v := by
  -- The place of an object is made of its names, so only the message can break the line.
  obtain ⟨ps, hps⟩ := objectwise_of_mem r hr
  have hline : OneLine d.line ↔ OneLine d.message := by
    obtain ⟨p, -, o, ho, message, -, rfl⟩ := hps.mem_diagnostics.1 hd
    obtain ⟨hname, hns⟩ := hs.objects p.kind o ho
    exact Diagnostic.oneLine_line_iff hname hns
  rw [hline]
  obtain ⟨f, hf, rfl⟩ := List.mem_map.1 hd
  by_cases hname : r.name = "volume-snapshot-validity"
  · have hmem : volumeSnapshotValidity ∈ rules := by simp [rules]
    obtain rfl : r = volumeSnapshotValidity := List.inj_on_of_nodup_map nodup_name_rules hr hmem hname
    rcases mem_findings_volumeSnapshotValidity hf with h | ⟨v, hv, text, htext, rfl⟩
    · exact .inl h
    · by_cases hfits : OneLine text
      · exact .inl (oneLine_append_iff.2 ⟨by decide, hfits⟩)
      · exact .inr ⟨v, hv, text, htext, hfits, rfl⟩
  · exact .inl (fits_of_mem r hr hname s hs f hf)

end Checks

/-- What a run with some of this program's checks reports comes from one of its rules. -/
theorem Run.exists_rule_of_inspect {t : Schedule} {s : Snapshot} {selection : Selection} {screen : Screen}
    {r : Report} {d : Diagnostic}
    (h : inspect t s (selection.resolve Checks.registry) screen = .ok r) (hd : d ∈ r.diagnostics) :
    ∃ rule ∈ Checks.rules, d ∈ rule.diagnostics s := by
  by_cases hne : selection.resolve Checks.registry = []
  · rw [hne] at h
    cases h
  · rw [inspect_eq_ok hne (Checks.reports_resolve selection s)] at h
    cases h
    obtain ⟨c, hc, hd⟩ := List.mem_flatMap.1 (List.mem_filter.1 hd).1
    have hselected : c ∈ selection.resolve Checks.registry := (t.finishing_perm _).mem_iff.1 hc
    obtain ⟨rule, hrule, rfl⟩ := Checks.exists_rule_of_mem_resolve hselected
    exact ⟨rule, hrule, by rwa [Check.batch_of_reported (rule.run_check s)] at hd⟩

/-! ## Runs -/

namespace Report

/-- The text has a line for each of the diagnostics, in their order, and one more. -/
def OneLineEach (text : String) (ds : List Diagnostic) : Prop :=
  ∃ last, HasLines text (ds.map Diagnostic.line ++ [last])

theorem OneLineEach.oneLine {text : String} {ds : List Diagnostic} (h : OneLineEach text ds) :
    ∀ d ∈ ds, OneLine d.line := by
  obtain ⟨last, h⟩ := h
  exact fun d hd => h.oneLine _ (List.mem_append_left _ (List.mem_map_of_mem hd))

theorem oneLineEach_text_iff {r : Report} :
    OneLineEach r.text r.diagnostics ↔ ∀ d ∈ r.diagnostics, OneLine d.line :=
  ⟨OneLineEach.oneLine, fun h => ⟨r.summary, hasLines_text_of_oneLine h⟩⟩

/-- A line for each diagnostic, one for the summary, and one more for each newline. -/
theorem length_lines {r : Report} {ls : List String} (h : HasLines r.text ls) :
    ls.length =
      r.diagnostics.length + 1 + (r.diagnostics.flatMap fun d => d.line.toList).count '\n' := by
  rw [h.unique r.hasLines_text, List.length_append, Text.length_flatMap_pieces, List.length_singleton]
  omega

/-- How the diagnostics `ds` of a snapshot stand in a text. -/
structure LaidOut (s : Snapshot) (ds : List Diagnostic) (text : String) : Prop where
  lines : HasLines text (ds.flatMap (pieces '\n' ·.line) ++ [Report.summary ⟨ds⟩])
  length : ∀ ls, HasLines text ls →
    ls.length = ds.length + 1 + (ds.flatMap fun d => d.line.toList).count '\n'
  oneLineEach_iff : OneLineEach text ds ↔ ∀ d ∈ ds, OneLine d.line
  broken_iff : s.NamesFit → ∀ d ∈ ds, ¬ OneLine d.line ↔ ∃ v ∈ s.volumeSnapshots, d.PassesOn v

theorem laidOut_text {r : Report} {s : Snapshot} {sc : Scope}
    (h : ∀ d ∈ r.diagnostics, ∃ rule ∈ Checks.rules, d ∈ rule.diagnostics (s.narrow sc)) :
    LaidOut s r.diagnostics r.text where
  lines := r.hasLines_text
  length := fun _ => length_lines
  oneLineEach_iff := oneLineEach_text_iff
  broken_iff := fun hs d hd => by
    obtain ⟨rule, hrule, hmem⟩ := h d hd
    constructor
    · intro hbroken
      rcases Checks.oneLine_or_passesOn (hs.narrow sc) hrule hmem with hline | ⟨v, hv, hpasses⟩
      · exact absurd hline hbroken
      · exact ⟨v, s.items_narrow_subset sc .volumeSnapshot hv, hpasses⟩
    · rintro ⟨v, -, hpasses⟩
      exact hpasses.not_oneLine

end Report

namespace CommandLine.RunRequest

open Report (OneLineEach LaidOut)

/-- What a run with this program's checks leaves behind that gets the snapshot `s`. -/
def resultOn (q : RunRequest) (t : Schedule) (s : Snapshot) : Result :=
  Id.run (q.execute t (fun _ => pure (.ok s)) Checks.registry)

/-- What such a run reports, if it succeeds. -/
def Reports (q : RunRequest) (t : Schedule) (s : Snapshot) (r : Report) : Prop :=
  ∃ selection scope, q.filters = .ok (selection, scope) ∧
    Run.inspect t (s.narrow scope) (selection.resolve Checks.registry) { severity := q.level } = .ok r

theorem resultOn_of_reports {q : RunRequest} {t : Schedule} {s : Snapshot} {r : Report}
    (h : q.Reports t s r) : q.resultOn t s = { text := q.render r, ending := .ok r.hasErrors } := by
  obtain ⟨selection, scope, hfilters, hinspect⟩ := h
  rw [resultOn, execute_eq_announce, hfilters]
  simp only [Run.perform, pure_bind, hinspect]
  rfl

theorem exists_reports {q : RunRequest} {t : Schedule} {s : Snapshot} {found : Bool}
    (h : (q.resultOn t s).ending = .ok found) : ∃ r, q.Reports t s r := by
  rw [resultOn, execute_eq_announce] at h
  cases hfilters : q.filters with
  | error complaint => simp [hfilters] at h
  | ok chosen =>
    obtain ⟨selection, scope⟩ := chosen
    cases hinspect : Run.inspect t (s.narrow scope) (selection.resolve Checks.registry)
        { severity := q.level } with
    | error e => simp [hfilters, Run.perform, hinspect, announce] at h
    | ok r => exact ⟨r, selection, scope, hfilters, hinspect⟩

/-- **Where the lines of a report break.** A run that succeeds prints its diagnostics as
the lines they consist of, and a summary. Each has a line of its own just if none has a
newline in it. If the names in the snapshot have none, then only errors of volume
snapshots bring newlines in. -/
theorem printed_lines {q : RunRequest} (hq : q.format = .text) (t : Schedule) (s : Snapshot)
    {found : Bool} (h : (q.resultOn t s).ending = .ok found) :
    ∃ r, q.Reports t s r ∧ LaidOut s r.sorted.diagnostics (q.resultOn t s).text := by
  obtain ⟨r, hr⟩ := exists_reports h
  refine ⟨r, hr, ?_⟩
  have htext : (q.resultOn t s).text = r.sorted.text := by rw [resultOn_of_reports hr, render, hq]
  obtain ⟨selection, scope, -, hinspect⟩ := hr
  rw [htext]
  exact Report.laidOut_text fun d hd =>
    Run.exists_rule_of_inspect hinspect (r.perm_sorted.mem_iff.1 hd)

/-- A volume snapshot that could not be taken, as the driver put it. -/
def stalled : Snapshot where
  volumeSnapshots := [{
    metadata := { name? := some "nightly", ns := some "prod" }
    source := { claim := some "data" }
    status := some { error := some { message := some "rpc error:\nno space left" } } }]

def stalledRequest : RunRequest where
  checks := ["volume-snapshot-validity"]

def stalledReport : Report where
  diagnostics := Checks.volumeSnapshotValidity.diagnostics stalled

theorem reports_stalled : stalledRequest.Reports .inTurn stalled stalledReport :=
  ⟨_, _, rfl, rfl⟩

theorem namesFit_stalled : stalled.NamesFit where
  objects := fun k o ho => by
    cases k <;> simp [Snapshot.items, stalled] at ho
    subst ho
    exact ⟨by decide, by decide⟩
  containers := fun p hp => by simp [stalled] at hp
  volumes := fun p hp => by simp [stalled] at hp
  storageClasses := fun c hc => by simp [stalled] at hc
  validatingWebhooks := fun c hc => by simp [stalled] at hc
  mutatingWebhooks := fun c hc => by simp [stalled] at hc

theorem printed_lines_stalled :
    stalledRequest.format = .text ∧ (stalledRequest.resultOn .inTurn stalled).ending = .ok true ∧
      stalled.NamesFit ∧ ∃ r, stalledRequest.Reports .inTurn stalled r ∧
        LaidOut stalled r.sorted.diagnostics (stalledRequest.resultOn .inTurn stalled).text := by
  have hending : (stalledRequest.resultOn .inTurn stalled).ending = .ok true := by
    rw [resultOn_of_reports reports_stalled]
    rfl
  exact ⟨rfl, hending, namesFit_stalled, printed_lines rfl .inTurn stalled hending⟩

/-- So not every run gives each diagnostic a line of its own. -/
theorem error_takes_two_lines :
    ¬ ∀ (q : RunRequest) (t : Schedule) (s : Snapshot) (r : Report),
      q.format = .text → (∃ found, (q.resultOn t s).ending = .ok found) → q.Reports t s r →
        OneLineEach (q.resultOn t s).text r.sorted.diagnostics := by
  intro hclaim
  have heach := hclaim stalledRequest .inTurn stalled stalledReport rfl
    ⟨_, by rw [resultOn_of_reports reports_stalled]⟩ reports_stalled
  have hfits : ∀ d ∈ stalledReport.diagnostics, OneLine d.line := fun d hd =>
    heach.oneLine d (stalledReport.perm_sorted.mem_iff.2 hd)
  exact absurd hfits (by decide)

end CommandLine.RunRequest

end ClusterAudit
