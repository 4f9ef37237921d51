/-
A run prints a whole report or nothing, and it ends as what it printed says.

A request that contradicts itself is turned down before anything is fetched, on
account of its groups first, then of its checks, then of its namespaces
(`contradiction?`). Any other request is a run with the filters that its flags spell
out (`Spells`), and what is printed of it depends on nothing but what the run came to.

What that is, is told by the text alone (`Shows`): by the lines that it has, or by what
reading it as JSON gives back. Either way it is the diagnostics of the run in the order of
a report (`Sorts`).
-/
import ClusterAudit.CommandLine.Session
import ClusterAudit.Proofs.DiagnosticJson
import ClusterAudit.Proofs.ReportLines
import ClusterAudit.Proofs.SelectedChecks
import ClusterAudit.Proofs.Timing

namespace ClusterAudit

theorem Choice.exists_ofLists? {included excluded : List String}
    (h : ¬ (included ≠ [] ∧ excluded ≠ [])) : ∃ c, Choice.ofLists? included excluded = some c :=
  Option.ne_none_iff_exists'.1 (mt Choice.ofLists?_eq_none_iff.1 h)

namespace CommandLine.RunRequest

open StableSort (ofKey ofKey_mergeSort pairwise_mergeSort)
open Text (HasLines pieces)

variable {q : RunRequest} {complaint : Complaint}

/-! ## The flags -/

/-- What is said of a request that names things to take and things to leave out at
the same time. -/
def contradiction? (q : RunRequest) : Option Complaint :=
  if q.groups ≠ [] ∧ q.ignoredGroups ≠ [] then some ⟨"invalid check selection", .conflictingGroups⟩
  else if q.checks ≠ [] ∧ q.ignoredChecks ≠ [] then
    some ⟨"invalid check selection", .conflictingChecks⟩
  else if q.namespaces ≠ [] ∧ q.ignoredNamespaces ≠ [] then
    some ⟨"invalid namespace selection", .conflictingNamespaces⟩
  else none

/-- `selection` and `scope` are what the flags of `q` say. -/
structure Spells (q : RunRequest) (selection : Selection) (scope : Scope) : Prop where
  groups : selection.groups.included = q.groups ∧ selection.groups.excluded = q.ignoredGroups
  checks : selection.checks.included = q.checks ∧ selection.checks.excluded = q.ignoredChecks
  namespaces : scope.included = q.namespaces ∧ scope.excluded = q.ignoredNamespaces

theorem filters_of_contradiction (h : q.contradiction? = some complaint) :
    q.filters = .error complaint := by
  unfold contradiction? at h
  split at h
  · next hgroups =>
    cases h
    simp only [filters, Selection.ofLists, Choice.ofLists?_eq_none_iff.2 hgroups]
    rfl
  -- What comes later is only looked at if what comes first makes a choice.
  · next hgroups =>
    obtain ⟨groups, hgroups⟩ := Choice.exists_ofLists? hgroups
    split at h
    · next hchecks =>
      cases h
      simp only [filters, Selection.ofLists, hgroups, Choice.ofLists?_eq_none_iff.2 hchecks]
      rfl
    · next hchecks =>
      obtain ⟨checks, hchecks⟩ := Choice.exists_ofLists? hchecks
      split at h
      · next hnamespaces =>
        cases h
        simp only [filters, Selection.ofLists, Scope.ofLists, hgroups, hchecks,
          Choice.ofLists?_eq_none_iff.2 hnamespaces]
        rfl
      · cases h

theorem filters_of_consistent (h : q.contradiction? = none) :
    ∃ selection scope, q.Spells selection scope ∧ q.filters = .ok (selection, scope) := by
  unfold contradiction? at h
  split at h
  · cases h
  · next hgroups =>
    split at h
    · cases h
    · next hchecks =>
      split at h
      · cases h
      · next hnamespaces =>
        obtain ⟨groups, hgroups⟩ := Choice.exists_ofLists? hgroups
        obtain ⟨checks, hchecks⟩ := Choice.exists_ofLists? hchecks
        obtain ⟨namespaces, hnamespaces⟩ := Choice.exists_ofLists? hnamespaces
        refine ⟨⟨groups, checks⟩, ⟨namespaces⟩, ⟨?_, ?_, ?_⟩, ?_⟩
        · exact Choice.ofLists?_eq_some_iff.1 hgroups
        · exact Choice.ofLists?_eq_some_iff.1 hchecks
        · exact Choice.ofLists?_eq_some_iff.1 hnamespaces
        · simp only [filters, Selection.ofLists, Scope.ofLists, hgroups, hchecks, hnamespaces]
          rfl

/-! ## What is printed -/

/-- What stands for a diagnostic among the lines. -/
def lineOf (d : Diagnostic) : String :=
  "[" ++ d.severity.name ++ "] " ++
    (match d.subject.ns with
      | some ns => ns ++ "/"
      | none => "") ++
    d.kind.name ++ "/" ++ d.subject.name ++ ": " ++ d.message

/-- How many of `ds` are of the severity `v`. -/
def tally (ds : List Diagnostic) (v : Severity) : Nat := (ds.filter fun d => d.severity = v).length

/-- `ps` are the diagnostics `ds` by namespace, name of the object and check, those without a
namespace first. Those that agree in all three keep their order. -/
structure Sorts (ds ps : List Diagnostic) : Prop where
  perm : ps.Perm ds
  ordered : ps.Pairwise fun a b =>
    [a.subject.ns.toList, [a.subject.name], [a.check]] ≤ [b.subject.ns.toList, [b.subject.name], [b.check]]
  stable : ∀ ns name check,
    ps.filter (fun d => d.subject.ns = ns ∧ d.subject.name = name ∧ d.check = check) =
      ds.filter fun d => d.subject.ns = ns ∧ d.subject.name = name ∧ d.check = check

/-- `text` is all of the report of `ps`, and `found` tells whether there are errors in it. -/
structure Shows (q : RunRequest) (ps : List Diagnostic) (text : String) (found : Bool) : Prop where
  text_eq : text = match q.format with
    | .text => Report.text ⟨ps⟩
    | .json => Report.document ⟨ps⟩
  /-- A line for each diagnostic, broken where it has newlines, and a last one that counts them. -/
  lines : q.format = .text → HasLines text (ps.flatMap (fun d => pieces '\n' (lineOf d)) ++
    [toString (tally ps .error) ++ " errors, " ++ toString (tally ps .warning) ++ " warnings, " ++
      toString (tally ps .suggestion) ++ " suggestions"])
  /-- An object with nothing but a list, from which the diagnostics can be read. -/
  json : q.format = .json →
    Json.parse? text = some (.obj [("diagnostics", .arr (ps.map Diagnostic.encode))]) ∧
      (ps.map Diagnostic.encode).mapM Diagnostic.decode? = some ps
  found_iff : found = true ↔ ∃ d ∈ ps, d.severity = .error
  tally_add : tally ps .error + tally ps .warning + tally ps .suggestion = ps.length
  found_iff_tally : found = true ↔ 0 < tally ps .error

/-- `out` is a proper ending of a run that came to `x`. -/
structure Settles (q : RunRequest) (x : Except Failure Report) (out : Result) : Prop where
  failed : ∀ complaint, out.ending = .error complaint →
    out.text = "" ∧ ∃ e, x = .error e ∧ complaint = ⟨"lint run failed", e⟩
  done : ∀ found, out.ending = .ok found →
    ∃ r ps, x = .ok r ∧ Sorts r.diagnostics ps ∧ q.Shows ps out.text found
  code_eq_zero_iff : (Ending.ofResult out).code = 0 ↔
    ∃ r, x = .ok r ∧ ∀ d ∈ r.diagnostics, d.severity ≠ .error

theorem line_eq_lineOf : Diagnostic.line = lineOf := by
  funext d
  cases hns : d.subject.ns with
  | none => simp only [Diagnostic.line, Diagnostic.location, lineOf, hns, String.append_assoc]
  | some ns => simp only [Diagnostic.line, Diagnostic.location, lineOf, hns, String.append_assoc]

theorem count_eq_tally (r : Report) (v : Severity) : r.count v = tally r.diagnostics v :=
  List.countP_eq_length_filter.trans <|
    congrArg List.length <| List.filter_congr fun _ _ => beq_eq_decide _ _

theorem sorts_sorted (r : Report) : Sorts r.diagnostics r.sorted.diagnostics where
  perm := r.perm_sorted
  ordered := by
    rw [Report.diagnostics_sorted]
    exact pairwise_mergeSort _
  stable := fun ns name check => by
    have hkey : ∀ d : Diagnostic, d.sortKey = [ns.toList, [name], [check]] ↔
        d.subject.ns = ns ∧ d.subject.name = name ∧ d.check = check := fun d => by
      cases hns : d.subject.ns <;> cases ns <;> simp [Diagnostic.sortKey, hns]
    have hstable : ofKey Diagnostic.sortKey [ns.toList, [name], [check]] r.sorted.diagnostics =
        ofKey Diagnostic.sortKey [ns.toList, [name], [check]] r.diagnostics := by
      rw [Report.diagnostics_sorted, ofKey_mergeSort]
    simpa only [ofKey, hkey] using hstable

theorem lines_text (r : Report) :
    HasLines r.text (r.diagnostics.flatMap (fun d => pieces '\n' (lineOf d)) ++
      [toString (tally r.diagnostics .error) ++ " errors, " ++
        toString (tally r.diagnostics .warning) ++ " warnings, " ++
        toString (tally r.diagnostics .suggestion) ++ " suggestions"]) := by
  rw [← line_eq_lineOf, ← count_eq_tally, ← count_eq_tally, ← count_eq_tally, ← Report.summary_eq]
  exact r.hasLines_text

theorem shows_render (q : RunRequest) (r : Report) :
    q.Shows r.sorted.diagnostics (q.render r) r.hasErrors where
  text_eq := rfl
  lines := fun h => by
    rw [render, h]
    exact lines_text r.sorted
  json := fun h => by
    rw [render, h]
    exact ⟨r.sorted.survivesJson.parsed,
      (Json.restores_list Diagnostic.restores r.sorted.diagnostics).eq⟩
  found_iff := by rw [← r.hasErrors_sorted, Report.hasErrors_iff]
  tally_add := by
    rw [← count_eq_tally, ← count_eq_tally, ← count_eq_tally]
    exact r.sorted.count_add
  found_iff_tally := by rw [← count_eq_tally, ← r.hasErrors_sorted, Report.hasErrors_iff_count]

theorem settles_announce (q : RunRequest) (x : Except Failure Report) :
    q.Settles x (q.announce x) := by
  cases x with
  | error e =>
    refine ⟨fun complaint h => ?_, fun found h => ?_, ?_⟩
    · cases h
      exact ⟨rfl, e, rfl, rfl⟩
    · cases h
    · simp [announce, Ending.ofResult]
  | ok r =>
    refine ⟨fun complaint h => ?_, fun found h => ?_, ?_⟩
    · cases h
    · cases h
      exact ⟨r, r.sorted.diagnostics, rfl, sorts_sorted r, q.shows_render r⟩
    · cases hfound : r.hasErrors <;> simp_all [announce, Ending.ofResult, Report.hasErrors]

/-! ## The whole -/

/-- **A run prints a whole report or nothing.** A request that contradicts itself ends
without a fetch. What any other request prints, and whether it succeeds, is settled by
what the run with its filters comes to: nothing is printed of a failure, and all of the
sorted report otherwise, whose errors the ending tells of as the last line does. -/
theorem prints_whole_or_nothing (q : RunRequest) :
    (∀ complaint, q.contradiction? = some complaint →
      ∀ (m : Type → Type) [Monad m] [LawfulMonad m] (t : Schedule)
        (fetch : Scope → m (Except Failure Snapshot)) (registry : Registry) (log : List Scope),
        (q.execute t (Run.logged fetch) registry).run log =
          pure ({ text := "", ending := .error complaint }, log)) ∧
    (q.contradiction? = none →
      ∃ selection scope, q.Spells selection scope ∧
        ∃ settle : Except Failure Report → Result, (∀ x, q.Settles x (settle x)) ∧
          ∀ (m : Type → Type) [Monad m] [LawfulMonad m] (t : Schedule)
            (fetch : Scope → m (Except Failure Snapshot)) (registry : Registry),
            q.execute t fetch registry =
              settle <$> Run.perform t fetch registry selection { severity := q.level } scope) := by
  refine ⟨fun complaint h m _ _ t fetch registry log => ?_, fun h => ?_⟩
  · rw [execute, filters_of_contradiction h]
    rfl
  · obtain ⟨selection, scope, hspells, hfilters⟩ := filters_of_consistent h
    refine ⟨selection, scope, hspells, q.announce, q.settles_announce, ?_⟩
    intro m _ _ t fetch registry
    rw [execute_eq_announce, hfilters]

/-- A request that contradicts itself twice. -/
def torn : RunRequest where
  groups := ["basic"]
  ignoredGroups := ["security"]
  namespaces := ["prod"]
  ignoredNamespaces := ["ops"]

/-- A request that is in order. -/
def gravest (format : Format) : RunRequest where
  checks := ["missing-storage-class"]
  level := some .error
  format := format

/-- Two claims for a storage class that is not there. -/
def unbound : Snapshot where
  persistentVolumeClaims := [
    { metadata := { name? := some "data", ns := some "prod" }, storageClass := some "gold" },
    { metadata := { name? := some "cache", ns := some "dev" }, storageClass := some "gold" }]

/-- What is said of one of them. -/
def unboundIn (ns name : String) : Diagnostic where
  check := "missing-storage-class"
  severity := .error
  message := "Storage class 'gold' does not exist"
  kind := .persistentVolumeClaim
  subject := { name, ns := some ns }

/-- They are found in the order in which they are listed. -/
theorem perform_unbound {format : Format} {selection : Selection} {scope : Scope}
    (h : (gravest format).Spells selection scope) :
    Run.perform (m := Id) .inTurn (fun _ => pure (.ok unbound)) Checks.registry selection
      { severity := some .error } scope = .ok ⟨[unboundIn "prod" "data", unboundIn "dev" "cache"]⟩ := by
  obtain ⟨⟨_, _, _⟩, _, _, _⟩ := selection
  obtain ⟨_, _, _⟩ := scope
  obtain ⟨⟨rfl, rfl⟩, ⟨rfl, rfl⟩, rfl, rfl⟩ := h
  rfl

/-- There is no other order for them in a report. -/
theorem eq_of_sorts_unbound {ps : List Diagnostic}
    (h : Sorts [unboundIn "prod" "data", unboundIn "dev" "cache"] ps) :
    ps = [unboundIn "dev" "cache", unboundIn "prod" "data"] := by
  have hperm : ps.Perm [unboundIn "dev" "cache", unboundIn "prod" "data"] := h.perm.trans (.swap _ _ _)
  have hkeys : ([unboundIn "dev" "cache", unboundIn "prod" "data"].map Diagnostic.sortKey).Nodup := by
    decide
  refine hperm.eq_of_pairwise (fun a b ha hb hab hba => ?_) h.ordered (by decide)
  exact List.inj_on_of_nodup_map hkeys (hperm.mem_iff.1 ha) hb (le_antisymm hab hba)

theorem prints_whole_or_nothing_torn :
    torn.contradiction? = some ⟨"invalid check selection", .conflictingGroups⟩ ∧
      (torn.execute (m := StateT (List Scope) Id) .inTurn (Run.logged fun _ => pure (.ok unbound))
          Checks.registry).run [] =
        ({ text := "", ending := .error ⟨"invalid check selection", .conflictingGroups⟩ }, []) ∧
      ∀ format, (gravest format).contradiction? = none ∧ ∃ out,
        (gravest format).execute (m := Id) .inTurn (fun _ => pure (.ok unbound)) Checks.registry = pure out ∧
          out.ending = .ok true ∧
          (gravest format).Shows [unboundIn "dev" "cache", unboundIn "prod" "data"] out.text true ∧
          (format = .text → out.text =
            "[error] dev/PersistentVolumeClaim/cache: Storage class 'gold' does not exist\n" ++
            "[error] prod/PersistentVolumeClaim/data: Storage class 'gold' does not exist\n" ++
            "2 errors, 0 warnings, 0 suggestions\n") := by
  have htorn : torn.contradiction? = some ⟨"invalid check selection", .conflictingGroups⟩ := by decide
  refine ⟨htorn, (prints_whole_or_nothing torn).1 _ htorn Id _ _ _ _, fun format => ?_⟩
  have hgravest : (gravest format).contradiction? = none := by cases format <;> decide
  obtain ⟨selection, scope, hspells, settle, hsettle, hexecute⟩ :=
    (prints_whole_or_nothing (gravest format)).2 hgravest
  have hending : (Id.run ((gravest format).execute (m := Id) .inTurn (fun _ => pure (.ok unbound))
      Checks.registry)).ending = .ok true := rfl
  rw [hexecute] at hending ⊢
  obtain ⟨r, ps, hr, hsorts, hshows⟩ := (hsettle _).done true hending
  rw [gravest, perform_unbound hspells] at hr
  obtain ⟨rfl⟩ := hr
  rw [eq_of_sorts_unbound hsorts] at hshows
  refine ⟨hgravest, _, rfl, hending, hshows, fun htext => ?_⟩
  rw [(hshows.lines htext).text_eq]
  decide +kernel

end CommandLine.RunRequest

end ClusterAudit
