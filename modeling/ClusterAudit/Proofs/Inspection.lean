/-
What an inspection comes to, whatever the order in which its workers finish.

If all checks go well, everything they hand in is there, once, and what the
screen lets in is reported (`inspect_conserves`). If one does not, the run fails
for the first such check in the list, whoever was done first
(`fails_as_a_whole`).
-/
import Mathlib.Data.List.Basic
import ClusterAudit.Proofs.PoolFacts
import ClusterAudit.Run

namespace ClusterAudit

namespace Screen

/-- What gets into a report: all but what its object suppresses and what is of
another severity than the one asked for. -/
def LetsIn (s : Screen) (d : Diagnostic) : Prop :=
  Suppression.suppresses d.subject d.check = false ∧ ∀ v ∈ s.severity, d.severity = v

instance (s : Screen) : DecidablePred s.LetsIn := fun _ => inferInstanceAs (Decidable (_ ∧ _))

theorem passes_eq (s : Screen) (d : Diagnostic) : s.passes d = decide (s.LetsIn d) := by
  rw [Bool.eq_iff_iff, decide_eq_true_iff]
  cases h : s.severity <;> simp [passes, LetsIn, h]

end Screen

namespace Check

variable {c : Check} {s : Snapshot}

/-- The check goes well. -/
def Reports (c : Check) (s : Snapshot) : Prop := ∃ ds, c.run s = .reported ds

theorem failure?_eq_none_iff : c.failure? s = none ↔ c.Reports s := by
  unfold failure? Reports
  cases c.run s <;> simp [Outcome.complaint?]

theorem batch_of_reported {ds : List Diagnostic} (h : c.run s = .reported ds) : c.batch s = ds := by
  rw [batch, h, Outcome.diagnostics]

/-- The two ways in which a check does not go well. -/
theorem failure?_of_not_reports (h : ¬ c.Reports s) :
    (∃ text, c.run s = .failed text ∧ c.failure? s = some (.checkFailed c.name text)) ∨
      ∃ thrown, c.run s = .crashed thrown ∧ c.failure? s =
        some (.checkFailed c.name ("panic: " ++ thrown.getD "unknown panic payload")) := by
  cases hrun : c.run s with
  | reported ds => exact absurd ⟨ds, hrun⟩ h
  | failed text => exact .inl ⟨text, rfl, by simp [failure?, hrun, Outcome.complaint?]⟩
  | crashed thrown => exact .inr ⟨thrown, rfl, by simp [failure?, hrun, Outcome.complaint?]⟩

/-- A check that ends in the same way whatever it sees. -/
def scripted (name : String) (outcome : Outcome) : Check where
  name := name
  run _ := outcome

end Check

namespace Run

variable {t : Schedule} {s : Snapshot} {checks : List Check} {screen : Screen}

theorem inspect_eq_error {e : Failure} (h : checks.findSome? (·.failure? s) = some e) :
    inspect t s checks screen = .error e := by
  have hne : checks.isEmpty = false := by
    cases checks with
    | nil => simp at h
    | cons c checks => rfl
  simp [inspect, hne, Schedule.failure?_play, h]

theorem inspect_eq_ok (hne : checks ≠ []) (h : ∀ c ∈ checks, c.Reports s) :
    inspect t s checks screen =
      .ok (.screened screen ((t.finishing checks).flatMap (·.batch s))) := by
  have hnone : checks.findSome? (·.failure? s) = none :=
    List.findSome?_eq_none_iff.2 fun c hc => Check.failure?_eq_none_iff.2 (h c hc)
  simp [inspect, hne, Schedule.failure?_play, Schedule.collected_play, hnone]

/-! ## Nothing lost, nothing twice -/

/-- How a report relates to what the checks handed in: `collected` is made of
their batches, in some order, and the report is what the screen lets in of it. So
it holds each diagnostic as often as it was handed in, and those of one check
stand together and in their order. -/
structure Conserves (screen : Screen) (checks : List Check) (reports : Check → List Diagnostic)
    (collected : List Diagnostic) (r : Report) : Prop where
  batches : ∃ order : List Check, order.Perm checks ∧ collected = order.flatMap reports
  reported : r.diagnostics = collected.filter fun d => decide (screen.LetsIn d)
  count : ∀ d, r.diagnostics.count d =
    if screen.LetsIn d then (checks.flatMap reports).count d else 0
  together : ∀ c ∈ checks,
    (reports c).filter (fun d => decide (screen.LetsIn d)) <:+: r.diagnostics

theorem count_filter_eq (p : Diagnostic → Bool) (ds : List Diagnostic) (d : Diagnostic) :
    (ds.filter p).count d = if p d then ds.count d else 0 := by
  by_cases h : p d = true
  · rw [List.count_filter h, if_pos h]
  · rw [if_neg h, List.count_eq_zero]
    exact fun hm => h (List.mem_filter.1 hm).2

theorem filter_infix_filter_flatMap (p : Diagnostic → Bool) {order : List Check}
    (reports : Check → List Diagnostic) {c : Check} (hc : c ∈ order) :
    (reports c).filter p <:+: (order.flatMap reports).filter p := by
  obtain ⟨before, after, rfl⟩ := List.append_of_mem hc
  refine ⟨(before.flatMap reports).filter p, (after.flatMap reports).filter p, ?_⟩
  simp [List.filter_append, List.append_assoc]

/-- **No loss and no duplication**, in whatever order the workers finish. -/
theorem inspect_conserves {reports : Check → List Diagnostic} (hne : checks ≠ [])
    (h : ∀ c ∈ checks, c.run s = .reported (reports c)) :
    ∃ r, inspect t s checks screen = .ok r ∧
      Conserves screen checks reports (t.play s checks).collected r := by
  have hperm : (t.finishing checks).Perm checks := t.finishing_perm checks
  have hbatch : (t.finishing checks).flatMap (·.batch s) = (t.finishing checks).flatMap reports :=
    List.flatMap_congr fun c hc => Check.batch_of_reported (h c (hperm.mem_iff.1 hc))
  have hpasses : screen.passes = fun d => decide (screen.LetsIn d) := funext screen.passes_eq
  have hok : inspect t s checks screen = .ok (.screened screen ((t.finishing checks).flatMap (·.batch s))) :=
    inspect_eq_ok hne fun c hc => ⟨_, h c hc⟩
  rw [hbatch, Report.screened, hpasses] at hok
  rw [Schedule.collected_play, hbatch]
  refine ⟨_, hok, ⟨_, hperm, rfl⟩, rfl, fun d => ?_, fun c hc => ?_⟩
  · rw [count_filter_eq, (hperm.flatMap_right reports).count_eq]
    simp
  · exact filter_infix_filter_flatMap _ reports (hperm.mem_iff.2 hc)

/-- One diagnostic twice, and between them one about a pod that does not want it from the
check `a`. -/
def repeated (check : String) : List Diagnostic :=
  let loud : Diagnostic := ⟨check, .warning, "seen", .pod, { name := "loud" }, []⟩
  let quiet : Subject := { name := "quiet", annotations := .ofList [(Suppression.key, "a, z")] }
  [loud, { loud with subject := quiet }, loud]

def repeaters : List Check := ["a", "b"].map fun name => .scripted name (.reported (repeated name))

theorem inspect_conserves_repeaters :
    repeaters ≠ [] ∧ (∀ c ∈ repeaters, c.run {} = .reported (repeated c.name)) ∧
      ∃ r, inspect .inReverse {} repeaters { severity := some .warning } = .ok r ∧
        Conserves { severity := some .warning } repeaters (repeated ·.name)
          (Schedule.inReverse.play {} repeaters).collected r ∧
        (r.diagnostics.map fun d => (d.check, d.subject.name)) =
          [("b", "loud"), ("b", "quiet"), ("b", "loud"), ("a", "loud"), ("a", "loud")] := by
  have hne : repeaters ≠ [] := by simp [repeaters]
  have hrun : ∀ c ∈ repeaters, c.run {} = .reported (repeated c.name) := by
    simp [repeaters, Check.scripted]
  have hconserves : ∃ r, inspect .inReverse {} repeaters { severity := some .warning } = .ok r ∧
      Conserves { severity := some .warning } repeaters (repeated ·.name)
        (Schedule.inReverse.play {} repeaters).collected r := inspect_conserves hne hrun
  obtain ⟨r, hr, hconserves⟩ := hconserves
  refine ⟨hne, hrun, r, hr, hconserves, ?_⟩
  rw [hconserves.reported]
  decide

/-! ## The first failure counts -/

/-- The first check that does not go well, and what is then reported. -/
theorem exists_first_failing (t : Schedule) (screen : Screen) (h : ∃ c ∈ checks, ¬ c.Reports s) :
    ∃ before c after e, checks = before ++ c :: after ∧ (∀ b ∈ before, b.Reports s) ∧
      ¬ c.Reports s ∧ c.failure? s = some e ∧ inspect t s checks screen = .error e := by
  obtain ⟨c, hc, hfails⟩ := h
  cases hfirst : checks.findSome? (·.failure? s) with
  | none =>
    have hnone := List.findSome?_eq_none_iff.1 hfirst c hc
    exact absurd (Check.failure?_eq_none_iff.1 hnone) hfails
  | some e =>
    obtain ⟨before, c, after, rfl, he, hbefore⟩ := List.findSome?_eq_some_iff.1 hfirst
    refine ⟨before, c, after, e, rfl, fun b hb => ?_, ?_, he, inspect_eq_error hfirst⟩
    · exact Check.failure?_eq_none_iff.1 (hbefore b hb)
    · rw [← Check.failure?_eq_none_iff, he]
      simp

theorem inspect_fails_iff :
    (∃ e, inspect t s checks screen = .error e) ↔ checks = [] ∨ ∃ c ∈ checks, ¬ c.Reports s := by
  constructor
  · rintro ⟨e, he⟩
    by_cases hne : checks = []
    · exact .inl hne
    · refine .inr (Classical.byContradiction fun hall => ?_)
      have hok : ∀ c ∈ checks, c.Reports s := fun c hc =>
        Classical.byContradiction fun hfails => hall ⟨c, hc, hfails⟩
      rw [inspect_eq_ok hne hok] at he
      cases he
  · rintro (rfl | h)
    · exact ⟨.noChecksToRun, rfl⟩
    · obtain ⟨_, _, _, e, -, -, -, -, he⟩ := exists_first_failing t screen h
      exact ⟨e, he⟩

variable {m : Type → Type} [Monad m]

/-- `fetch` that writes down which scopes it is asked for. -/
def logged (fetch : Scope → m (Except Failure Snapshot)) (scope : Scope) :
    StateT (List Scope) m (Except Failure Snapshot) := do
  modify (· ++ [scope])
  fetch scope

/-- What a run makes of the answer to its fetch. -/
def outcome (t : Schedule) (registry : Registry) (selection : Selection) (screen : Screen)
    (scope : Scope) : Except Failure Snapshot → Except Failure Report
  | .error e => .error e
  | .ok s =>
    match selection.resolve registry with
    | [] => .error .noChecksToRun
    | checks => inspect t (s.narrow scope) checks screen

theorem perform_logged [LawfulMonad m] (t : Schedule) (fetch : Scope → m (Except Failure Snapshot))
    (registry : Registry) (selection : Selection) (screen : Screen) (scope : Scope)
    (log : List Scope) :
    (perform t (logged fetch) registry selection screen scope).run log = do
      let answer ← fetch scope
      return (outcome t registry selection screen scope answer, log ++ [scope]) := by
  simp only [perform, logged, StateT.run_bind, StateT.run_modify, StateT.run_monadLift, bind_assoc,
    pure_bind]
  refine bind_congr fun answer => ?_
  cases answer with
  | error e => simp [outcome]
  | ok s =>
    simp only [outcome, StateT.run_pure]
    cases selection.resolve registry <;> rfl

/-- **A run fails as a whole, and for one reason.** An inspection fails just if it
has no checks or one of them does not go well. Then the first of these in the
list counts, whoever finished first, and it is all that is told. A whole run asks
once for a snapshot, with its own scope; a failure to get one is told as it is,
and only then it matters whether any checks are selected. -/
theorem fails_as_a_whole :
    (∀ (t : Schedule) (s : Snapshot) (checks : List Check) (screen : Screen),
      ((∃ e, inspect t s checks screen = .error e) ↔ checks = [] ∨ ∃ c ∈ checks, ¬ c.Reports s) ∧
      (checks = [] → inspect t s checks screen = .error .noChecksToRun) ∧
      ((∃ c ∈ checks, ¬ c.Reports s) →
        ∃ before c after, checks = before ++ c :: after ∧ (∀ b ∈ before, b.Reports s) ∧
          ((∃ text, c.run s = .failed text ∧
              inspect t s checks screen = .error (.checkFailed c.name text)) ∨
            ∃ thrown, c.run s = .crashed thrown ∧ inspect t s checks screen =
              .error (.checkFailed c.name ("panic: " ++ thrown.getD "unknown panic payload"))))) ∧
    ∀ (m : Type → Type) [Monad m] [LawfulMonad m] (t : Schedule)
      (fetch : Scope → m (Except Failure Snapshot)) (registry : Registry) (selection : Selection)
      (screen : Screen) (scope : Scope) (log : List Scope),
      (perform t (logged fetch) registry selection screen scope).run log = do
        let answer ← fetch scope
        return (outcome t registry selection screen scope answer, log ++ [scope]) := by
  refine ⟨fun t s checks screen => ⟨inspect_fails_iff, fun h => by rw [h]; rfl, fun h => ?_⟩, ?_⟩
  · obtain ⟨before, c, after, e, hsplit, hbefore, hfails, he, hinspect⟩ :=
      exists_first_failing t screen h
    refine ⟨before, c, after, hsplit, hbefore, ?_⟩
    rcases Check.failure?_of_not_reports hfails with ⟨text, hrun, hc⟩ | ⟨thrown, hrun, hc⟩
    · rw [he] at hc
      cases hc
      exact .inl ⟨text, hrun, hinspect⟩
    · rw [he] at hc
      cases hc
      exact .inr ⟨thrown, hrun, hinspect⟩
  · intro m _ _ t fetch registry selection screen scope log
    exact perform_logged t fetch registry selection screen scope log

/-- Two checks that do not go well. In reverse, the second of them is through
first. -/
def troubled : List Check :=
  [.scripted "a" (.reported (repeated "a")), .scripted "b" (.crashed (some "boom")),
   .scripted "c" (.failed "bad input")]

theorem fails_as_a_whole_troubled :
    (∃ c ∈ troubled, ¬ c.Reports {}) ∧
    (∃ before c after, troubled = before ++ c :: after ∧ (∀ b ∈ before, b.Reports {}) ∧
      ((∃ text, c.run {} = .failed text ∧
          inspect .inReverse {} troubled {} = .error (.checkFailed c.name text)) ∨
        ∃ thrown, c.run {} = .crashed thrown ∧ inspect .inReverse {} troubled {} =
          .error (.checkFailed c.name ("panic: " ++ thrown.getD "unknown panic payload")))) ∧
    inspect .inReverse {} troubled {} = .error (.checkFailed "b" "panic: boom") ∧
    (perform .inReverse (logged fun _ => pure (f := Id) (.error (.fetch "unauthorized"))) .empty .all
      {} .all).run [] = (.error (.fetch "unauthorized"), [.all]) := by
  have hfails : ∃ c ∈ troubled, ¬ c.Reports {} :=
    ⟨.scripted "c" (.failed "bad input"), by simp [troubled], by simp [Check.Reports, Check.scripted]⟩
  exact ⟨hfails, (fails_as_a_whole.1 .inReverse {} troubled {}).2.2 hfails, rfl,
    fails_as_a_whole.2 Id .inReverse (fun _ => pure (.error (.fetch "unauthorized"))) .empty .all {}
      .all []⟩

end Run

end ClusterAudit
