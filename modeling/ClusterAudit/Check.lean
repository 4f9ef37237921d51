/-
Checks, which look at a snapshot and report what they find. A `Check` in
general may also fail or crash. A `Rule` never does, and it only says what is
wrong with which object: labelling the diagnostics is left to
`Rule.diagnostics`, so none of them can be mislabelled.
-/
import ClusterAudit.Diagnostic
import ClusterAudit.Snapshot
import ClusterAudit.Text.Quoted

namespace ClusterAudit

/-- How a check ends. -/
inductive Outcome where
  | reported (diagnostics : List Diagnostic)
  | failed (message : String)
  /-- The message is missing if what was thrown is not text. -/
  | crashed (message : Option String)

namespace Outcome

def diagnostics : Outcome → List Diagnostic
  | .reported ds => ds
  | _ => []

/-- What is said of a check that did not end well. -/
def complaint? : Outcome → Option String
  | .reported _ => none
  | .failed message => some message
  | .crashed message => some ("panic: " ++ message.getD "unknown panic payload")

end Outcome

structure Check where
  name : String
  groups : List String := []
  description : String := ""
  run : Snapshot → Outcome

namespace Check

/-- The name and the groups in one line. -/
def describe (c : Check) : String :=
  "Check \x7b name: " ++ Text.quoted c.name ++ ", groups: [" ++
    ", ".intercalate (c.groups.map Text.quoted) ++ "] \x7d"

end Check

/-- One fault of one object. -/
structure Finding where
  kind : Kind
  about : Metadata
  message : String

/-- Where each element comes to one thing or to nothing. -/
theorem flatMap_eq_map_filter {α β : Type} {l : List α} {f : α → List β} {test : α → Bool} {g : α → β}
    (h : ∀ a ∈ l, f a = if test a then [g a] else []) : l.flatMap f = (l.filter test).map g := by
  induction l with
  | nil => rfl
  | cons a l ih =>
    rw [List.flatMap_cons, h a List.mem_cons_self, ih fun b hb => h b (List.mem_cons_of_mem a hb),
      List.filter_cons]
    cases test a <;> rfl

namespace Snapshot

/-- The faults that `faults` finds in the objects of the kind `k`, object by
object. -/
def findings (s : Snapshot) (k : Kind) (faults : k.Item → List String) : List Finding :=
  (s.items k).flatMap fun o => (faults o).map fun message => ⟨k, k.metadata o, message⟩

theorem mem_findings {s : Snapshot} {k : Kind} {faults : k.Item → List String} {f : Finding} :
    f ∈ s.findings k faults ↔
      ∃ o ∈ s.items k, ∃ message ∈ faults o, f = ⟨k, k.metadata o, message⟩ := by
  simp [findings, eq_comm]

/-- Where there is one fault at most, the findings are about the objects at fault,
in their order. -/
theorem findings_ite (s : Snapshot) (k : Kind) (isFine : k.Item → Bool) (message : k.Item → String) :
    s.findings k (fun o => if isFine o then [] else [message o]) =
      ((s.items k).filter fun o => !isFine o).map fun o => ⟨k, k.metadata o, message o⟩ := by
  refine flatMap_eq_map_filter fun o _ => ?_
  by_cases h : isFine o = true
  · simp [h]
  · simp [h]

end Snapshot

/-- A check that never fails. All of its diagnostics have one severity, and they
are about objects of the kinds it lists. -/
structure Rule where
  name : String
  groups : List String
  description : String
  severity : Severity
  kinds : List Kind
  findings : Snapshot → List Finding

namespace Rule

def diagnostics (r : Rule) (s : Snapshot) : List Diagnostic :=
  (r.findings s).map fun f => .about r.name r.severity f.kind f.about f.message

def check (r : Rule) : Check where
  name := r.name
  groups := r.groups
  description := r.description
  run s := .reported (r.diagnostics s)

@[simp] theorem name_check (r : Rule) : r.check.name = r.name := rfl

@[simp] theorem groups_check (r : Rule) : r.check.groups = r.groups := rfl

@[simp] theorem run_check (r : Rule) (s : Snapshot) : r.check.run s = .reported (r.diagnostics s) := rfl

end Rule

end ClusterAudit
