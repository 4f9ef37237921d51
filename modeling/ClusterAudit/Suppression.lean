/-
Switching checks off for a single object: an annotation lists the names of
checks whose diagnostics about the object are dropped.
-/
import ClusterAudit.Diagnostic
import ClusterAudit.Text.Blank
import ClusterAudit.Text.Cut

namespace ClusterAudit.Suppression

/-- The key of the annotation. -/
def key : String := "clusterlint.digitalocean.com/disabled-checks"

/-- The names that the annotation's value lists: the pieces between its commas,
without the blanks around them. -/
def names (value : String) : List String :=
  (Text.pieces ',' value).map fun s => String.ofList (Text.trim s.toList)

/-- Whether diagnostics of `check` about `s` are to be dropped. -/
def suppresses (s : Subject) (check : String) : Bool :=
  match s.annotations.get? key with
  | some value => (names value).contains check
  | none => false

end ClusterAudit.Suppression
