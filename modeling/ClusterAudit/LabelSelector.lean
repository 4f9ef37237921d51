/-
Selecting objects by their labels. A label selector is a conjunction; an empty
one selects everything. The plain maps that services use as selectors are
conjunctions too, but an empty one selects nothing.
-/
import ClusterAudit.Json

namespace ClusterAudit

/-- How a requirement compares a label with its values. -/
inductive LabelOperator where
  | isIn
  | notIn
  | present
  | absent
  | unknown (name : String)
  deriving DecidableEq

namespace LabelOperator

def ofName (s : String) : LabelOperator :=
  if s = "In" then .isIn
  else if s = "NotIn" then .notIn
  else if s = "Exists" then .present
  else if s = "DoesNotExist" then .absent
  else .unknown s

end LabelOperator

structure LabelRequirement where
  key : String
  operator : LabelOperator
  values : List String := []
  deriving DecidableEq

namespace LabelRequirement

/-- A missing label is outside of every list of values. No label meets a
requirement with an unknown operator. -/
def holds (r : LabelRequirement) (labels : StringMap) : Bool :=
  match r.operator, labels.get? r.key with
  | .isIn, some v => r.values.contains v
  | .isIn, none => false
  | .notIn, some v => !r.values.contains v
  | .notIn, none => true
  | .present, v => v.isSome
  | .absent, v => v.isNone
  | .unknown _, _ => false

def decode? (j : Json) : Option LabelRequirement := do
  let fields : Json.Fields ← j.object?
  return {
    key := ← fields.defaulted Json.string? "" "key"
    operator := .ofName (← fields.defaulted Json.string? "" "operator")
    values := ← fields.defaulted Json.strings? [] "values" }

end LabelRequirement

/-- Whether every pair of `wanted` is among `labels`. -/
def StringMap.allIn (wanted labels : StringMap) : Bool :=
  wanted.entries.all fun (k, v) => labels.get? k == some v

structure LabelSelector where
  matchLabels : StringMap := {}
  matchExpressions : List LabelRequirement := []
  deriving DecidableEq

namespace LabelSelector

def selects (s : LabelSelector) (labels : StringMap) : Bool :=
  s.matchLabels.allIn labels && s.matchExpressions.all (·.holds labels)

def decode? (j : Json) : Option LabelSelector := do
  let fields : Json.Fields ← j.object?
  return {
    matchLabels := ← fields.defaulted Json.stringMap? {} "matchLabels"
    matchExpressions :=
      ← fields.defaulted (Json.list? LabelRequirement.decode?) [] "matchExpressions" }

end LabelSelector

/-- Selection by a plain map. -/
def StringMap.selects (selector labels : StringMap) : Bool :=
  !selector.isEmpty && selector.allIn labels

end ClusterAudit
