/-
Reading values of other types out of JSON. Fields that a type does not know
are passed over. A field is `optional` if it may be missing or `null`,
`defaulted` if those two stand for a default, and `required` if neither will
do. Where a field may be repeated every one of its values has to be of the
type, and the last one counts.
-/
import ClusterAudit.Json.Value
import ClusterAudit.StringMap

namespace ClusterAudit.Json

abbrev Fields := List (String × Json)

def bool? : Json → Option Bool
  | .bool b => some b
  | _ => none

def string? : Json → Option String
  | .str s => some s
  | _ => none

def int? : Json → Option Int
  | .int n => some n
  | _ => none

/-- A whole number from `low` to `high`. -/
def intWithin? (low high : Int) (j : Json) : Option Int :=
  j.int?.filter fun n => low ≤ n && n ≤ high

def object? : Json → Option Fields
  | .obj fields => some fields
  | _ => none

def list? {α : Type} (f : Json → Option α) : Json → Option (List α)
  | .arr items => items.mapM f
  | _ => none

def strings? : Json → Option (List String) := list? string?

def stringMap? : Json → Option StringMap
  | .obj fields => (fields.mapM fun p : String × Json => (string? p.2).map (p.1, ·)).map StringMap.ofList
  | _ => none

/-- Whether none of the fields `names` is repeated. -/
def areSingle (names : List String) (fields : Fields) : Bool :=
  names.all fun name => (fieldValues fields name).length ≤ 1

/-- The fields of a record of this program's own, none of them repeated. It may
also be written as the list of its values in order, of which the first `least`
must be there. -/
def record? (names : List String) (least : Nat) : Json → Option Fields
  | .obj fields => if areSingle names fields then some fields else none
  | .arr items =>
    if least ≤ items.length && items.length ≤ names.length then some (names.zip items) else none
  | _ => none

namespace Fields

variable {α : Type}

/-- Nothing for `null`. -/
def nullable (f : Json → Option α) : Json → Option (Option α)
  | .null => some none
  | j => (f j).map some

def optional (fields : Fields) (f : Json → Option α) (name : String) : Option (Option α) :=
  ((fieldValues fields name).mapM (nullable f)).map fun xs => xs.getLast?.join

def defaulted (fields : Fields) (f : Json → Option α) (default : α) (name : String) : Option α :=
  (fields.optional f name).map (·.getD default)

def required (fields : Fields) (f : Json → Option α) (name : String) : Option α :=
  (field? fields name).bind f

/-- The default stands for a missing field only; `null` is read like any other
value. -/
def presentOr (fields : Fields) (f : Json → Option α) (default : α) (name : String) : Option α :=
  match field? fields name with
  | none => some default
  | some j => f j

/-- Whether all fields that name the type of the object name this one. -/
def declares (fields : Fields) (name value : String) : Bool :=
  (fieldValues fields name).all fun j => j.string? == some value

end Fields

end ClusterAudit.Json
