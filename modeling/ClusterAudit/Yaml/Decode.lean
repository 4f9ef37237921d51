/-
Reading values of other types out of YAML. Tags do not matter, except that
something with a tag is not the same as nothing. Where a list or a map is
expected there may be nothing instead of an empty one. The keys of a map have
to be text, and those that a record does not know are passed over.
-/
import ClusterAudit.StringMap
import ClusterAudit.Yaml.Value

namespace ClusterAudit.Yaml

abbrev Fields := List (String × Value)

namespace Value

variable {α : Type}

def string? (v : Value) : Option String :=
  match v.untagged with
  | .str s => some s
  | _ => none

def bool? (v : Value) : Option Bool :=
  match v.untagged with
  | .bool b => some b
  | _ => none

def list? (f : Value → Option α) (v : Value) : Option (List α) :=
  match v.untagged with
  | .null => some []
  | .list items => items.mapM f
  | _ => none

def fields? (v : Value) : Option Fields :=
  match v.untagged with
  | .null => some []
  | .map entries => entries.mapM fun (k, v) => (string? k).map (·, v)
  | _ => none

def stringMap? (v : Value) : Option StringMap := do
  let pairs ← (← fields? v).mapM fun (k, v) => (string? v).map (k, ·)
  return .ofList pairs

/-- The fields of a record, none of which is repeated. -/
def record? (names : List String) (v : Value) : Option Fields :=
  v.fields?.filter fun fields =>
    names.all fun name => (fields.filter fun p => p.1 == name).length ≤ 1

/-- A word from a list of words; or a tag that is one, on nothing. -/
def word? (words : List String) : Value → Option String
  | .str s => if words.contains s then some s else none
  | .tagged s v =>
    match v.untagged with
    | .null => if words.contains s then some s else none
    | _ => none
  | _ => none

mutual

/-- Whether the value is one that JSON can write: without tags, and with text for
all keys. -/
def isJson : Value → Bool
  | .null | .bool _ | .int _ | .float _ | .str _ => true
  | .list items => areJson items
  | .map entries => entriesAreJson entries
  | .tagged _ _ => false

def areJson : List Value → Bool
  | [] => true
  | v :: rest => isJson v && areJson rest

def entriesAreJson : List (Value × Value) → Bool
  | [] => true
  | (k, v) :: rest => (string? k).isSome && isJson v && entriesAreJson rest

end

end Value

namespace Fields

variable {α : Type}

/-- A field that may be missing or `null`. -/
def optional (fields : Fields) (f : Value → Option α) (name : String) : Option (Option α) :=
  match fields.lookup name with
  | none | some .null => some none
  | some v => (f v).map some

def required (fields : Fields) (f : Value → Option α) (name : String) : Option α :=
  (fields.lookup name).bind f

def defaulted (fields : Fields) (f : Value → Option α) (default : α) (name : String) : Option α :=
  (fields.optional f name).map (·.getD default)

/-- The default stands for a missing field only. -/
def presentOr (fields : Fields) (f : Value → Option α) (default : α) (name : String) : Option α :=
  match fields.lookup name with
  | none => some default
  | some v => f v

def text? (fields : Fields) (name : String) : Option (Option String) :=
  fields.optional Value.string? name

/-- Fields that have to be of their type, although nobody looks at them. -/
def fit (fields : Fields) (f : Value → Option α) (names : List String) : Option Unit :=
  names.forM fun name => (fields.optional f name).map fun _ => ()

end Fields

end ClusterAudit.Yaml
