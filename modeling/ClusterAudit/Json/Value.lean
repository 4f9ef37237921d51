/-
JSON values. Whole numbers of 64 bits are told apart from all other numbers,
which are kept as they were written: `1` and `1.0` are different values here.
An object keeps all of its fields, also those of one name.
-/
namespace ClusterAudit

inductive Json where
  | null
  | bool (b : Bool)
  | int (n : Int)
  /-- Any number that is not a whole number of 64 bits, by its digits. -/
  | decimal (digits : String)
  | str (s : String)
  | arr (items : List Json)
  | obj (fields : List (String × Json))
  /-- A string with half of a surrogate pair, which no text can hold, or an
  object with such a name. There may be one where nobody looks. -/
  | broken
  deriving Inhabited

namespace Json

/-- The value of the first field `name`. -/
def field? (fields : List (String × Json)) (name : String) : Option Json :=
  (fields.find? (·.1 == name)).map (·.2)

/-- The values of all fields `name`. -/
def fieldValues (fields : List (String × Json)) (name : String) : List Json :=
  fields.filterMap fun (n, j) => if n == name then some j else none

def ofStrings (xs : List String) : Json := .arr (xs.map .str)

/-- `null` for a missing value. -/
def ofOption {α : Type} (f : α → Json) : Option α → Json
  | none => .null
  | some a => f a

end Json

end ClusterAudit
