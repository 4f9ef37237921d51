/-
The values that YAML can write. Maps may have any values for their keys, and
what carries a tag of its own is told apart from the same thing without it.
Kubeconfigs are decoded from them.
-/
import ClusterAudit.Number.Binary64

namespace ClusterAudit.Yaml

/-- Numbers in floating point. The zeros are one number here. -/
inductive Floating where
  | finite (isNegative : Bool) (size : Binary64)
  | infinite (isNegative : Bool)
  | notANumber
  deriving DecidableEq

inductive Value where
  | null
  | bool (b : Bool)
  | int (n : Int)
  | float (x : Floating)
  | str (s : String)
  | list (items : List Value)
  | map (entries : List (Value × Value))
  | tagged (tag : String) (value : Value)
  deriving Inhabited

namespace Value

mutual

/-- Whether two values are the same. The order of the entries of a map does not
matter. -/
def same : Value → Value → Bool
  | .null, .null => true
  | .bool a, .bool b => a == b
  | .int m, .int n => m == n
  | .float x, .float y => x == y
  | .str s, .str t => s == t
  | .list xs, .list ys => sameItems xs ys
  | .map xs, .map ys => xs.length == ys.length && isAmong xs ys
  | .tagged s x, .tagged t y => s == t && same x y
  | _, _ => false

def sameItems : List Value → List Value → Bool
  | [], [] => true
  | x :: xs, y :: ys => same x y && sameItems xs ys
  | _, _ => false

def isAmong : List (Value × Value) → List (Value × Value) → Bool
  | [], _ => true
  | (k, v) :: xs, ys => (ys.any fun (k', v') => same k k' && same v v') && isAmong xs ys

end

/-- Whether one of the keys occurs twice. -/
def hasRepeatedKey : List (Value × Value) → Bool
  | [] => false
  | (k, _) :: rest => (rest.any fun (k', _) => same k k') || hasRepeatedKey rest

/-- The value without the tags around it. -/
def untagged : Value → Value
  | .tagged _ v => v.untagged
  | v => v

end Value

end ClusterAudit.Yaml
