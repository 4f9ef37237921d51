/-
What scalars stand for. A scalar without quotation marks may be `null`, a truth
value or a number, and is text otherwise; a tag may tell which of them it has
to be.
-/
import ClusterAudit.Number.Decimal
import ClusterAudit.Text.Numeral
import ClusterAudit.Yaml.Value

namespace ClusterAudit.Yaml

namespace Meaning

/-- The number that digits in the base `base` write; there has to be one. -/
def number? (base : Nat) (cs : List Char) : Option Nat :=
  if cs.isEmpty then none
  else cs.foldlM (fun n c => ((Text.hexDigit? c).filter (· < base)).map (n * base + ·)) 0

/-- Digits that begin with a zero and are not the zero: text, not a number. -/
def isPadded (cs : List Char) : Bool :=
  cs.head? == some '0' && 1 < cs.length && cs.all Char.isDigit

/-- A whole number without its sign, in base ten or in one that is named in
front. -/
def size? : List Char → Option Nat
  | '0' :: 'x' :: cs => number? 16 cs
  | '0' :: 'o' :: cs => number? 8 cs
  | '0' :: 'b' :: cs => number? 2 cs
  | cs => if isPadded cs then none else number? 10 cs

/-- A sign perhaps, and what is behind it. -/
def sign : List Char → Option Bool × List Char
  | '-' :: cs => (some true, cs)
  | '+' :: cs => (some false, cs)
  | cs => (none, cs)

/-- Whole numbers have 128 bits at most, one of them for the sign if they are
negative. -/
def integer? (cs : List Char) : Option Int :=
  match sign cs with
  | (some true, cs) =>
    (size? cs).bind fun n =>
      if n ≤ 0x80000000000000000000000000000000 then some (-(n : Int)) else none
  | (_, cs) =>
    (size? cs).bind fun n =>
      if n < 0x100000000000000000000000000000000 then some (n : Int) else none

/-- Whether a whole number is one that values can be: of 64 bits. -/
def isHeld (n : Int) : Bool := -0x8000000000000000 ≤ n && n < 0x10000000000000000

def infinities : List String := [".inf", ".Inf", ".INF"]

def float? (cs : List Char) : Option Floating :=
  let (negative, size) := sign cs
  if infinities.contains (String.ofList size) then some (.infinite (negative == some true))
  else if [".nan", ".NaN", ".NAN"].contains (String.ofList cs) then some .notANumber
  else do
    let x ← (← Decimal.read? size).nearest?
    return .finite (negative == some true && x.mantissa != 0) x

def bool? (text : String) : Option Bool :=
  if ["true", "True", "TRUE"].contains text then some true
  else if ["false", "False", "FALSE"].contains text then some false
  else none

def isNull (text : String) : Bool := ["~", "null", "Null", "NULL"].contains text

/-- A whole number as a value, which fails if it is too large for one. -/
def held? (n : Int) : Option Value := if isHeld n then some (.int n) else none

/-- What a scalar means that has neither quotation marks nor a tag. -/
def plain? (text : String) : Option Value :=
  let cs := text.toList
  if text.isEmpty || isNull text then some .null
  else
    match bool? text, integer? cs with
    | some b, _ => some (.bool b)
    | none, some n => held? n
    | none, none =>
      if isPadded (sign cs).2 then some (.str text)
      else some (((float? cs).map Value.float).getD (.str text))

/-- What a scalar means. All tags but four say that it is text. -/
def scalar? (tag : Option String) (isPlain : Bool) (text : String) : Option Value :=
  match tag with
  | none => if isPlain then plain? text else some (.str text)
  | some "tag:yaml.org,2002:null" => if isNull text then some .null else none
  | some "tag:yaml.org,2002:bool" => (bool? text).map .bool
  | some "tag:yaml.org,2002:int" => (integer? text.toList).bind held?
  | some "tag:yaml.org,2002:float" => (float? text.toList).map .float
  | some _ => some (.str text)

end Meaning

end ClusterAudit.Yaml
