/-
The limits within which a value can be taken in whole, as it is where nobody
knows yet what it is for: text that a string can hold, numbers in the range of
64-bit floating point, and no more than so many levels of arrays and objects.
-/
import ClusterAudit.Json.Value
import ClusterAudit.Number.Decimal

namespace ClusterAudit.Json

/-- The first digits of a number, as many as 64 bits hold, and the power of ten
to take them by. -/
structure Leading where
  digits : Nat := 0
  exponent : Int := 0
  /-- Whether there have been more digits than that. -/
  isFull : Bool := false

namespace Leading

def fits (d : Leading) (c : Char) : Bool :=
  d.digits * 10 + (c.toNat - 48) < 0x10000000000000000

def push (d : Leading) (c : Char) : Leading := { d with digits := d.digits * 10 + (c.toNat - 48) }

/-- A digit before the point. -/
def whole (d : Leading) (c : Char) : Leading :=
  if !d.isFull && d.fits c then d.push c else { d with exponent := d.exponent + 1, isFull := true }

/-- A digit after it. -/
def fraction (d : Leading) (c : Char) : Leading :=
  if !d.isFull && d.fits c then { d.push c with exponent := d.exponent - 1 }
  else { d with isFull := true }

/-- The digits of a number and the power of ten it writes. -/
def read (cs : List Char) : Leading :=
  let cs := cs.dropWhile (· == '-')
  let whole := (cs.takeWhile Char.isDigit).foldl Leading.whole {}
  let rest := cs.dropWhile Char.isDigit
  let (digits, rest) := match rest with
    | '.' :: rest =>
      ((rest.takeWhile Char.isDigit).foldl fraction { whole with isFull := false },
        rest.dropWhile Char.isDigit)
    | rest => (whole, rest)
  { digits with exponent := digits.exponent + (Decimal.exponent? (rest.drop 1)).getD 0 }

/-- Whether the number is in range. The digits and the power of ten are rounded
before they are multiplied. -/
def isFinite (d : Leading) : Bool :=
  d.digits == 0 || d.exponent ≤ 0 ||
    (d.exponent ≤ 308 &&
      (match Binary64.ofFraction? d.digits 1, Decimal.nearest? ⟨1, d.exponent⟩ with
        | some x, some y => (Binary64.product? x y).isSome
        | _, _ => false))

end Leading

mutual

/-- Whether a value can be taken in whole, with no more than `levels` arrays and
objects in one another. -/
def isWithinLimits (levels : Nat) : Json → Bool
  | .null | .bool _ | .int _ | .str _ => true
  | .decimal digits => (Leading.read digits.toList).isFinite
  | .broken => false
  | .arr items =>
    match levels with
    | 0 => false
    | levels + 1 => areWithinLimits levels items
  | .obj fields =>
    match levels with
    | 0 => false
    | levels + 1 => fieldsWithinLimits levels fields

def areWithinLimits (levels : Nat) : List Json → Bool
  | [] => true
  | j :: rest => isWithinLimits levels j && areWithinLimits levels rest

def fieldsWithinLimits (levels : Nat) : List (String × Json) → Bool
  | [] => true
  | (_, j) :: rest => isWithinLimits levels j && fieldsWithinLimits levels rest

end

end ClusterAudit.Json
