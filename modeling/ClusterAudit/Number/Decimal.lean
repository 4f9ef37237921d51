/-
Numbers in decimal digits, with a fraction and a power of ten, and the binary
floating point numbers nearest to them. No check looks at such a number; they are
for readers of documents in which any number may stand.
-/
import ClusterAudit.Number.Binary64

namespace ClusterAudit

/-- `digits` times the power of ten with the exponent `exponent`. -/
structure Decimal where
  digits : Nat
  exponent : Int := 0
  deriving DecidableEq, Repr

namespace Decimal

/-- The number that ASCII digits write. -/
def natValue (cs : List Char) : Nat := cs.foldl (fun n c => n * 10 + (c.toNat - 48)) 0

/-- At least one digit, and nothing else. -/
def whole? (cs : List Char) : Option Nat :=
  if !cs.isEmpty && cs.all Char.isDigit then some (natValue cs) else none

/-- A sign perhaps, and digits. -/
def exponent? : List Char → Option Int
  | '+' :: cs => (whole? cs).map fun n => (n : Int)
  | '-' :: cs => (whole? cs).map fun n => -(n : Int)
  | cs => (whole? cs).map fun n => (n : Int)

/-- Digits, a point and digits, of which either part may be missing but not
both, and perhaps an exponent. A whole number needs no point. -/
def read? (cs : List Char) : Option Decimal := do
  let whole := cs.takeWhile Char.isDigit
  let rest := cs.dropWhile Char.isDigit
  let (fraction, rest) := match rest with
    | '.' :: rest => (rest.takeWhile Char.isDigit, rest.dropWhile Char.isDigit)
    | rest => ([], rest)
  if whole.isEmpty && fraction.isEmpty then none
  else
    let exponent ← match rest with
      | [] => some 0
      | 'e' :: rest | 'E' :: rest => exponent? rest
      | _ => none
    some ⟨natValue (whole ++ fraction), exponent - fraction.length⟩

/-- The binary number nearest to a decimal one; there is none if that is too
large. Far outside of the range the power of ten is not worked out. -/
def nearest? (d : Decimal) : Option Binary64 :=
  let places : Int := (Nat.toDigits 10 d.digits).length + d.exponent
  if d.digits = 0 || places < -400 then some .zero
  else if 400 < places then none
  else if 0 ≤ d.exponent then Binary64.ofFraction? (d.digits * Nat.pow 10 d.exponent.toNat) 1
  else Binary64.ofFraction? d.digits (Nat.pow 10 (-d.exponent).toNat)

end Decimal

end ClusterAudit
