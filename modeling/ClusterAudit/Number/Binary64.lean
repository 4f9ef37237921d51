/-
Rounding to the numbers that 64 bits hold in binary floating point: multiples
of a power of two by less than 2^53. A number goes to the nearest of them, and
one half way between two to the even one. Readers of documents refuse a number
that is beyond all of them.
-/
namespace ClusterAudit

/-- `mantissa` times the power of two with the exponent `exponent`. -/
structure Binary64 where
  mantissa : Nat
  exponent : Int
  deriving DecidableEq, Repr

namespace Binary64

def zero : Binary64 := ⟨0, 0⟩

/-- `n` times a power of two, as a fraction. -/
def scaled (n : Nat) (exponent : Int) : Nat × Nat :=
  if 0 ≤ exponent then (n * Nat.pow 2 exponent.toNat, 1) else (n, Nat.pow 2 (-exponent).toNat)

/-- The whole number nearest to a fraction; of two, the even one. -/
def nearest (num den : Nat) : Nat :=
  let q := num / den
  let r := num % den
  if den < 2 * r || (2 * r == den && q % 2 == 1) then q + 1 else q

/-- The greatest `e` for which the power of two with the exponent `e` is not
above a fraction that is not zero. -/
def magnitude (num den : Nat) : Int :=
  let e : Int := (num.log2 : Int) - (den.log2 : Int)
  let (a, b) := scaled den e
  if num * b < a then e - 1 else e

/-- The number nearest to a fraction; there is none if the fraction is too
large. Below the normal range there are fewer than 53 bits. -/
def ofFraction? (num den : Nat) : Option Binary64 :=
  if num = 0 then some zero
  else
    let e := magnitude num den - 52
    let exponent := if e < -1074 then -1074 else e
    let (a, b) := scaled 1 exponent
    let m := nearest (num * b) (den * a)
    if m = 0 then some zero
    else
      let rounded : Binary64 :=
        if m = 0x20000000000000 then ⟨0x10000000000000, exponent + 1⟩ else ⟨m, exponent⟩
      if 971 < rounded.exponent then none else some rounded

/-- The number nearest to a product. -/
def product? (x y : Binary64) : Option Binary64 :=
  let (num, den) := scaled (x.mantissa * y.mantissa) (x.exponent + y.exponent)
  ofFraction? num den

end Binary64

end ClusterAudit
