/-
Spans of time, and their text: the largest unit that the span fills at least
once, with as many decimals as it takes and no more.
-/
namespace ClusterAudit

structure Duration where
  nanoseconds : Nat
  deriving DecidableEq, Repr

namespace Duration

def ofMilliseconds (n : Nat) : Duration := ⟨n * 1000000⟩

def ofSeconds (n : Nat) : Duration := ⟨n * 1000000000⟩

def wholeSeconds (d : Duration) : Nat := d.nanoseconds / 1000000000

/-- What is left beside the whole seconds. -/
def subsecond (d : Duration) : Nat := d.nanoseconds % 1000000000

/-- The decimals of a fraction with `places` of them, of which `n` has the
digits, without the zeros at their end. -/
def decimals (places n : Nat) : List Char :=
  let digits := Nat.toDigits 10 n
  (List.replicate (places - digits.length) '0' ++ digits).reverse.dropWhile (· == '0') |>.reverse

/-- `n` nanoseconds counted in a unit that is `places` decimal places longer
than one of them. -/
def countedIn (unit : String) (places n : Nat) : String :=
  let size := Nat.pow 10 places
  let fraction := decimals places (n % size)
  toString (n / size) ++ (if fraction.isEmpty then "" else "." ++ String.ofList fraction) ++ unit

def text (d : Duration) : String :=
  if 1000000000 ≤ d.nanoseconds then countedIn "s" 9 d.nanoseconds
  else if 1000000 ≤ d.nanoseconds then countedIn "ms" 6 d.nanoseconds
  else if 1000 ≤ d.nanoseconds then countedIn "µs" 3 d.nanoseconds
  else countedIn "ns" 0 d.nanoseconds

end Duration

end ClusterAudit
