/-
Numerals in ASCII digits: unsigned ones of 64 bits as they stand in flags and
environment variables, which may begin with a plus sign, and the single
digits of numbers in base sixteen.
-/
namespace ClusterAudit.Text

/-- The number that the digits `cs` continue, once `acc` has been read. -/
def digitsValue (acc : Nat) : List Char → Option Nat
  | [] => some acc
  | c :: cs => if c.isDigit then digitsValue (acc * 10 + (c.toNat - 48)) cs else none

/-- The number `cs` writes, of at least one digit and of no more than 64 bits. -/
def unsigned? (cs : List Char) : Option Nat :=
  let digits := match cs with
    | '+' :: rest => rest
    | _ => cs
  if digits.isEmpty then none
  else (digitsValue 0 digits).filter (· < 0x10000000000000000)

/-- The value of a digit in base sixteen. -/
def hexDigit? (c : Char) : Option Nat :=
  if c.isDigit then some (c.toNat - 48)
  else if 'a' ≤ c && c ≤ 'f' then some (c.toNat - 87)
  else if 'A' ≤ c && c ≤ 'F' then some (c.toNat - 55)
  else none

end ClusterAudit.Text
