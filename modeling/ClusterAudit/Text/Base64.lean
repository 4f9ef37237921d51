/-
Binary data as text in base 64: four characters for three bytes, with padding
at the end. There is one text for each sequence of bytes, and no other text is
read.
-/
namespace ClusterAudit.Text.Base64

/-- Why a text is no data. Characters are named by their codes and by how many
stand before them. -/
inductive Fault where
  | symbol (code offset : Nat)
  /-- The text ends within its first byte or between two of them. -/
  | length (n : Nat)
  /-- The last character says more than the bytes can hold. -/
  | lastSymbol (code offset : Nat)
  | padding
  deriving DecidableEq

namespace Fault

def message : Fault → String
  | symbol code offset => "Invalid symbol " ++ toString code ++ ", offset " ++ toString offset ++ "."
  | length n => "Invalid input length: " ++ toString n
  | lastSymbol code offset =>
    "Invalid last symbol " ++ toString code ++ ", offset " ++ toString offset ++ "."
  | padding => "Invalid padding"

end Fault

/-- The six bits that a character stands for. -/
def value? (c : Char) : Option Nat :=
  if 'A' ≤ c && c ≤ 'Z' then some (c.toNat - 65)
  else if 'a' ≤ c && c ≤ 'z' then some (c.toNat - 71)
  else if '0' ≤ c && c ≤ '9' then some (c.toNat + 4)
  else if c == '+' then some 62
  else if c == '/' then some 63
  else none

/-- The bits of the character `c` with `offset` characters before it. -/
def value (offset : Nat) (c : Char) : Except Fault Nat :=
  match value? c with
  | some n => .ok n
  | none => .error (.symbol c.toNat offset)

/-- The number that characters write, each with six bits. -/
def number (offset n : Nat) : List Char → Except Fault Nat
  | [] => .ok n
  | c :: cs => do number (offset + 1) (n * 0x40 + (← value offset c)) cs

/-- The bytes of the last characters, of which there are four at most. -/
def decodeEnd (offset : Nat) (cs : List Char) : Except Fault (List UInt8) := do
  let text := cs.takeWhile (· != '=')
  let pads := cs.drop text.length
  let n ← number offset 0 text
  if !pads.isEmpty && (text.length < 2 || pads.any (· != '=')) then
    throw (.symbol '='.toNat (offset + text.length))
  if text.length < 2 then throw (.length (offset + text.length))
  if cs.length != 4 then throw .padding
  let (bytes, extra) := match text.length with
    | 2 => ([n / 0x10], n % 0x10)
    | 3 => ([n / 0x400, n / 0x4], n % 0x4)
    | _ => ([n / 0x10000, n / 0x100, n], 0)
  if extra != 0 then
    throw (.lastSymbol ((text.getLast?.map Char.toNat).getD 0) (offset + text.length - 1))
  return bytes.map UInt8.ofNat

/-- The bytes of the characters from `offset` on. -/
def decodeFrom (offset : Nat) : List Char → Except Fault (List UInt8)
  | [] => .ok []
  | a :: b :: c :: d :: e :: rest => do
    let n ← number offset 0 [a, b, c, d]
    return UInt8.ofNat (n / 0x10000) :: UInt8.ofNat (n / 0x100) :: UInt8.ofNat n ::
      (← decodeFrom (offset + 4) (e :: rest))
  | cs => decodeEnd offset cs

/-- The bytes of a text. A character too many at its end is looked at first. -/
def decode (cs : List Char) : Except Fault (List UInt8) := do
  if let some c := cs.getLast? then
    if cs.length % 4 = 1 && c != '=' then
      let _ ← value (cs.length - 1) c
  decodeFrom 0 cs

end ClusterAudit.Text.Base64
