/-
Certificates and keys in binary form: values with a tag and a length, of which
some consist of further values. Only their outline is looked at here, which
tells them from other data, since there is no client with other data for a
certificate or a key; whether they are good shows when they are used.
-/
namespace ClusterAudit.Connection

/-- A tag, and what it is put on. -/
structure Tagged where
  tag : Nat
  content : List UInt8

namespace Tagged

def integer : Nat := 0x02

def bitString : Nat := 0x03

def sequence : Nat := 0x30

/-- Numbers that a standard gives to the parts of a certificate. -/
def part (n : Nat) : Nat := 0xA0 + n

/-- Values are shorter than this. -/
def sizeLimit : Nat := 0xFFFF

/-- The number of bytes that follow, which is itself written with no more bytes
than it needs. -/
def size? : List UInt8 → Option (Nat × List UInt8)
  | [] => none
  | n :: rest =>
    let n := n.toNat
    if n < 0x80 then some (n, rest)
    else
      let count := n - 0x80
      let bytes := rest.take count
      let size := bytes.foldl (fun size b => size * 0x100 + b.toNat) 0
      let least := if count = 1 then 0x80 else Nat.pow 0x100 (count - 1)
      if 0 < count && count ≤ 4 && bytes.length = count && least ≤ size then
        some (size, rest.drop count)
      else none

/-- The first value, and what follows it. -/
def first? : List UInt8 → Option (Tagged × List UInt8)
  | [] => none
  | tag :: rest => do
    let (size, rest) ← size? rest
    if tag.toNat % 0x20 = 0x1F || sizeLimit ≤ size || rest.length < size then none
    return (⟨tag.toNat, rest.take size⟩, rest.drop size)

/-- The values that bytes consist of, of which there are no more than `fuel`. -/
def allIn (fuel : Nat) (bytes : List UInt8) : Option (List Tagged) :=
  match fuel, bytes with
  | _, [] => some []
  | 0, _ => none
  | fuel + 1, bytes => do
    let (x, rest) ← first? bytes
    return x :: (← allIn fuel rest)

/-- The values that bytes consist of; each takes two of them at least. -/
def all? (bytes : List UInt8) : Option (List Tagged) := allIn bytes.length bytes

/-- The values in a sequence, if the bytes are one. -/
def items? (bytes : List UInt8) : Option (List Tagged) :=
  match all? bytes with
  | some [x] => if x.tag = sequence then all? x.content else none
  | _ => none

end Tagged

open Tagged in
/-- What a certificate says: a number, then how it is signed, by whom, from when
to when, whom it is for and with which key. Before that there may be a version,
and with the version there may be extensions behind it. -/
def isCertified (items : List Tagged) : Bool :=
  let plain := integer :: List.replicate 5 sequence
  let tags := items.map (·.tag)
  tags == plain || tags == part 0 :: plain || tags == part 0 :: plain ++ [part 3]

open Tagged in
/-- Whether bytes have the outline of a certificate: what it says, how it is
signed, and the signature. -/
def isCertificate (bytes : List UInt8) : Bool :=
  match items? bytes with
  | some [said, algorithm, signature] =>
    said.tag == sequence && (all? said.content).any isCertified && algorithm.tag == sequence &&
      signature.tag == bitString && signature.content.head? == some 0
  | _ => false

/-- Whether bytes have the outline of a private key: they begin with a
version. -/
def isKey (bytes : List UInt8) : Bool :=
  match Tagged.items? bytes with
  | some (version :: _) => version.tag == Tagged.integer
  | _ => false

end ClusterAudit.Connection
