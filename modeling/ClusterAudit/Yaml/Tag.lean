/-
Tags and the directives, of which one gives the handles of tags their meaning.
-/
import ClusterAudit.Number.Decimal
import ClusterAudit.Text.Numeral
import ClusterAudit.Yaml.Cursor
import ClusterAudit.Yaml.Token

namespace ClusterAudit.Yaml

namespace Tag

/-! ## Names -/

/-- A character that is written as its bytes, as far as they have been read. -/
structure Escaped where
  left : Nat
  value : Nat

/-- The first byte tells how many there are. -/
def Escaped.begin? (byte : Nat) : Option Escaped :=
  if byte < 0x80 then some ⟨0, byte⟩
  else if byte < 0xC0 then none
  else if byte < 0xE0 then some ⟨1, byte % 0x20⟩
  else if byte < 0xF0 then some ⟨2, byte % 0x10⟩
  else if byte < 0xF8 then some ⟨3, byte % 0x8⟩
  else none

def Escaped.push? (e : Escaped) (byte : Nat) : Option Escaped :=
  if e.left = 0 then Escaped.begin? byte
  else if 0x80 ≤ byte && byte < 0xC0 then some ⟨e.left - 1, e.value * 0x40 + byte % 0x40⟩
  else none

def Escaped.char (e : Escaped) : Char :=
  if e.value.isValidChar then Char.ofNat e.value else '\ufffd'

/-- The characters of a name, from `p` on, after `done` and an escape that may
not be complete yet. -/
def nameFrom (isBracketed : Bool) (done : List Char) (e : Escaped) (p : Place) :
    List Char → Option (List Char × Cursor)
  | [] => if e.left = 0 then some (done.reverse, ⟨p, []⟩) else none
  | c :: cs =>
    if c == '%' then
      match cs with
      | a :: b :: cs => do
        let high ← Text.hexDigit? a
        let low ← Text.hexDigit? b
        let e ← e.push? (high * 16 + low)
        nameFrom isBracketed (if e.left = 0 then e.char :: done else done) e
          (((p.after c).after a).after b) cs
      | _ => none
    else if e.left != 0 then none
    else if isTagChar isBracketed c then nameFrom isBracketed (c :: done) e (p.after c) cs
    else some (done.reverse, ⟨p, c :: cs⟩)

def name? (isBracketed : Bool) (s : Cursor) : Option (List Char × Cursor) :=
  nameFrom isBracketed [] ⟨0, 0⟩ s.place s.rest

/-- The same, but it must not be empty. -/
def fullName? (isBracketed : Bool) (s : Cursor) : Option (List Char × Cursor) :=
  (name? isBracketed s).filter fun (name, _) => !name.isEmpty

/-- What stands between an exclamation mark and another one, and whether the
other is there. The cursor is at the first one, and then behind the second. -/
def handle (s : Cursor) : List Char × Bool × Cursor :=
  let (name, s) := s.next.span isNameChar
  if s.meets (· == '!') then (name, true, s.next) else (name, false, s)

/-- The tag at which `s` stands. What is not a handle is the beginning of the
name. -/
def scan? (isInFlow : Bool) (s : Cursor) : Option (Token × Cursor) := do
  let (token, rest) ←
    if s.next.meets (· == '<') then do
      let (name, s) ← fullName? true s.next.next
      if s.meets (· == '>') then some (Token.tag "" (String.ofList name), s.next) else none
    else
      match handle s with
      | (handle, true, s) => do
        let (name, s) ← fullName? false s
        some (Token.tag ("!" ++ String.ofList handle ++ "!") (String.ofList name), s)
      | (beginning, false, s) => do
        let (name, s) ← name? false s
        let name := beginning ++ name
        some (if name.isEmpty then .tag "" "!" else .tag "!" (String.ofList name), s)
  if endsWord rest.rest || (isInFlow && rest.meets (· == ',')) then some (token, rest) else none

end Tag

namespace Directive

/-- A number of at most nine digits. -/
def number? (s : Cursor) : Option (Nat × Cursor) :=
  let (digits, s) := s.span Char.isDigit
  if digits.isEmpty || 9 < digits.length then none else some (Decimal.natValue digits, s)

/-- Two numbers with a point between them. -/
def version? (s : Cursor) : Option (Token × Cursor) := do
  let (major, s) ← number? (s.dropWhile isBlank)
  if s.meets (· == '.') then
    let (minor, s) ← number? s.next
    some (.version major minor, s)
  else none

/-- A handle, and behind a blank what it stands for. -/
def handle? (s : Cursor) : Option (Token × Cursor) := do
  let s := s.dropWhile isBlank
  if s.meets (· == '!') then
    let (name, isClosed, s) := Tag.handle s
    if (isClosed || name.isEmpty) && s.meets isBlank then
      let (meaning, s) ← Tag.fullName? true (s.dropWhile isBlank)
      if endsWord s.rest then
        let handle := "!" ++ String.ofList name ++ (if isClosed then "!" else "")
        some (.handle handle (String.ofList meaning), s)
      else none
    else none
  else none

/-- The directive at which `s` stands, with its whole line. -/
def scan? (s : Cursor) : Option (Token × Cursor) := do
  let (name, s) := s.next.span isNameChar
  if endsWord s.rest then
    let (token, s) ←
      if name == "YAML".toList then version? s
      else if name == "TAG".toList then handle? s
      else none
    some (token, ← s.endOfLine?)
  else none

end Directive

end ClusterAudit.Yaml
