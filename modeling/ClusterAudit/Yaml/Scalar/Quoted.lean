/-
Scalars in quotation marks. In single ones a quotation mark is written twice;
in double ones there are escapes. Both may go on over several lines.
-/
import ClusterAudit.Text.Numeral
import ClusterAudit.Yaml.Cursor
import ClusterAudit.Yaml.Scalar.Gap

namespace ClusterAudit.Yaml

namespace Quoted

/-- How many digits follow the letter of an escape by number. -/
def digitCount? : Char → Option Nat
  | 'x' => some 2
  | 'u' => some 4
  | 'U' => some 8
  | _ => none

/-- The character that a letter stands for after a backslash. -/
def named? : Char → Option Char
  | '0' => some '\x00'
  | 'a' => some '\x07'
  | 'b' => some '\x08'
  | 't' => some '\t'
  | '\t' => some '\t'
  | 'n' => some '\n'
  | 'v' => some '\x0b'
  | 'f' => some '\x0c'
  | 'r' => some '\r'
  | 'e' => some '\x1b'
  | ' ' => some ' '
  | '"' => some '"'
  | '/' => some '/'
  | '\\' => some '\\'
  | 'N' => some '\u0085'
  | '_' => some '\u00a0'
  | 'L' => some '\u2028'
  | 'P' => some '\u2029'
  | _ => none

/-- Whether an escape is being read, and how much of it is there. -/
inductive Escape where
  | none
  | begun
  /-- A number: how many digits are still to come, and its value so far. -/
  | number (left value : Nat)

/-- The characters read so far, last first, and what followed the last word. -/
structure Partial where
  text : List Char := []
  gap : Gap := .empty
  escape : Escape := .none

namespace Partial

/-- The text with the gap after it. -/
def joined (t : Partial) : List Char := t.gap.folded ++ t.text

def push (t : Partial) (c : Char) : Partial := { text := c :: t.joined }

/-- The next character of an escape. A line break that is escaped is not there,
nor are the blanks after it. -/
def escaped? (t : Partial) (c : Char) : Escape → Option Partial
  | .none => some (t.push c)
  | .begun =>
    if isBreak c then some { t with gap := .breaks [] [], escape := .none }
    else
      match named? c, digitCount? c with
      | some x, _ => some (t.push x)
      | _, some n => some { t with escape := .number n 0 }
      | _, _ => Option.none
  | .number left value => do
    let value := value * 16 + (← Text.hexDigit? c)
    if 1 < left then some { t with escape := .number (left - 1) value }
    else if value.isValidChar then some (t.push (Char.ofNat value))
    else Option.none

end Partial

/-- Reads on at `p`, up to the quotation mark that ends the scalar. -/
def scanFrom (isDouble : Bool) (t : Partial) (p : Place) : List Char → Option (String × Cursor)
  | [] => none
  | c :: cs =>
    match t.escape with
    | .begun | .number _ _ =>
      match t.escaped? c t.escape with
      | some t => scanFrom isDouble t (p.after c) cs
      | none => none
    | .none =>
      if isSpace c then scanFrom isDouble { t with gap := t.gap.push c } (p.after c) cs
      else if p.column == 0 && startsMarker (c :: cs) then none
      else if isDouble then
        if c == '"' then some (String.ofList t.joined.reverse, ⟨p.after c, cs⟩)
        else if c == '\\' then
          scanFrom isDouble { text := t.joined, escape := .begun } (p.after c) cs
        else scanFrom isDouble (t.push c) (p.after c) cs
      else if c.toNat == 0x27 then
        match cs with
        | '\x27' :: cs => scanFrom isDouble (t.push c) ((p.after c).after c) cs
        | cs => some (String.ofList t.joined.reverse, ⟨p.after c, cs⟩)
      else scanFrom isDouble (t.push c) (p.after c) cs

/-- The scalar behind the quotation mark at which `s` stands. -/
def scan? (isDouble : Bool) (s : Cursor) : Option (String × Cursor) :=
  scanFrom isDouble {} s.next.place s.next.rest

end Quoted

end ClusterAudit.Yaml
