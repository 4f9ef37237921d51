/-
Reading JSON text. A first machine goes through the characters and yields
tokens, a second one goes through the tokens and keeps the arrays and objects
it is inside of on a stack. Both take one input at a time, so neither needs a
bound on the depth or the length of a text.
-/
import ClusterAudit.Json.Value
import ClusterAudit.Number.Decimal
import ClusterAudit.Text.Numeral

namespace ClusterAudit.Json

inductive Token where
  | openArr
  | closeArr
  | openObj
  | closeObj
  | comma
  | colon
  | str (s : String)
  /-- A string with half of a surrogate pair. -/
  | broken
  /-- A number, `null`, `true` or `false`. -/
  | scalar (j : Json)
  deriving Inhabited

/-! ## Numbers -/

/-- Drops the digits at the front; there has to be one. -/
def skipDigits? : List Char → Option (List Char)
  | [] => none
  | c :: cs => if c.isDigit then some (cs.dropWhile (·.isDigit)) else none

/-- Drops an exponent, if there is one. -/
def skipExponent? : List Char → Option (List Char)
  | 'e' :: cs | 'E' :: cs =>
    match cs with
    | '+' :: cs | '-' :: cs => skipDigits? cs
    | cs => skipDigits? cs
  | cs => some cs

/-- Digits without a needless zero before them, then perhaps a fraction and an
exponent. Without either it is a whole number, as long as 64 bits hold it; the
negative zero is none, for it has no place among the whole numbers. -/
def number? (cs : List Char) : Option Json := do
  let (negative, digits) := match cs with
    | '-' :: rest => (true, rest)
    | _ => (false, cs)
  let rest ← skipDigits? digits
  if digits.head? == some '0' && digits.length > rest.length + 1 then none
  if rest.isEmpty then
    let n := Decimal.natValue digits
    if negative then
      if 0 < n && n ≤ 0x8000000000000000 then some (.int (-n)) else some (.decimal (String.ofList cs))
    else if n < 0x10000000000000000 then some (.int n) else some (.decimal (String.ofList cs))
  else
    let rest ← match rest with
      | '.' :: fraction => skipDigits? fraction
      | _ => some rest
    let rest ← skipExponent? rest
    if rest.isEmpty then some (.decimal (String.ofList cs)) else none

/-- The scalar that a word without quotation marks stands for. -/
def word? (cs : List Char) : Option Json :=
  if cs == "null".toList then some .null
  else if cs == "true".toList then some (.bool true)
  else if cs == "false".toList then some (.bool false)
  else number? cs

/-! ## Characters to tokens -/

/-- A string as far as it has been read: its characters, last first, and
whether all of them are there. Half of a surrogate pair is none. -/
structure Partial where
  cs : List Char := []
  isWhole : Bool := true

namespace Partial

def push (t : Partial) (c : Char) : Partial := { t with cs := c :: t.cs }

def lose (t : Partial) : Partial := { t with isWhole := false }

def token (t : Partial) : Token := if t.isWhole then .str (String.ofList t.cs.reverse) else .broken

end Partial

/-- Where the first machine stands. -/
inductive Lexing where
  | between
  | word (cs : List Char)
  | text (t : Partial)
  /-- After a backslash. -/
  | escape (t : Partial)
  /-- Inside the four digits of a number: those still to come, the value so
  far, and the first half of a pair if one stands right before. -/
  | digits (t : Partial) (left value : Nat) (high : Option Nat)
  /-- After the first half of a pair, where a backslash has to follow. -/
  | half (t : Partial) (high : Nat)
  /-- After that backslash. -/
  | halfEscape (t : Partial) (high : Nat)

/-- A character that ends a word, and the token it is. -/
def mark? (c : Char) : Option Token :=
  match c with
  | '[' => some .openArr
  | ']' => some .closeArr
  | '\x7b' => some .openObj
  | '\x7d' => some .closeObj
  | ',' => some .comma
  | ':' => some .colon
  | _ => none

def isSpace (c : Char) : Bool := c == ' ' || c == '\n' || c == '\t' || c == '\r'

/-- A character outside of strings and words, after the tokens `ts`. -/
def Lexing.fresh (c : Char) (ts : List Token) : Lexing × List Token :=
  if isSpace c then (.between, ts)
  else match mark? c with
    | some t => (.between, t :: ts)
    | none => if c == '"' then (.text {}, ts) else (.word [c], ts)

/-- A character by its number, after `t` and perhaps the first half of a pair.
Halves that do not meet are lost. -/
def Lexing.numbered (t : Partial) (value : Nat) (high : Option Nat) : Lexing :=
  match high with
  | none =>
    if 0xD800 ≤ value && value < 0xDC00 then .half t value
    else if 0xDC00 ≤ value && value < 0xE000 then .text t.lose
    else .text (t.push (Char.ofNat value))
  | some high =>
    if 0xDC00 ≤ value && value < 0xE000 then
      .text (t.push (Char.ofNat (0x10000 + (high - 0xD800) * 0x400 + (value - 0xDC00))))
    else if 0xD800 ≤ value && value < 0xDC00 then .half t.lose value
    else .text (t.lose.push (Char.ofNat value))

/-- A character inside a string. -/
def Lexing.inText (t : Partial) (ts : List Token) (c : Char) : Option (Lexing × List Token) :=
  if c == '"' then some (.between, t.token :: ts)
  else if c == '\\' then some (.escape t, ts)
  else if c.toNat < 0x20 then none
  else some (.text (t.push c), ts)

/-- The character after a backslash. -/
def Lexing.escaped (t : Partial) : Char → Option Lexing
  | '"' => some (.text (t.push '"'))
  | '\\' => some (.text (t.push '\\'))
  | '/' => some (.text (t.push '/'))
  | 'b' => some (.text (t.push '\x08'))
  | 'f' => some (.text (t.push '\x0c'))
  | 'n' => some (.text (t.push '\n'))
  | 'r' => some (.text (t.push '\r'))
  | 't' => some (.text (t.push '\t'))
  | 'u' => some (.digits t 4 0 none)
  | _ => none

/-- One character more. -/
def Lexing.step (ts : List Token) (c : Char) : Lexing → Option (Lexing × List Token)
  | .between => some (fresh c ts)
  | .word cs =>
    if isSpace c || (mark? c).isSome || c == '"' then
      (word? cs.reverse).map fun j => fresh c (.scalar j :: ts)
    else some (.word (c :: cs), ts)
  | .text t => inText t ts c
  | .escape t => (escaped t c).map (·, ts)
  | .digits t left value high => do
    let d ← Text.hexDigit? c
    if left ≤ 1 then some (numbered t (value * 16 + d) high, ts)
    else some (.digits t (left - 1) (value * 16 + d) high, ts)
  | .half t high => if c == '\\' then some (.halfEscape t high, ts) else inText t.lose ts c
  | .halfEscape t high =>
    if c == 'u' then some (.digits t 4 0 (some high), ts) else (escaped t.lose c).map (·, ts)

/-- The tokens of a text, from a place in it where `ts` have been read. -/
def tokensFrom? (state : Lexing) (ts : List Token) : List Char → Option (List Token)
  | [] =>
    match state with
    | .between => some ts.reverse
    | .word cs => (word? cs.reverse).map fun j => (Token.scalar j :: ts).reverse
    | _ => none
  | c :: cs =>
    match state.step ts c with
    | some (state, ts) => tokensFrom? state ts cs
    | none => none

def tokens? (cs : List Char) : Option (List Token) := tokensFrom? .between [] cs

/-! ## Tokens to a value -/

/-- An array or object that is not closed yet, its parts last first; of an
object also the name that was read last and whether all names are whole. -/
inductive Frame where
  | items (done : List Json)
  | fields (done : List (String × Json)) (name : String) (isWhole : Bool)

/-- The object with these fields, last first. -/
def Frame.object (done : List (String × Json)) (isWhole : Bool) : Json :=
  if isWhole then .obj done.reverse else .broken

/-- What has to come next. -/
inductive Spot where
  | value
  | firstItem
  | firstName
  | name
  | colon
  | afterValue

inductive Reading where
  | within (spot : Spot) (stack : List Frame)
  | complete (j : Json)

/-- Puts a value that is complete where it belongs. -/
def Reading.deliver (j : Json) : List Frame → Reading
  | [] => .complete j
  | .items done :: stack => .within .afterValue (.items (j :: done) :: stack)
  | .fields done name isWhole :: stack =>
    .within .afterValue (.fields ((name, j) :: done) name isWhole :: stack)

/-- The start of a value. -/
def Reading.start (stack : List Frame) : Token → Option Reading
  | .scalar j => some (deliver j stack)
  | .str s => some (deliver (.str s) stack)
  | .broken => some (deliver .broken stack)
  | .openArr => some (.within .firstItem (.items [] :: stack))
  | .openObj => some (.within .firstName (.fields [] "" true :: stack))
  | _ => none

/-- One token more. -/
def Reading.step : Reading → Token → Option Reading
  | .within .value stack, t => start stack t
  | .within .firstItem (.items _ :: stack), .closeArr => some (deliver (.arr []) stack)
  | .within .firstItem stack, t => start stack t
  | .within .firstName (.fields _ _ _ :: stack), .closeObj => some (deliver (.obj []) stack)
  | .within .firstName (.fields done _ isWhole :: stack), .str s =>
    some (.within .colon (.fields done s isWhole :: stack))
  | .within .firstName (.fields done _ _ :: stack), .broken =>
    some (.within .colon (.fields done "" false :: stack))
  | .within .name (.fields done _ isWhole :: stack), .str s =>
    some (.within .colon (.fields done s isWhole :: stack))
  | .within .name (.fields done _ _ :: stack), .broken =>
    some (.within .colon (.fields done "" false :: stack))
  | .within .colon stack, .colon => some (.within .value stack)
  | .within .afterValue (.items done :: stack), .comma =>
    some (.within .value (.items done :: stack))
  | .within .afterValue (.items done :: stack), .closeArr =>
    some (deliver (.arr done.reverse) stack)
  | .within .afterValue (.fields done name isWhole :: stack), .comma =>
    some (.within .name (.fields done name isWhole :: stack))
  | .within .afterValue (.fields done _ isWhole :: stack), .closeObj =>
    some (deliver (Frame.object done isWhole) stack)
  | _, _ => none

/-- The one value that the tokens stand for. -/
def ofTokens? (ts : List Token) : Option Json :=
  match ts.foldlM Reading.step (.within .value []) with
  | some (.complete j) => some j
  | _ => none

/-- The value that `text` writes; blanks may stand around it. -/
def parse? (text : String) : Option Json := (tokens? text.toList).bind ofTokens?

end ClusterAudit.Json
