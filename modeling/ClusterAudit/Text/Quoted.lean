/-
Text in quotation marks. Quotation marks, backslashes and the common controls
get a backslash; any other character that does not print by itself is given by
its number, `\u` and the hexadecimal digits in braces.
-/
import ClusterAudit.Text.Printable

namespace ClusterAudit.Text

/-- The digits of `n` in base sixteen, small letters. -/
def hexadecimal (n : Nat) : List Char := Nat.toDigits 16 n

/-- One character inside double quotation marks. -/
def escaped (c : Char) : List Char :=
  match c with
  | '\x00' => ['\\', '0']
  | '\t' => ['\\', 't']
  | '\n' => ['\\', 'n']
  | '\r' => ['\\', 'r']
  | '\\' => ['\\', '\\']
  | '"' => ['\\', '"']
  | c => if isPrintable c then [c] else ['\\', 'u', '\x7b'] ++ hexadecimal c.toNat ++ ['\x7d']

/-- `s` in double quotation marks. -/
def quoted (s : String) : String :=
  String.ofList ('"' :: s.toList.flatMap escaped ++ ['"'])

end ClusterAudit.Text
