import TrafficShaping.Text.Printable

/-!
# Quoted text

Error messages show a text from outside between double quotes. A reader of the message has to be able to
tell where that text ends and which characters it holds, so quotes, backslashes and the usual controls are
written with a backslash, and a character that does not show is written by its code point. A single quote
is written as it is.
-/

namespace TrafficShaping.Text

/-- The digits of a number in base 16, lower case, without leading zeros. -/
def hexDigits (n : Nat) : List Char := Nat.toDigits 16 n

/-- One character of a quoted text. -/
def quoteChar (c : Char) : List Char :=
  match c with
  | '\x00' => ['\\', '0']
  | '\t' => ['\\', 't']
  | '\n' => ['\\', 'n']
  | '\r' => ['\\', 'r']
  | '\"' => ['\\', '\"']
  | '\\' => ['\\', '\\']
  | c => if isPrintable c then [c] else ['\\', 'u', '{'] ++ hexDigits c.toNat ++ ['}']

/-- A text between double quotes, with every character that would not show or would end it escaped. -/
def quoted (s : String) : String :=
  String.ofList ('\"' :: s.toList.flatMap quoteChar ++ ['\"'])

end TrafficShaping.Text
