/-
BlockTransfer.Text.Quoted — a text between quotes, so that it can be told from
what stands around it.

The quote, the backslash and the common control characters are written with a
backslash; a character that does not print is written as its code point in
braces; every other character stands for itself.
-/
import BlockTransfer.Text.Numeral
import BlockTransfer.Text.Printable

namespace BlockTransfer.Text

/-- How one character is written between quotes. -/
def quotedChar (c : Char) : String :=
  match c with
  | '\x00' => "\\0"
  | '\t' => "\\t"
  | '\n' => "\\n"
  | '\r' => "\\r"
  | '"' => "\\\""
  | '\\' => "\\\\"
  | c => if isPrintable c then c.toString else "\\u\x7b" ++ hexadecimal c.toNat ++ "\x7d"

/-- A text between quotes. -/
def quoted (text : String) : String :=
  "\"" ++ String.join (text.toList.map quotedChar) ++ "\""

end BlockTransfer.Text
